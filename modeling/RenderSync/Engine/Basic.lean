import RenderSync.BuildSpans
import RenderSync.Library.Basic
import RenderSync.Process.Supervisor
import RenderSync.Reconciler.Basic
import RenderSync.Server.Bootstrap
import RenderSync.Server.Session
import RenderSync.Uniforms.Basic
import RenderSync.WorkingCopy

/-!
# The engine

The library and the session as the resources of one reconciler, with what the user sees of them.
Handlers of events cannot wait for a pass, since a pass may have to wait for them: they edit the
desired state and schedule a pass, which is run later (`runScheduled`).
-/

namespace RenderSync

/-! ## 1. Options -/

/-- What an engine is set up with. -/
structure EngineOptions where
  /-- Where working copies are made. -/
  workDirectory : Path
  bundledCli : Option Path
  /-- How long a process may take to end, in nanoseconds. -/
  grace : Nat
  bootstrap : Bootstrap
  /-- Lifetime of passing notifications. -/
  notificationLifetime : Duration
  /-- The desired state to begin with. -/
  desired : DesiredState
deriving Repr, Inhabited

namespace EngineOptions

/-- The options that settings ask for. -/
def ofSettings (surroundings : Surroundings) (settings : Settings) : EngineOptions where
  workDirectory := WorkingCopy.directoryIn surroundings.temporary
  bundledCli := settings.server.bundledCliPath
  grace := Supervisor.defaultGrace
  bootstrap := .ofSettings settings
  notificationLifetime := .ofSeconds settings.notificationSeconds
  desired := settings.applyTo .default

/-- The options as a value, all durations in whole seconds. -/
def toJson (options : EngineOptions) : Json :=
  .object
    [("bundled_cli", Json.ofOption (fun path : Path => .string path.text) options.bundledCli),
      ("project_directory", .string options.bootstrap.projectDirectory.text),
      ("build_executable_on_change", .bool options.bootstrap.buildExecutableOnChange),
      ("notification_secs", Json.nat options.notificationLifetime.seconds.toNat),
      ("grace_secs", Json.nat (options.grace / second)), ("desired", options.desired.toJson)]

end EngineOptions

/-! ## 2. Resources -/

/-- What passes act on. -/
structure EngineResources (ι : Type) where
  world : World
  library : Library ι
  session : Session

namespace EngineResources

variable {ι : Type}

/-- Does something to the library. -/
def withLibrary (operation : Library ι → FileTree → Bool × Library ι × FileTree)
    (resources : EngineResources ι) : Bool × EngineResources ι :=
  let (done, library, files) := operation resources.library resources.world.files
  (done, { resources with library := library, world := { resources.world with files := files } })

/-- Does something to the session. -/
def withSession {α : Type} (operation : Session → World → α × Session × World)
    (resources : EngineResources ι) : α × EngineResources ι :=
  let (answer, session, world) := operation resources.session resources.world
  (answer, { resources with session := session, world := world })

/-- Lets the connection go and stops the process. -/
def disconnect (resources : EngineResources ι) : EngineResources ι :=
  let (session, world) := resources.session.disconnect resources.world
  { resources with session := session, world := world }

/-- The operations that a pass uses. -/
def controls (loader : LibraryLoader ι) : ResourceControls (EngineResources ι) where
  library resources := resources.library.current
  setPath path := withLibrary (Library.setPath loader path)
  load := withLibrary (Library.load loader)
  unload := withLibrary (Library.unload loader)
  server resources := resources.session.current
  connect config := withSession (Session.connect config)
  disconnect := disconnect

end EngineResources

/-- An engine. -/
structure Engine (ι : Type) where
  resources : EngineResources ι
  reconciler : Reconciler
  notifications : Notifications
  spans : BuildSpans
  uniforms : Uniforms
  /-- Passes that were scheduled and not run yet. -/
  scheduled : Nat

namespace Engine

variable {ι : Type}

/-- An engine that has done nothing yet. -/
def start (options : EngineOptions) (world : World) : Engine ι where
  resources :=
    ⟨world, .start options.workDirectory,
      .start options.workDirectory options.grace options.bundledCli options.bootstrap⟩
  reconciler := .start options.desired
  notifications := .empty options.notificationLifetime
  spans := .none
  uniforms := .none
  scheduled := 0

/-- How often a redraw was announced: for notifications, the library and the uniforms. -/
def redraws (engine : Engine ι) : Nat :=
  engine.notifications.redraws + engine.resources.library.slot.changes + engine.uniforms.changes

/-! ## 3. Passes -/

/-- A pass, or anything that ends with one. -/
abbrev PassOf (ι : Type) :=
  Reconciler → EngineResources ι → Except ReconcileError Unit × Reconciler × EngineResources ι

/-- Runs a pass. -/
def run (pass : PassOf ι) (engine : Engine ι) : Except ReconcileError Unit × Engine ι :=
  let (result, reconciler, resources) := pass engine.reconciler engine.resources
  (result, { engine with reconciler := reconciler, resources := resources })

/-- One pass. -/
def reconcile (loader : LibraryLoader ι) (now : Moment) :
    Engine ι → Except ReconcileError Unit × Engine ι :=
  run (Reconciler.reconcile (EngineResources.controls loader) now)

/-- Edits the desired state and makes a pass. -/
def apply (loader : LibraryLoader ι) (now : Moment) (edit : DesiredState → DesiredState) :
    Engine ι → Except ReconcileError Unit × Engine ι :=
  run (Reconciler.apply (EngineResources.controls loader) now edit)

/-- Exit: unloads the library and disconnects. -/
def shutdown (loader : LibraryLoader ι) (now : Moment) :
    Engine ι → Except ReconcileError Unit × Engine ι :=
  run (Reconciler.shutdown (EngineResources.controls loader) now)

/-- Edits the desired state now and leaves the pass for later. -/
def schedule (edit : DesiredState → DesiredState) (engine : Engine ι) : Engine ι :=
  { engine with
    reconciler := engine.reconciler.mutate edit
    scheduled := engine.scheduled + 1 }

/-- `count` passes. -/
def runPasses (loader : LibraryLoader ι) (now : Moment) : (count : Nat) → Engine ι → Engine ι
  | 0, engine => engine
  | count + 1, engine => runPasses loader now count (engine.reconcile loader now).2

/-- Runs the passes that were scheduled. -/
def runScheduled (loader : LibraryLoader ι) (now : Moment) (engine : Engine ι) : Engine ι :=
  runPasses loader now engine.scheduled { engine with scheduled := 0 }

/-! ## 4. Settings -/

/-- Changes what is announced to the server; a failure to announce changes nothing else. -/
def announce (operation : Session → World → Except ServerError Unit × Session × World)
    (engine : Engine ι) : Engine ι :=
  { engine with resources := (engine.resources.withSession operation).2 }

/-- Takes over new preferences: those for the server are announced right away where they differ,
the others go through a pass.  Nothing happens once the exit has begun. -/
def applySettings (loader : LibraryLoader ι) (now : Moment) (settings : Settings)
    (engine : Engine ι) : Except ReconcileError Unit × Engine ι :=
  if engine.reconciler.isExiting then (.ok (), engine)
  else
    let before := engine.resources.session.bootstrap
    let session := { engine.resources.session with bundledCli := settings.server.bundledCliPath }
    let engine :=
      { engine with
        notifications :=
          { engine.notifications with lifetime := .ofSeconds settings.notificationSeconds }
        resources := { engine.resources with session := session } }
    let executable := settings.project.buildExecutableOnChange
    let engine :=
      if before.buildExecutableOnChange = executable then engine
      else engine.announce (Session.updateBuildOnChange executable)
    let engine :=
      if before.projectDirectory.same settings.project.directory then engine
      else engine.announce (Session.updateProjectDirectory settings.project.directory)
    engine.run
      (Reconciler.applySettings (EngineResources.controls loader) now settings)

end Engine

end RenderSync
