import RenderSync.CommandLine.Outcome
import RenderSync.Files.Upkeep
import RenderSync.Text.Substitution

/-!
# Runs that go on

A run that does not end with its first pass is a `Service`: it makes a pass again and again while
something is not as desired, takes over the settings whenever their file was written, and shuts down
when it is interrupted.  `Progress` is how far any invocation has come: it goes on, or it is over.
-/

namespace RenderSync.CommandLine

variable {ι : Type}

/-! ## 1. Running -/

/-- A run that goes on. -/
structure Service (ι : Type) where
  engine : Engine ι
  /-- The settings file that is followed. -/
  file : Path
  /-- How long to wait for the next attempt, in nanoseconds. -/
  retry : Nat
  /-- When a change of the file was last seen. -/
  changedAt : Option Moment

namespace Service

/-- The shortest time between attempts. -/
def shortestRetry : Nat := second / 10

/-- Changes that follow this close belong together. -/
def sameChange : Nat := 3 * (second / 10)

/-- The time between attempts that settings ask for. -/
def retryOf (settings : Settings) : Nat :=
  max (settings.retryMilliseconds.toNat * (second / 1000)) shortestRetry

/-- The first pass of a run. -/
def start (loader : LibraryLoader ι) (now : Moment) (options : RunOptions) (file : Path)
    (settings : Settings) (world : World) : Service ι :=
  let asked := EngineOptions.ofSettings world.surroundings settings
  let asked :=
    { asked with
      desired.server.connected := options.connects
      desired.library.loaded := options.loads }
  let (_, engine) := (Engine.start asked world).reconcile loader now
  ⟨engine, file, retryOf settings, none⟩

/-- What is in effect and how the pass went, as it is printed. -/
def report (controls : ResourceControls (EngineResources ι)) (moment : Option Moment → Json)
    (service : Service ι) : Json :=
  Json.sorted (.object [("current", (controls.current service.engine.resources).toJson),
    ("status", service.engine.reconciler.status.toJson moment)])

/-- Makes a pass, unless everything is as desired. -/
def tick (loader : LibraryLoader ι) (now : Moment) (service : Service ι) : Service ι :=
  let engine := service.engine
  if engine.reconciler.isConverged (EngineResources.controls loader) engine.resources then service
  else { service with engine := (engine.reconcile loader now).2 }

/-- The change of the file at `now` belongs to one that was seen already. -/
def isEcho (now : Moment) (service : Service ι) : Bool :=
  service.changedAt.any fun seen => now - seen < sameChange

/-- The file was written: settings that can be read are taken over. -/
def fileChanged (loader : LibraryLoader ι) (now : Moment) (service : Service ι) : Service ι :=
  if service.isEcho now then service
  else
    let service := { service with changedAt := some now }
    match Settings.load service.engine.resources.world.files service.file with
    | .error _ => service
    | .ok settings =>
      { service with
        engine := (service.engine.applySettings loader now settings).2
        retry := retryOf settings }

/-- The files as the run sees them. -/
def files (service : Service ι) : FileTree := service.engine.resources.world.files

/-- The directory of a file. -/
def directoryOf (file : Path) : Path :=
  match file.parent? with
  | some directory => if directory.text = "" then ⟨"."⟩ else directory
  | none => ⟨"."⟩

/-- A path leads to the settings file, which is new or has a new content. -/
def concerns (path : Path) (files : FileTree) (service : Service ι) : Bool :=
  path.fileName?.isSome && path.fileName? == service.file.fileName? &&
    files.locate? (directoryOf path) == files.locate? (directoryOf service.file) &&
    files.find? path != service.files.find? path

/-- Somebody has changed the files, perhaps at a path. -/
def changed (loader : LibraryLoader ι) (now : Moment) (path : Path) (files : FileTree)
    (service : Service ι) : Service ι :=
  let isNew := service.concerns path files
  let service := { service with engine.resources.world.files := files }
  if isNew then service.fileChanged loader now else service

/-- The end of a run: everything is unloaded and disconnected. -/
def stop (loader : LibraryLoader ι) (now : Moment) (service : Service ι) : World :=
  ((service.engine.shutdown loader now).2.finish loader).resources.world

end Service

/-- The settings file of a run. -/
def settingsFile? (options : RunOptions) (surroundings : Surroundings) : Option Path :=
  options.settings <|> surroundings.home.map Settings.fileIn

/-- Begins a run; `error` is an end of it. -/
def beginRun (loader : LibraryLoader ι) (now : Moment) (options : RunOptions) (world : World) :
    Except Outcome (Service ι) :=
  match settingsFile? options world.surroundings with
  | none => .error (.homeless world)
  | some file =>
    match Settings.load world.files file with
    | .error _ => .error (.failure ("failed to load settings from " ++ file.text) world)
    | .ok settings => .ok (.start loader now options file settings world)

/-- Makes one pass, prints what came of it and ends. -/
def runOnce (loader : LibraryLoader ι) (now : Moment) (moment : Option Moment → Json)
    (options : RunOptions) (world : World) : Outcome :=
  match beginRun loader now options world with
  | .error outcome => outcome
  | .ok service =>
    .success ((service.report (EngineResources.controls loader) moment).renderIndented ++ "\n")
      (service.stop loader now)

/-! ## 2. Invocations -/

/-- Does something below the home directory. -/
def atHome (act : Path → World → Outcome) (world : World) : Outcome :=
  match world.surroundings.home with
  | none => .homeless world
  | some home => act home world

/-- How far an invocation has come. -/
inductive Progress (ι : Type) where
  | going (service : Service ι)
  | ended (outcome : Outcome)

/-- Begins to follow the settings file of a run, whose directory is made if it is missing. -/
def follow (loader : LibraryLoader ι) (now : Moment) (service : Service ι) : Progress ι :=
  let directory := Service.directoryOf service.file
  let (made, files) := service.files.layDirectories directory
  let service := { service with engine.resources.world.files := files }
  if made then .going service
  else .ended (.failure ("failed to create " ++ directory.text) (service.stop loader now))

/-- Begins what arguments ask for. -/
def start (loader : LibraryLoader ι) (now : Moment) (moment : Option Moment → Json)
    (arguments : List String) (world : World) : Progress ι :=
  match parse arguments with
  | .error refusal => .ended (.ofRefusal refusal world)
  | .ok (.settings action) => .ended (atHome (manageSettings action) world)
  | .ok (.send options) => .ended (atHome (sendCommand options) world)
  | .ok (.run options) =>
    if options.once then .ended (runOnce loader now moment options world)
    else
      match beginRun loader now options world with
      | .error outcome => .ended outcome
      | .ok service => follow loader now service

namespace Progress

/-- The files as they are. -/
def files : Progress ι → FileTree
  | going service => service.files
  | ended outcome => outcome.world.files

/-- The invocation is interrupted: a run ends as it should. -/
def interrupt (loader : LibraryLoader ι) (now : Moment) : Progress ι → Outcome
  | going service => .success "" (service.stop loader now)
  | ended outcome => outcome

/-- Somebody has changed the files, perhaps at a path. -/
def changed (loader : LibraryLoader ι) (now : Moment) (path : Path) (files : FileTree) :
    Progress ι → Progress ι
  | going service => .going ((service.changed loader now path files).tick loader now)
  | ended outcome => .ended { outcome with world.files := files }

/-- A line with some text in it comes sooner or later: one that goes on has all the time it needs,
one that is over has said what it says. -/
def tells (text : String) : Progress ι → Bool
  | going _ => true
  | ended outcome =>
    (FileTree.splitLines outcome.errors).any fun line =>
      Text.isIn text.toList line.toList

end Progress

/-- What arguments do; a run that goes on is interrupted after its first pass. -/
def perform (loader : LibraryLoader ι) (now : Moment) (moment : Option Moment → Json)
    (arguments : List String) (world : World) : Outcome :=
  (start loader now moment arguments world).interrupt loader now

end RenderSync.CommandLine
