import RenderSync.Engine.Handlers
import RenderSync.Proofs.Passes

/-!
# Runs of an engine

An engine is reached by a list of moves (`Engine.Reachable`).  The moves are the operations of an
engine and its handlers, together with what happens outside: time, files, processes and the
network may become anything at all between two moves, and the reader may stop.  A pass during
which the outside changes is not one move but several: `operate` moves a single resource, so that
any piece of a pass, with any world between the pieces, is a run, too.

What all of this keeps is the invariant of the resources (`EngineResources.Sound`), move by move
(`Sound.move`) and hence along every run (`Reachable.sound`).  Handlers come into this through one
fact: a table whose handlers keep something keeps it for whole sequences of frames
(`HandlerTable.Keeps.dispatchAll`).
-/

namespace RenderSync

/-! ## 1. What handlers keep -/

namespace HandlerTable

variable {σ : Type} {good : σ → Prop} {table : HandlerTable σ}

/-- Every handler of the table keeps a property. -/
def Keeps (good : σ → Prop) (table : HandlerTable σ) : Prop :=
  ∀ entry ∈ table.entries, ∀ frame state, good state → good (entry.2 frame state).2

theorem Keeps.empty : (HandlerTable.empty : HandlerTable σ).Keeps good := nofun

theorem Keeps.insert (h : table.Keeps good) (name : String) {handler : Handler σ}
    (hhandler : ∀ frame state, good state → good (handler frame state).2) :
    (table.insert name handler).Keeps good := by
  intro entry hentry
  rcases List.mem_cons.mp hentry with rfl | hentry
  · exact hhandler
  · exact h entry (List.mem_filter.mp hentry).1

theorem Keeps.on (h : table.Keeps good) (kind : EventKind) {handle : Event → σ → Bool × σ}
    (hhandle : ∀ event state, good state → good (handle event state).2) :
    (table.on kind handle).Keeps good := by
  refine h.insert kind.name fun frame state hgood => ?_
  split
  · exact hhandle _ state hgood
  · exact hgood

/-- A table with one handler for many kinds of events. -/
theorem Keeps.onAll {handle : Event → σ → Bool × σ}
    (hhandle : ∀ event state, good state → good (handle event state).2) (kinds : List EventKind) :
    ∀ {table : HandlerTable σ}, table.Keeps good →
      (kinds.foldl (fun table kind => table.on kind handle) table).Keeps good := by
  induction kinds with
  | nil => exact fun h => h
  | cons kind rest ih => exact fun h => ih (h.on kind hhandle)

theorem Keeps.dispatch (h : table.Keeps good) (frame : Json) {state : σ} (hgood : good state) :
    good (table.dispatch frame state).2 := by
  unfold HandlerTable.dispatch HandlerTable.handlerOf?
  split
  · next handler hfound =>
    obtain ⟨name, -, hlookup⟩ := Option.bind_eq_some_iff.mp hfound
    obtain ⟨before, after, hentries, -⟩ := List.lookup_eq_some_iff.mp hlookup
    have hmem : (name, handler) ∈ table.entries := by
      rw [hentries]
      exact List.mem_append_right before List.mem_cons_self
    exact h (name, handler) hmem frame state hgood
  · exact hgood

/-- **What handlers keep is kept by every sequence of frames.** -/
theorem Keeps.dispatchAll (h : table.Keeps good) (frames : List Json) :
    ∀ {state : σ}, good state → good (table.dispatchAll frames state).2 := by
  induction frames with
  | nil => exact fun hgood => hgood
  | cons frame rest ih =>
    intro state hgood
    have hnext := h.dispatch frame hgood
    unfold HandlerTable.dispatchAll
    rcases hstep : table.dispatch frame state with ⟨_ | _, next⟩ <;> rw [hstep] at hnext
    · exact hnext
    · exact ih hnext

/-- It is kept by everything that arrives, too, if it is kept by what that does to the channel. -/
theorem Keeps.receive (h : table.Keeps good) (place : Channel.Place σ) (bytes : List UInt8)
    (htake : ∀ state, good state → good (place.set ((place.get state).take bytes).2 state))
    (hstop : ∀ state, good state → good (place.set (place.get state).stopReading state))
    {state : σ} (hgood : good state) : good (Channel.receive place table bytes state) := by
  have htaken := htake state hgood
  unfold Channel.receive
  rcases htook : (place.get state).take bytes with ⟨frames, channel⟩
  rw [htook] at htaken
  have hall := h.dispatchAll frames htaken
  dsimp only
  generalize place.set channel state = taken at hall ⊢
  rcases hdone : table.dispatchAll frames taken with ⟨_ | _, after⟩ <;> rw [hdone] at hall
  · exact hstop after hall
  · exact hall

end HandlerTable

/-! ## 2. Moves -/

/-- A single operation on a resource, as passes are made of them. -/
inductive ResourceMove where
  | setPath (path : Option Path)
  | load
  | unload
  | connect (config : ServerConfig)
  | disconnect

/-- What can happen to an engine. -/
inductive EngineMove where
  | apply (now : Moment) (edit : DesiredState → DesiredState)
  /-- A draft is committed, or given up. -/
  | commit (now : Moment) (draft : DesiredState)
  | applySettings (now : Moment) (settings : Settings)
  | reconcile (now : Moment)
  | shutdown (now : Moment)
  | schedule (edit : DesiredState → DesiredState)
  | runScheduled (now : Moment)
  | handle (now : Moment) (event : Event)
  /-- Bytes arrive, and the passes are run that their events schedule. -/
  | receive (now : Moment) (bytes : List UInt8)
  /-- A piece of a pass. -/
  | operate (operation : ResourceMove)
  /-- The peer says no more. -/
  | stopReading
  /-- The outside becomes another one. -/
  | outside (world : World)

variable {ι : Type}

/-- An operation on a resource. -/
def EngineResources.operate (loader : LibraryLoader ι) (operation : ResourceMove)
    (resources : EngineResources ι) : EngineResources ι :=
  match operation with
  | .setPath path => ((controls loader).setPath path resources).2
  | .load => ((controls loader).load resources).2
  | .unload => ((controls loader).unload resources).2
  | .connect config => ((controls loader).connect config resources).2
  | .disconnect => (controls loader).disconnect resources

namespace Engine

/-- The engine in another world. -/
def within (world : World) (engine : Engine ι) : Engine ι :=
  { engine with resources := { engine.resources with world := world } }

/-- One move. -/
def move (loader : LibraryLoader ι) : EngineMove → Engine ι → Engine ι
  | .apply now edit, engine => (engine.apply loader now edit).2
  | .commit now draft, engine =>
    (engine.run (Reconciler.commit (EngineResources.controls loader) now draft)).2
  | .applySettings now settings, engine => (engine.applySettings loader now settings).2
  | .reconcile now, engine => (engine.reconcile loader now).2
  | .shutdown now, engine => (engine.shutdown loader now).2
  | .schedule edit, engine => engine.schedule edit
  | .runScheduled now, engine => engine.runScheduled loader now
  | .handle now event, engine => (engine.handle now event).2
  | .receive now bytes, engine => engine.receive loader now bytes
  | .operate operation, engine =>
    { engine with resources := engine.resources.operate loader operation }
  | .stopReading, engine =>
    channelPlace.set (channelPlace.get engine).stopReading engine
  | .outside world, engine => engine.within world

/-- Moves, one after the other. -/
def moves (loader : LibraryLoader ι) (list : List EngineMove) (engine : Engine ι) : Engine ι :=
  list.foldl (fun engine next => engine.move loader next) engine

/-- The engine came about by moves, from one that had done nothing yet. -/
def Reachable (loader : LibraryLoader ι) (engine : Engine ι) : Prop :=
  ∃ options world list, engine = (Engine.start options world).moves loader list

/-! ## 3. The invariant along a run -/

/-- **The invariant of an engine.** -/
def Sound (loader : LibraryLoader ι) (engine : Engine ι) : Prop := engine.resources.Sound loader

variable {loader : LibraryLoader ι} {engine : Engine ι}

theorem Sound.start (options : EngineOptions) (world : World) :
    (Engine.start options world : Engine ι).Sound loader :=
  ⟨Library.Sound.start _, Session.Sound.start _ _ _ _⟩

/-- The channel does not matter. -/
theorem Sound.setChannel (h : engine.Sound loader) (channel : Channel) :
    (channelPlace.set channel engine).Sound loader := ⟨h.library, h.session.congr rfl rfl⟩

/-- A pass keeps the invariant. -/
theorem Sound.reconcile (h : engine.Sound loader) (now : Moment) :
    (engine.reconcile loader now).2.Sound loader := h.matchAll _

/-- So do several of them. -/
theorem Sound.runPasses (now : Moment) (count : Nat) :
    ∀ {engine : Engine ι}, engine.Sound loader → (engine.runPasses loader now count).Sound loader
    := by
  induction count with
  | zero => exact fun h => h
  | succ count ih => exact fun h => ih (h.reconcile now)

theorem Sound.runScheduled (h : engine.Sound loader) (now : Moment) :
    (engine.runScheduled loader now).Sound loader := Sound.runPasses now engine.scheduled h

/-- Only the resources matter. -/
theorem Sound.congr {other : Engine ι} (h : engine.Sound loader)
    (hresources : other.resources = engine.resources) : other.Sound loader := by
  unfold Sound
  rw [hresources]
  exact h

/-- An announcement that keeps the session sound keeps the engine sound. -/
theorem Sound.announce (h : engine.Sound loader)
    {operation : Session → World → Except ServerError Unit × Session × World}
    (hsession : ∀ {session : Session} (world), session.Sound →
      (operation session world).2.1.Sound) : (engine.announce operation).Sound loader :=
  ⟨h.library, hsession engine.resources.world h.session⟩

/-- Whether or not there is something to announce. -/
theorem Sound.announceUnless (h : engine.Sound loader) (same : Prop) [Decidable same]
    {operation : Session → World → Except ServerError Unit × Session × World}
    (hsession : ∀ {session : Session} (world), session.Sound →
      (operation session world).2.1.Sound) :
    (if same then engine else engine.announce operation).Sound loader := by
  split
  · exact h
  · exact h.announce hsession

/-- The engine once preferences are stored and announced, before their pass. -/
def stored (settings : Settings) (engine : Engine ι) : Engine ι :=
  let before := engine.resources.session.bootstrap
  let session := { engine.resources.session with bundledCli := settings.server.bundledCliPath }
  let engine :=
    { engine with
      notifications :=
        { engine.notifications with lifetime := .ofSeconds settings.notificationSeconds }
      resources := { engine.resources with session := session } }
  let executable := settings.project.buildExecutableOnChange
  let engine :=
    if before.buildExecutableOnChange = executable then engine
    else engine.announce (Session.updateBuildOnChange executable)
  if before.projectDirectory.same settings.project.directory then engine
  else engine.announce (Session.updateProjectDirectory settings.project.directory)

/-- What is stored and announced is the session's alone, the lifetime of messages apart. -/
theorem stored_eq (settings : Settings) (engine : Engine ι) :
    ∃ resources, engine.stored settings =
      { engine with
        notifications :=
        { engine.notifications with lifetime := .ofSeconds settings.notificationSeconds }
        resources := resources } := by
  unfold stored
  dsimp only
  split <;> split <;> exact ⟨_, rfl⟩

theorem Sound.stored (h : engine.Sound loader) (settings : Settings) :
    (engine.stored settings).Sound loader := by
  have hplaced : ({ engine with
      notifications :=
        { engine.notifications with lifetime := .ofSeconds settings.notificationSeconds }
      resources := { engine.resources with
        session := { engine.resources.session with
          bundledCli := settings.server.bundledCliPath } } } : Engine ι).Sound loader :=
    ⟨h.library, h.session.congr rfl rfl⟩
  have hbuilds := hplaced.announceUnless
    (engine.resources.session.bootstrap.buildExecutableOnChange =
      settings.project.buildExecutableOnChange)
    fun world hsound => Session.Sound.updateBuildOnChange hsound
      settings.project.buildExecutableOnChange world
  exact hbuilds.announceUnless _ fun world hsound =>
    Session.Sound.updateProjectDirectory hsound settings.project.directory world

/-- Preferences do nothing once the exit has begun. -/
theorem applySettings_of_exiting (hexiting : engine.reconciler.isExiting = true) (now : Moment)
    (settings : Settings) : engine.applySettings loader now settings = (.ok (), engine) := by
  unfold Engine.applySettings
  rw [hexiting]
  rfl

/-- **Before that they are stored and announced, and then an edit goes through a pass.** -/
theorem applySettings_eq (hexiting : engine.reconciler.isExiting = false) (now : Moment)
    (settings : Settings) :
    engine.applySettings loader now settings =
      (engine.stored settings).apply loader now settings.applyTo := by
  have hpass : engine.applySettings loader now settings = (engine.stored settings).run
      (Reconciler.applySettings (EngineResources.controls loader) now settings) := by
    unfold Engine.applySettings
    rw [hexiting]
    rfl
  obtain ⟨resources, hstored⟩ := stored_eq settings engine
  rw [hpass, hstored, Engine.run, Reconciler.applySettings, hexiting]
  rfl

/-- Preferences keep the invariant. -/
theorem Sound.applySettings (h : engine.Sound loader) (now : Moment) (settings : Settings) :
    (engine.applySettings loader now settings).2.Sound loader := by
  cases hexiting : engine.reconciler.isExiting with
  | true =>
    rw [applySettings_of_exiting hexiting]
    exact h
  | false =>
    rw [applySettings_eq hexiting]
    exact (h.stored settings).matchAll
      (settings.applyTo (engine.stored settings).reconciler.desired)

/-! ## 4. Handlers -/

/-- Neither the notifications nor the builds are resources.  They are variables here, since an
operation on the clock must not be evaluated to see this. -/
theorem resources_of_notices (engine : Engine ι) (notifications : Notifications)
    (spans : BuildSpans) :
    { engine with notifications := notifications, spans := spans }.resources = engine.resources :=
  rfl

theorem tell_resources (now : Moment) (message : String) (engine : Engine ι) :
    (engine.tell now message).2.resources = engine.resources :=
  resources_of_notices engine (engine.notifications.addTimed now message).2 engine.spans

theorem buildStarted_resources (now : Moment) (target : BuildTarget) (engine : Engine ι) :
    (engine.buildStarted now target).resources = engine.resources :=
  resources_of_notices engine (engine.spans.started now target engine.notifications).2
    (engine.spans.started now target engine.notifications).1

theorem buildEnded_resources (target : BuildTarget) (engine : Engine ι) :
    (engine.buildEnded target).resources = engine.resources :=
  resources_of_notices engine (engine.spans.ended target engine.notifications).2.2
    (engine.spans.ended target engine.notifications).2.1

/-- **A handler touches the resources only to set the programs of the library.** -/
theorem handle_resources (now : Moment) (event : Event) (engine : Engine ι) :
    (engine.handle now event).2.resources = engine.resources ∨
      ∃ programs, (engine.handle now event).2.resources =
        { engine.resources with
          library := engine.resources.library.mapSlot (LibrarySlot.setPrograms programs) } := by
  cases event with
  | buildStarted target => exact Or.inl (buildStarted_resources now target engine)
  | buildEnded target successful duration =>
    refine Or.inl ?_
    unfold Engine.handle
    dsimp only
    split
    · exact buildEnded_resources target engine
    · rw [tell_resources, buildEnded_resources]
  | libraryCompiled path => exact Or.inl rfl
  | executableCompiled path size => exact Or.inl (tell_resources now _ engine)
  | exported path => exact Or.inl (tell_resources now _ engine)
  | runFinished duration => exact Or.inl rfl
  | error message => exact Or.inl rfl
  | shaderSetProvided set =>
    unfold Engine.handle Engine.shaderSetProvided
    dsimp only
    split
    · exact Or.inl rfl
    · exact Or.inr ⟨set.sources, rfl⟩

/-- **A handler keeps the invariant.** -/
theorem Sound.handle (h : engine.Sound loader) (now : Moment) (event : Event) :
    (engine.handle now event).2.Sound loader := by
  rcases handle_resources now event engine with hsame | ⟨programs, hset⟩
  · exact h.congr hsame
  · unfold Sound
    rw [hset]
    exact ⟨h.library.setPrograms programs, h.session⟩

theorem Sound.receive (h : engine.Sound loader) (now : Moment) (bytes : List UInt8) :
    (engine.receive loader now bytes).Sound loader := by
  have hkeeps : (handlers now : HandlerTable (Engine ι)).Keeps (Sound loader) :=
    HandlerTable.Keeps.onAll (fun event _ hgood => hgood.handle now event) EventKind.all .empty
  have hreceived := hkeeps.receive channelPlace bytes
    (fun _ hgood => Sound.setChannel hgood _) (fun _ hgood => Sound.setChannel hgood _) h
  exact hreceived.runScheduled now

theorem Sound.operate (h : engine.Sound loader) (operation : ResourceMove) :
    (engine.resources.operate loader operation).Sound loader := by
  have hr := LibrarySlot.use_respects loader
  have hcopy : engine.resources.copyState.held.Sound (LibrarySlot.Fits loader)
      engine.resources.copyState.user := h.library
  cases operation with
  | setPath path => exact ⟨hcopy.setSource hr path, h.session⟩
  | load => exact ⟨hcopy.openCopy hr, h.session⟩
  | unload => exact ⟨hcopy.closeCopy hr, h.session⟩
  | connect config =>
    exact ⟨h.library, (Session.connect_spec h.session config engine.resources.world).1⟩
  | disconnect => exact ⟨h.library, h.session.disconnect engine.resources.world⟩

/-- **Every move keeps the invariant.** -/
theorem Sound.move (h : engine.Sound loader) (next : EngineMove) :
    (engine.move loader next).Sound loader := by
  cases next with
  | apply now edit => exact h.matchAll _
  | commit now draft => exact h.matchAll _
  | applySettings now settings => exact h.applySettings now settings
  | reconcile now => exact h.reconcile now
  | shutdown now => exact h.matchAll (Reconciler.atRest engine.reconciler.desired)
  | schedule edit => exact h
  | runScheduled now => exact h.runScheduled now
  | handle now event => exact h.handle now event
  | receive now bytes => exact h.receive now bytes
  | operate operation => exact h.operate operation
  | stopReading => exact h.setChannel _
  | outside world => exact ⟨h.library, h.session⟩

/-- **The invariant holds along every run.** -/
theorem Sound.moves (list : List EngineMove) :
    ∀ {engine : Engine ι}, engine.Sound loader → (engine.moves loader list).Sound loader := by
  induction list with
  | nil => exact fun h => h
  | cons next rest ih => exact fun h => ih (h.move next)

theorem Reachable.sound (h : engine.Reachable loader) : engine.Sound loader := by
  obtain ⟨options, world, list, rfl⟩ := h
  exact Sound.moves list (Sound.start options world)

/-! ## 5. A small system -/

/-- Some files and a directory for copies, and ports where somebody listens; no process runs. -/
def smallWorld (files : List (Place × Entry)) (listening : List UInt16) : World where
  files := { entries := (["work"], .directory 0o755) :: files, here := [] }
  processes := .start
  network := ⟨true, listening, [], []⟩
  surroundings := ⟨⟨"/bin"⟩, [], ⟨"/tmp"⟩, none⟩

/-- Copies go to `/work`, and nothing is wanted to begin with. -/
def smallOptions : EngineOptions := 
  ⟨⟨"/work"⟩, none, 0, ⟨⟨"/"⟩, false⟩, .ofSeconds 5, .default⟩

/-- A library is wanted at a path, or not. -/
def libraryAt (loaded : Bool) (path : String) : DesiredState :=
  { DesiredState.default with library := ⟨loaded, some ⟨path⟩⟩ }

/-- A program that waits. -/
def cliFile : Place × Entry := (["cli"], .file 0o755 (.image "sleep"))

/-- A file with a text. -/
def textFile (name text : String) : Place × Entry :=
  ([name], .file 0o644 (.octets (Utf8.ofString text)))

end Engine

end RenderSync
