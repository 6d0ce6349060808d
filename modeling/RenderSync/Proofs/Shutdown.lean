import RenderSync.Library.Journal
import RenderSync.Proofs.Runs

/-!
# What a shutdown leaves

A shutdown is one more pass, with nothing desired any more, and settings do not count from then on.
It finds whatever earlier passes have left half done.

For the session that is no difficulty: however it stands, disconnecting makes it idle and ends the
process.  For the library it is one in a single case, which is the same as for any other pass: a
wish that a load which failed has left behind, together with a path that has changed since.  Then
the shutdown loads the library, reports success, and leaves it loaded.  In every other case the
engine is at rest, and `shutdown_rests_iff` says so for all that may follow.

`Retired` is the invariant of what follows: nothing is desired, the session is idle and the path
is settled.  A pass keeps it, and unloads what is loaded.
-/

namespace RenderSync

/-- A move that comes after a shutdown: settings, passes, and what happens outside. -/
def EngineMove.IsLate : EngineMove → Prop
  | .applySettings .. | .reconcile _ | .runScheduled _ | .outside _ => True
  | _ => False

namespace Engine

variable {ι : Type} {loader : LibraryLoader ι} {engine : Engine ι}

/-- Nothing is loaded, no working copy is held, and the session is idle. -/
structure AtRest (engine : Engine ι) : Prop where
  isOpen : engine.resources.library.held.isOpen = false
  copy : engine.resources.library.held.copy = none
  loaded : engine.resources.library.slot.loaded = none
  session : engine.resources.session.Idle

/-- **What holds after a shutdown**, whatever has become of the library. -/
structure Retired (loader : LibraryLoader ι) (engine : Engine ι) : Prop where
  sound : engine.Sound loader
  exiting : engine.reconciler.isExiting = true
  unloaded : engine.reconciler.desired.library.loaded = false
  disconnected : engine.reconciler.desired.server.connected = false
  idle : engine.resources.session.Idle
  points : engine.resources.library.held.pointsTo engine.reconciler.desired.library.path = true

/-- An engine that is retired and has nothing in use is at rest. -/
theorem Retired.atRest (h : engine.Retired loader)
    (hopen : engine.resources.library.held.isOpen = false) : engine.AtRest := by
  have hloaded : engine.resources.library.isLoaded = false :=
    h.sound.library.isLoaded_eq.trans hopen
  exact ⟨hopen, WorkingCopy.Sound.copy_eq_none h.sound.library hopen,
    Option.isNone_iff_eq_none.mp (Option.isSome_eq_false_iff.mp hloaded), h.idle⟩

/-! ## 1. What follows a shutdown -/

/-- **A pass keeps an engine retired**, and nothing is in use after it. -/
theorem Retired.reconcile (h : engine.Retired loader) (now : Moment) :
    (engine.reconcile loader now).2.Retired loader ∧
      (engine.reconcile loader now).2.resources.library.held.isOpen = false := by
  have hsettled : engine.resources.session.Settled engine.reconciler.desired.server :=
    ⟨fun hyes => absurd (h.disconnected.symm.trans hyes) Bool.false_ne_true, fun _ => h.idle⟩
  have hpass : (engine.reconcile loader now).2.resources =
      (engine.resources.lifted (libraryStep (LibrarySlot.use loader)
        engine.reconciler.desired.library engine.resources.copyState)).2 :=
    congrArg Prod.snd (EngineResources.matchAll_of_settled hsettled)
  have hr := LibrarySlot.use_respects loader
  have hcopy : engine.resources.copyState.held.Sound (LibrarySlot.Fits loader)
      engine.resources.copyState.user := h.sound.library
  have hclosed := (CopyState.libraryStep_again hr hcopy h.points
    fun hyes => absurd (h.unloaded.symm.trans hyes) Bool.false_ne_true).2
  have hpoints := CopyState.libraryStep_path hr hcopy engine.reconciler.desired.library
  refine ⟨⟨h.sound.reconcile now, h.exiting, h.unloaded, h.disconnected, ?_, ?_⟩, ?_⟩
  · rw [hpass]
    exact h.idle
  · rw [hpass]
    exact hpoints
  · rw [hpass]
    exact hclosed.trans h.unloaded

/-- So do several passes. -/
theorem Retired.runPasses (now : Moment) (count : Nat) :
    ∀ {engine : Engine ι}, engine.Retired loader →
      (engine.runPasses loader now count).Retired loader ∧
        (engine.resources.library.held.isOpen = false →
          (engine.runPasses loader now count).resources.library.held.isOpen = false) := by
  induction count with
  | zero => exact fun h => ⟨h, id⟩
  | succ count ih =>
    intro engine h
    obtain ⟨hnext, hclosed⟩ := h.reconcile now
    obtain ⟨hlast, hstill⟩ := ih hnext
    exact ⟨hlast, fun _ => hstill hclosed⟩

/-- **Every late move keeps an engine retired**, and puts nothing to use. -/
theorem Retired.move (h : engine.Retired loader) {next : EngineMove} (hlate : next.IsLate) :
    (engine.move loader next).Retired loader ∧
      (engine.resources.library.held.isOpen = false →
        (engine.move loader next).resources.library.held.isOpen = false) := by
  cases next with
  | applySettings now settings =>
    have hmove : engine.move loader (.applySettings now settings) = engine :=
      congrArg Prod.snd (applySettings_of_exiting h.exiting now settings)
    rw [hmove]
    exact ⟨h, id⟩
  | reconcile now =>
    obtain ⟨hnext, hclosed⟩ := h.reconcile now
    exact ⟨hnext, fun _ => hclosed⟩
  | runScheduled now =>
    have hstarted : { engine with scheduled := 0 }.Retired loader :=
      ⟨h.sound, h.exiting, h.unloaded, h.disconnected, h.idle, h.points⟩
    exact Retired.runPasses now engine.scheduled hstarted
  | outside world =>
    exact ⟨⟨⟨h.sound.library, h.sound.session⟩, h.exiting, h.unloaded, h.disconnected, h.idle,
      h.points⟩, id⟩
  | apply | commit | shutdown | schedule | handle | receive | operate | stopReading =>
    exact hlate.elim

/-- So does every sequence of them. -/
theorem Retired.moves (list : List EngineMove) :
    ∀ {engine : Engine ι}, engine.Retired loader → (∀ next ∈ list, next.IsLate) →
      (engine.moves loader list).Retired loader ∧
        (engine.resources.library.held.isOpen = false →
          (engine.moves loader list).resources.library.held.isOpen = false) := by
  induction list with
  | nil => exact fun h _ => ⟨h, id⟩
  | cons next rest ih =>
    intro engine h hlate
    obtain ⟨hnext, hkept⟩ := h.move (hlate next List.mem_cons_self)
    obtain ⟨hlast, hstill⟩ := ih hnext fun other hmem => hlate other (List.mem_cons_of_mem _ hmem)
    exact ⟨hlast, fun hopen => hstill (hkept hopen)⟩

/-! ## 2. Shutdowns -/

theorem shutdown_result (now : Moment) (engine : Engine ι) :
    (engine.shutdown loader now).1 =
      ((EngineResources.controls loader).matchAll (Reconciler.atRest engine.reconciler.desired)
        engine.resources).1 := rfl

theorem shutdown_resources (now : Moment) (engine : Engine ι) :
    (engine.shutdown loader now).2.resources =
      ((EngineResources.controls loader).matchAll (Reconciler.atRest engine.reconciler.desired)
        engine.resources).2 := rfl

/-- A shutdown that succeeds leaves the engine retired, and nothing in use exactly if it did not
come upon a stray wish. -/
theorem shutdown_retired (h : engine.Sound loader) {now : Moment}
    (hok : (engine.shutdown loader now).1 = .ok ()) :
    (engine.shutdown loader now).2.Retired loader ∧
      ((engine.shutdown loader now).2.resources.library.held.isOpen = false ↔
        ¬engine.resources.library.held.Strays engine.reconciler.desired.library.path) := by
  rw [shutdown_result] at hok
  obtain ⟨hsettled, hpoints, hmeets⟩ := EngineResources.matchAll_spec h hok
  have hretired : (engine.shutdown loader now).2.Retired loader :=
    ⟨h.move (.shutdown now), rfl, rfl, rfl, hsettled.idle rfl, hpoints⟩
  refine ⟨hretired, ?_⟩
  have hstray := hmeets fun hyes => absurd hyes Bool.false_ne_true
  rw [EngineResources.meets_iff hsettled] at hstray
  constructor
  · intro hopen hwish
    exact hstray.mp ⟨hopen, hpoints⟩ ⟨rfl, hwish⟩
  · intro hno
    exact (hstray.mpr fun hwish => hno hwish.2).1

/-- **A shutdown ends the process that was held**, even if it fails. -/
theorem shutdown_child (h : engine.Sound loader) (now : Moment) {number : Nat} {path : Path}
    (hheld : engine.resources.session.supervisor.process = some (number, path)) :
    (engine.shutdown loader now).2.resources.world.processes.isRunning number = false := by
  have hserver : (EngineResources.controls loader).matchServer
      (Reconciler.atRest engine.reconciler.desired).server engine.resources =
        (.ok (), engine.resources.disconnect) :=
    EngineResources.matchServer_of_unwanted h.session rfl
  have hserved : engine.resources.served loader (Reconciler.atRest engine.reconciler.desired) =
      engine.resources.disconnect := congrArg Prod.snd hserver
  rw [shutdown_resources, EngineResources.matchAll_of_ok (congrArg Prod.fst hserver), hserved]
  exact (Session.disconnect_idle h.session engine.resources.world).2 number path hheld

/-- **What a shutdown leaves.**  If it succeeds then the session is idle, the process that was
held has ended, and settings and passes change nothing about that.  The library is at rest as well,
and stays so, exactly if the shutdown did not come upon a stray wish: nothing was in use, but it
was wanted still, and the path of the library and the path that is desired differed. -/
theorem shutdown_rests_iff (h : engine.Reachable loader) (now : Moment)
    (hok : (engine.shutdown loader now).1 = .ok ()) :
    (∀ late : List EngineMove, (∀ next ∈ late, next.IsLate) →
      ((engine.shutdown loader now).2.moves loader late).resources.session.Idle) ∧
    (∀ number path, engine.resources.session.supervisor.process = some (number, path) →
      (engine.shutdown loader now).2.resources.world.processes.isRunning number = false) ∧
    ((∀ late : List EngineMove, (∀ next ∈ late, next.IsLate) →
        ((engine.shutdown loader now).2.moves loader late).AtRest) ↔
      ¬engine.resources.library.held.Strays engine.reconciler.desired.library.path) := by
  obtain ⟨hretired, hopen⟩ := shutdown_retired h.sound hok
  refine ⟨fun late hlate => (hretired.moves late hlate).1.idle,
    fun number path hheld => shutdown_child h.sound now hheld, ?_⟩
  constructor
  · intro hrests
    exact hopen.mp (hrests [] nofun).isOpen
  · intro hno late hlate
    obtain ⟨hlast, hclosed⟩ := hretired.moves late hlate
    exact hlast.atRest (hclosed (hopen.mpr hno))

/-- An engine with a failed load behind it, and a pass that could not get to the library. -/
def failedTwice (path : String) : Engine Recorder :=
  (Engine.start smallOptions (smallWorld [textFile "b.so" "B"] [])).moves Recorder.loader
    [.apply 0 fun _ => libraryAt true "/a.so",
      .apply 1 fun desired =>
        { desired with
          library := ⟨true, some ⟨path⟩⟩
          server := { desired.server with connected := true, location := .customCli } }]

theorem failedTwice_reachable (path : String) :
    (failedTwice path).Reachable Recorder.loader := ⟨_, _, _, rfl⟩

/-- With the path that could not be loaded the engine is at rest from the shutdown on. -/
theorem failedTwice_rests :
    (failedTwice "/a.so").Reachable Recorder.loader ∧
      ((failedTwice "/a.so").shutdown Recorder.loader 2).1 = .ok () ∧
      ∀ late : List EngineMove, (∀ next ∈ late, next.IsLate) →
        (((failedTwice "/a.so").shutdown Recorder.loader 2).2.moves Recorder.loader late).AtRest :=
  ⟨failedTwice_reachable _, by decide +kernel,
    (shutdown_rests_iff (failedTwice_reachable _) 2 (by decide +kernel)).2.2.mpr
      (by decide +kernel)⟩

/-- **With another path the shutdown loads the library**, and reports success. -/
theorem failedTwice_loads :
    (failedTwice "/b.so").Reachable Recorder.loader ∧
      ((failedTwice "/b.so").shutdown Recorder.loader 2).1 = .ok () ∧
      ((failedTwice "/b.so").shutdown Recorder.loader 2).2.resources.library.isLoaded = true ∧
      ¬((failedTwice "/b.so").shutdown Recorder.loader 2).2.AtRest := by
  refine ⟨failedTwice_reachable _, by decide +kernel, by decide +kernel, fun hrest => ?_⟩
  exact absurd hrest.isOpen (by decide +kernel)

end Engine

end RenderSync
