import RenderSync.Library.Journal
import RenderSync.Proofs.Runs

/-!
# Engines in which everything is as desired

Where what is in effect is what is desired a pass may as well be skipped, and this is what the host
does.  It is sound because such a pass changes nothing but its own record
(`reconcile_of_converged`).

The comparison looks at four things: whether a library is loaded and from which path, whether there
is a connection, and what was applied.  A pass acts on more.  Where no connection is wanted it
disconnects in any case, and that would stop a process which an attempt to connect has left behind,
or let go of a connection that the peer has closed; neither shows in the comparison.  So there has
to be an invariant: once all passes have run, a session that is not wanted is idle
(`Engine.Rests`).  Every pass establishes it, and between two passes only an edit can break it,
which has a pass of its own to come.

The runs of `Engine.Reachable` may set up a session without a wish for one, since they have any
piece of a pass as a move.  `Engine.Orderly` asks what a pass asks: that a connection is wanted, or
that it was until an edit whose pass is still due.
-/

namespace RenderSync

/-! ## 1. A pass over what is as desired -/

namespace ResourceControls

variable {σ : Type}

/-- The same operations, which are noted when they are asked for. -/
def noted (controls : ResourceControls σ) : ResourceControls (σ × List ResourceMove) where
  library state := controls.library state.1
  setPath path state :=
    let (done, after) := controls.setPath path state.1
    (done, after, state.2 ++ [.setPath path])
  load state :=
    let (done, after) := controls.load state.1
    (done, after, state.2 ++ [.load])
  unload state :=
    let (done, after) := controls.unload state.1
    (done, after, state.2 ++ [.unload])
  server state := controls.server state.1
  connect config state :=
    let (result, after) := controls.connect config state.1
    (result, after, state.2 ++ [.connect config])
  disconnect state := (controls.disconnect state.1, state.2 ++ [.disconnect])

variable {controls : ResourceControls σ} {desired : DesiredState} {state : σ}

/-- The server step asks for nothing but an end of what is not wanted. -/
theorem matchServer_of_meets (hmeets : (controls.current state).meets desired = true) :
    controls.matchServer desired.server state =
      (.ok (), if desired.server.connected then state else controls.disconnect state) := by
  simp only [CurrentState.meets, current, Bool.and_eq_true, beq_iff_eq] at hmeets
  obtain ⟨⟨-, hconnected⟩, happlies⟩ := hmeets
  cases hwanted : desired.server.connected with
  | false =>
    rw [hwanted] at hconnected
    rw [matchServer_unwanted hwanted, cleared, mustDrop, hconnected]
    rfl
  | true =>
    rw [hwanted] at hconnected
    rw [hconnected, Bool.not_true, Bool.false_or] at happlies
    exact matchServer_of_applies hwanted hconnected happlies

/-- The library step asks for nothing. -/
theorem matchLibrary_of_meets (hloaded : (controls.library state).loaded = desired.library.loaded)
    (hpath : Path.sameOption (controls.library state).path desired.library.path = true) :
    controls.matchLibrary desired.library state = (.ok (), state) := by
  have hunloaded : controls.matchUnloaded desired.library state = (.ok (), state) := by
    simp [matchUnloaded, hloaded]
  have hpointed : controls.matchPath desired.library state = (.ok (), state) := by
    simp [matchPath, hpath]
  have hready : controls.matchLoaded desired.library state = (.ok (), state) := by
    unfold matchLoaded
    split
    · rfl
    · simp [hloaded]
  simp only [matchLibrary, inTurn, hunloaded, hpointed, hready]

/-- **A pass over what is as desired** asks for one thing at most: where no connection is wanted the
server is told to disconnect. -/
theorem matchAll_of_meets (controls : ResourceControls σ) (state : σ)
    (hmeets : (controls.current state).meets desired = true)
    (hkept : controls.library (controls.disconnect state) = controls.library state) :
    controls.matchAll desired state =
      (.ok (), if desired.server.connected then state else controls.disconnect state) := by
  have hserver := matchServer_of_meets hmeets
  simp only [CurrentState.meets, current, Bool.and_eq_true, beq_iff_eq] at hmeets
  obtain ⟨⟨⟨hloaded, hpath⟩, -⟩, -⟩ := hmeets
  have hlibrary : controls.library
      (if desired.server.connected then state else controls.disconnect state) =
        controls.library state := by
    split
    · rfl
    · exact hkept
  rw [← hlibrary] at hloaded hpath
  simp only [matchAll, inTurn, hserver, matchLibrary_of_meets hloaded hpath]

end ResourceControls

variable {ι : Type} {loader : LibraryLoader ι}

namespace Engine

variable {engine : Engine ι}

/-! ## 2. Orderly runs -/

/-- Whether a move is one that an engine makes.  A session is only set up where a connection is
wanted, or was until an edit whose pass is still due. -/
def CallsFor (engine : Engine ι) : EngineMove → Prop
  | .operate (.connect _) =>
    engine.reconciler.desired.server.connected = true ∨ 0 < engine.scheduled
  | _ => True

/-- The engine came about by moves that it makes, from one that had done nothing yet. -/
inductive Orderly (loader : LibraryLoader ι) : Engine ι → Prop where
  | start (options : EngineOptions) (world : World) : Orderly loader (Engine.start options world)
  | move {engine : Engine ι} (h : Orderly loader engine) (next : EngineMove)
    (hcalled : engine.CallsFor next) : Orderly loader (engine.move loader next)

/-- Orderly runs are runs. -/
theorem Orderly.sound (h : engine.Orderly loader) : engine.Sound loader := by
  induction h with
  | start options world => exact Sound.start options world
  | move _ next _ ih => exact ih.move next

/-! ## 3. Sessions that are not wanted -/

/-- **Once all passes have run, a session that is not wanted is idle.** -/
def Rests (engine : Engine ι) : Prop :=
  engine.scheduled = 0 → engine.reconciler.desired.server.connected = false →
    engine.resources.session.Idle

/-- Where a pass is due nothing is asked of the session. -/
theorem Rests.of_scheduled (h : 0 < engine.scheduled) : engine.Rests :=
  fun hnone => absurd hnone (Nat.pos_iff_ne_zero.mp h)

/-- A session that differs in its options only is idle where the other is. -/
theorem Rests.congr {other : Engine ι} (h : engine.Rests)
    (hscheduled : other.scheduled = engine.scheduled)
    (hdesired : other.reconciler.desired = engine.reconciler.desired)
    (hsession : engine.resources.session.Idle → other.resources.session.Idle) : other.Rests := by
  intro hnone hunwanted
  rw [hscheduled] at hnone
  rw [hdesired] at hunwanted
  exact hsession (h hnone hunwanted)

/-- **A pass leaves the session at rest**, whatever it was before and whatever comes of the pass. -/
theorem Rests.reconcile (h : engine.Sound loader) (now : Moment) :
    (engine.reconcile loader now).2.Rests :=
  fun _ hunwanted => EngineResources.matchAll_idle h _ hunwanted

/-- So does every pass that follows an edit. -/
theorem Rests.apply (h : engine.Sound loader) (now : Moment)
    (edit : DesiredState → DesiredState) : (engine.apply loader now edit).2.Rests :=
  fun _ hunwanted => EngineResources.matchAll_idle h _ hunwanted

/-- Passes that are due leave it at rest; if none is due it is so already. -/
theorem Rests.runScheduled (hrests : engine.Rests) (h : engine.Sound loader) (now : Moment) :
    (engine.runScheduled loader now).Rests := by
  have hpasses : ∀ (count : Nat) {engine : Engine ι}, engine.Sound loader → engine.Rests →
      (engine.runPasses loader now count).Rests := by
    intro count
    induction count with
    | zero => exact fun _ hrests => hrests
    | succ count ih => exact fun h _ => ih (h.reconcile now) (Rests.reconcile h now)
  unfold Engine.runScheduled
  cases hcount : engine.scheduled with
  | zero =>
    have hstarted : { engine with scheduled := 0 }.Rests :=
      fun _ hunwanted => hrests hcount hunwanted
    exact hpasses 0 h hstarted
  | succ count =>
    -- the engine need not rest before: with its passes still due there is one to begin with
    have hstarted : { engine with scheduled := 0 }.Sound loader := h
    exact hpasses count (hstarted.reconcile now) (Rests.reconcile hstarted now)

/-- Preferences go through a pass, unless the exit has begun. -/
theorem Rests.applySettings (hrests : engine.Rests) (h : engine.Sound loader) (now : Moment)
    (settings : Settings) : (engine.applySettings loader now settings).2.Rests := by
  cases hexiting : engine.reconciler.isExiting with
  | true =>
    rw [applySettings_of_exiting hexiting]
    exact hrests
  | false =>
    rw [applySettings_eq hexiting]
    exact Rests.apply (h.stored settings) now settings.applyTo

/-- What the user sees does not matter. -/
theorem Rests.notices (h : engine.Rests) (notifications : Notifications) (spans : BuildSpans) :
    { engine with notifications := notifications, spans := spans }.Rests := h

theorem Rests.tell (h : engine.Rests) (now : Moment) (message : String) :
    (engine.tell now message).2.Rests :=
  h.notices (engine.notifications.addTimed now message).2 engine.spans

/-- **A handler lets the session rest**: it never touches it, and if it edits the desired state it
schedules a pass. -/
theorem Rests.handle (h : engine.Rests) (now : Moment) (event : Event) :
    (engine.handle now event).2.Rests := by
  cases event with
  | buildStarted target =>
    exact h.notices (engine.spans.started now target engine.notifications).2
      (engine.spans.started now target engine.notifications).1
  | buildEnded target successful duration =>
    have hended : (engine.buildEnded target).Rests :=
      h.notices (engine.spans.ended target engine.notifications).2.2
        (engine.spans.ended target engine.notifications).2.1
    unfold Engine.handle
    dsimp only
    split
    · exact hended
    · exact hended.tell now _
  | libraryCompiled path => exact Rests.of_scheduled (Nat.succ_pos engine.scheduled)
  | executableCompiled path size => exact h.tell now _
  | exported path => exact h.tell now _
  | runFinished duration => exact h
  | error message => exact h
  | shaderSetProvided set =>
    unfold Engine.handle Engine.shaderSetProvided
    dsimp only
    split
    · exact h
    · exact h.congr rfl rfl id

/-- A channel without a connection can be put in place of the session's. -/
theorem Rests.setChannel (h : engine.Rests) {channel : Channel}
    (hchannel : engine.resources.session.channel.connection = none → channel.connection = none) :
    (channelPlace.set channel engine).Rests :=
  h.congr rfl rfl fun hidle => ⟨⟨hidle.isOpen, hidle.copy, hidle.launched, hidle.process⟩,
    hchannel hidle.connection⟩

/-- A peer that says no more is none that was let go. -/
theorem Rests.stopReading (h : engine.Rests) :
    (channelPlace.set (channelPlace.get engine).stopReading engine).Rests :=
  h.setChannel fun hnone => congrArg (Option.map _) hnone

/-- Without a connection nothing is taken. -/
theorem Rests.take (h : engine.Rests) (bytes : List UInt8) :
    (channelPlace.set ((channelPlace.get engine).take bytes).2 engine).Rests := by
  refine h.setChannel fun hnone => ?_
  have hget : (channelPlace.get engine).connection = none := hnone
  unfold Channel.take
  rw [hget]
  exact hget

/-- Bytes that arrive are handled, and the passes are run that their events schedule. -/
theorem Rests.receive (hrests : engine.Rests) (h : engine.Sound loader) (now : Moment)
    (bytes : List UInt8) : (engine.receive loader now bytes).Rests := by
  let good : Engine ι → Prop := fun engine => engine.Sound loader ∧ engine.Rests
  have hkeeps : (handlers now : HandlerTable (Engine ι)).Keeps good :=
    HandlerTable.Keeps.onAll
      (fun event _ hgood => ⟨hgood.1.handle now event, hgood.2.handle now event⟩)
      EventKind.all .empty
  have hreceived := hkeeps.receive channelPlace bytes
    (fun _ hgood => ⟨hgood.1.setChannel _, hgood.2.take bytes⟩)
    (fun _ hgood => ⟨hgood.1.setChannel _, hgood.2.stopReading⟩) ⟨h, hrests⟩
  exact hreceived.2.runScheduled hreceived.1 now

/-- A piece of a pass that is called for. -/
theorem Rests.operate (hrests : engine.Rests) {operation : ResourceMove}
    (hcalled : engine.CallsFor (.operate operation)) :
    { engine with resources := engine.resources.operate loader operation }.Rests := by
  cases operation with
  | setPath path => exact hrests.congr rfl rfl id
  | load => exact hrests.congr rfl rfl id
  | unload => exact hrests.congr rfl rfl id
  | connect config =>
    -- the only piece of a pass that could leave a session that is not wanted
    intro hnone hunwanted
    rcases hcalled with hwanted | hdue
    · exact absurd (hunwanted.symm.trans hwanted) Bool.false_ne_true
    · exact absurd hnone (Nat.pos_iff_ne_zero.mp hdue)
  | disconnect =>
    refine hrests.congr rfl rfl fun hidle => ?_
    have hstays := Session.disconnect_of_idle hidle engine.resources.world
    have hsession : (engine.resources.operate loader .disconnect).session =
        engine.resources.session := congrArg Prod.fst hstays
    exact hsession ▸ hidle

/-- **Every move that an engine makes lets a session rest that is not wanted.** -/
theorem Rests.move (hrests : engine.Rests) (h : engine.Sound loader) {next : EngineMove}
    (hcalled : engine.CallsFor next) : (engine.move loader next).Rests := by
  cases next with
  | apply now edit => exact Rests.apply h now edit
  | commit now draft => exact Rests.apply h now fun _ => draft
  | applySettings now settings => exact hrests.applySettings h now settings
  | reconcile now => exact Rests.reconcile h now
  | shutdown now =>
    exact fun _ hunwanted => EngineResources.matchAll_idle h
      (Reconciler.atRest engine.reconciler.desired) hunwanted
  | schedule edit => exact Rests.of_scheduled (Nat.succ_pos engine.scheduled)
  | runScheduled now => exact hrests.runScheduled h now
  | handle now event => exact hrests.handle now event
  | receive now bytes => exact hrests.receive h now bytes
  | operate operation => exact hrests.operate hcalled
  | stopReading => exact hrests.stopReading
  | outside world => exact hrests

/-- **So a session rests along every orderly run.** -/
theorem Orderly.rests (h : engine.Orderly loader) : engine.Rests := by
  induction h with
  | start options world => exact fun _ _ => ⟨⟨rfl, rfl, rfl, rfl⟩, rfl⟩
  | move h next hcalled ih => exact ih.move h.sound hcalled

/-! ## 4. Passes that may be skipped -/

/-- **Once all passes have run, a pass over what is as desired changes nothing but the status**,
and it does not ask a resource for anything either: only where no connection is wanted it tells the
server to disconnect, which is idle then and has nothing to do. -/
theorem reconcile_of_converged (h : engine.Orderly loader) (hdone : engine.scheduled = 0)
    (hconverged : engine.reconciler.isConverged (EngineResources.controls loader)
      engine.resources = true) (now : Moment) :
    engine.reconcile loader now =
        (.ok (), { engine with reconciler := { engine.reconciler with
          status := engine.reconciler.status.after now (.ok ()) true } }) ∧
      (EngineResources.controls loader).noted.matchAll engine.reconciler.desired
          (engine.resources, []) =
        (.ok (), engine.resources,
          if engine.reconciler.desired.server.connected then [] else [.disconnect]) ∧
      (engine.reconciler.desired.server.connected = false →
        engine.resources.session.Idle ∧ engine.resources.disconnect = engine.resources) := by
  have hrests : engine.reconciler.desired.server.connected = false →
      engine.resources.session.Idle ∧ engine.resources.disconnect = engine.resources := by
    intro hunwanted
    have hidle := h.rests hdone hunwanted
    refine ⟨hidle, ?_⟩
    rw [EngineResources.disconnect, Session.disconnect_of_idle hidle]
  have hdisconnect : (EngineResources.controls loader).disconnect engine.resources =
      engine.resources.disconnect := rfl
  have hpass := ResourceControls.matchAll_of_meets (EngineResources.controls loader)
    engine.resources hconverged rfl
  have hnoted := ResourceControls.matchAll_of_meets
    (EngineResources.controls loader).noted (engine.resources, []) hconverged rfl
  have hnotedDisconnect : (EngineResources.controls loader).noted.disconnect
      (engine.resources, []) = (engine.resources.disconnect, [.disconnect]) := rfl
  rw [hdisconnect] at hpass
  rw [hnotedDisconnect] at hnoted
  have hresources : (EngineResources.controls loader).matchAll engine.reconciler.desired
      engine.resources = (.ok (), engine.resources) := by
    rw [hpass]
    split
    · rfl
    · next hunwanted => rw [(hrests (Bool.not_eq_true _ ▸ hunwanted)).2]
  refine ⟨?_, ?_, hrests⟩
  · have hmatching : ((EngineResources.controls loader).current engine.resources).meets
        engine.reconciler.desired = true := hconverged
    simp only [Engine.reconcile, Engine.run, Reconciler.reconcile, hresources, hmatching]
  · rw [hnoted]
    split
    · rfl
    · next hunwanted => rw [(hrests (Bool.not_eq_true _ ▸ hunwanted)).2]

/-- A connection to a process that nobody accepts, and then a library and no connection. -/
def calledOff : List EngineMove :=
  [.apply 0 fun desired =>
      { desired with server := ⟨true, "127.0.0.1", 5184, .customCli, some ⟨"/cli"⟩⟩ },
    .schedule fun _ => libraryAt true "/b.so",
    .runScheduled 1]

/-- An engine whose process was started but not reached, and stopped when it was called off. -/
def calledOffOnce : Engine Recorder :=
  (Engine.start smallOptions (smallWorld [textFile "b.so" "B", cliFile] [])).moves Recorder.loader
    calledOff

theorem calledOffOnce_orderly : calledOffOnce.Orderly Recorder.loader :=
  .move (.move (.move (.start _ _) (.apply 0 _) trivial) (.schedule _) trivial) (.runScheduled 1)
    trivial

/-- The engine is left alone from then on: the library stays, and nothing is left of the process. -/
theorem calledOffOnce_stays :
    calledOffOnce.Orderly Recorder.loader ∧ calledOffOnce.scheduled = 0 ∧
      calledOffOnce.reconciler.isConverged (EngineResources.controls Recorder.loader)
        calledOffOnce.resources = true ∧
      calledOffOnce.resources.library.current = ⟨true, some ⟨"/b.so"⟩⟩ ∧
      (calledOffOnce.reconcile Recorder.loader 2).2.resources.library.current =
        ⟨true, some ⟨"/b.so"⟩⟩ ∧
      calledOffOnce.resources.session.Idle := by
  have hconverged : calledOffOnce.reconciler.isConverged
      (EngineResources.controls Recorder.loader) calledOffOnce.resources = true := by
    decide +kernel
  have hlibrary : calledOffOnce.resources.library.current = ⟨true, some ⟨"/b.so"⟩⟩ := by
    decide +kernel
  obtain ⟨hpass, -, hidle⟩ := reconcile_of_converged calledOffOnce_orderly (by decide +kernel)
    hconverged 2
  refine ⟨calledOffOnce_orderly, by decide +kernel, hconverged, hlibrary, ?_,
    (hidle (by decide +kernel)).1⟩
  rw [hpass]
  exact hlibrary

end Engine

end RenderSync
