import RenderSync.Proofs.BuildIndicator
import RenderSync.Proofs.Lifetime
import RenderSync.Proofs.SettingsStore
import RenderSync.Proofs.Truth

/-!
# How long messages may stay

A failed build, a compiled executable and an export leave a message that ends by itself
(`Event.isTimed`).  Its lifetime is the one in force: that of the preferences that the engine was
built from or, later on, of the last ones applied before the exit began (`lifetimeAfter`).  The
lifetime is any word of seconds and nobody looks at it before it is added to the clock.

So a handler goes on unless it adds a message whose end the clock cannot hold, and this is the only
way for handling to end (`handling_goes_on_iff`).  The reader ends with it, and the connection is
no longer one.  There are preferences that load and do this at every moment
(`patient_preferences_end_handling`): it is the clock and not the preferences that gives way.
-/

namespace RenderSync

/-! ## 1. The clock -/

/-- The clock holds the end of a lifetime that begins now. -/
def ClockHolds (now : Moment) (lifetime : Duration) : Prop :=
  now + lifetime.total < clockEnd

namespace Notifications

theorem endOf?_isSome_iff (now : Moment) (lifetime : Duration) :
    (endOf? now lifetime).isSome = true ↔ ClockHolds now lifetime :=
  Option.isSome_ite

/-- **Adding a message that ends fails exactly if the clock cannot hold its end.** -/
theorem add_isSome_iff (now : Moment) (text : String) (lifetime : Duration)
    (notifications : Notifications) :
    (notifications.add now text (some lifetime)).1.isSome = true ↔ ClockHolds now lifetime := by
  rw [← endOf?_isSome_iff]
  -- the clock is any function from here on, since it must not be evaluated
  obtain ⟨clock, hclock⟩ : ∃ clock, clock = endOf? now := ⟨_, rfl⟩
  rw [add.eq_def, ← hclock]
  dsimp only
  cases clock lifetime with
  | none => exact Iff.rfl
  | some moment => exact Iff.rfl

/-- Whether it fails or not, the lifetime of the messages that do not say theirs stays. -/
theorem add_lifetime (now : Moment) (text : String) (period : Option Duration)
    (notifications : Notifications) :
    (notifications.add now text period).2.lifetime = notifications.lifetime := by
  obtain ⟨clock, hclock⟩ : ∃ clock, clock = endOf? now := ⟨_, rfl⟩
  rw [add.eq_def, ← hclock]
  cases period with
  | none => rfl
  | some period =>
    dsimp only
    cases clock period with
    | none => rfl
    | some moment => rfl

theorem addTimed_isSome_iff (now : Moment) (text : String) (notifications : Notifications) :
    (notifications.addTimed now text).1.isSome = true ↔ ClockHolds now notifications.lifetime := by
  rw [addTimed]
  exact add_isSome_iff now text notifications.lifetime notifications

theorem addTimed_lifetime (now : Moment) (text : String) (notifications : Notifications) :
    (notifications.addTimed now text).2.lifetime = notifications.lifetime := by
  rw [addTimed]
  exact add_lifetime now text (some notifications.lifetime) notifications

theorem remove_lifetime (number : Nat) (notifications : Notifications) :
    (notifications.remove number).2.lifetime = notifications.lifetime := by
  unfold remove
  split <;> rfl

end Notifications

namespace BuildSpans

theorem started_lifetime (now : Moment) (target : BuildTarget) (spans : BuildSpans)
    (notifications : Notifications) :
    (spans.started now target notifications).2.lifetime = notifications.lifetime := by
  unfold started
  dsimp only
  split
  · exact Notifications.add_lifetime now message .none notifications
  · rfl

theorem ended_lifetime (target : BuildTarget) (spans : BuildSpans)
    (notifications : Notifications) :
    (spans.ended target notifications).2.2.lifetime = notifications.lifetime := by
  unfold ended
  dsimp only
  split
  · rfl
  · split
    · split
      · rfl
      · exact Notifications.remove_lifetime _ notifications
    · rfl

end BuildSpans

/-! ## 2. Handlers -/

/-- The event leaves a message that ends by itself. -/
def Event.isTimed : Event → Bool
  | .buildEnded _ successful _ => !successful
  | .executableCompiled _ _ => true
  | .exported _ => true
  | _ => false

/-- No frame stands for such an event. -/
def NoneTimed (frames : List Json) : Prop :=
  ∀ event ∈ frames.filterMap Event.ofFrame?, event.isTimed = false

variable {ι : Type} {loader : LibraryLoader ι}

namespace Engine

theorem tell_goes_on_iff (now : Moment) (text : String) (engine : Engine ι) :
    (engine.tell now text).1 = true ↔ ClockHolds now engine.notifications.lifetime :=
  Notifications.addTimed_isSome_iff now text engine.notifications

theorem tell_lifetime (now : Moment) (text : String) (engine : Engine ι) :
    (engine.tell now text).2.notifications.lifetime = engine.notifications.lifetime := by
  have hkept := Notifications.addTimed_lifetime now text engine.notifications
  obtain ⟨added, hadded⟩ : ∃ added, added = engine.notifications.addTimed now text := ⟨_, rfl⟩
  rw [tell.eq_def, ← hadded]
  rw [← hadded] at hkept
  exact hkept

theorem buildStarted_lifetime (now : Moment) (target : BuildTarget) (engine : Engine ι) :
    (engine.buildStarted now target).notifications.lifetime = engine.notifications.lifetime := by
  have hkept := BuildSpans.started_lifetime now target engine.spans engine.notifications
  obtain ⟨started, hstarted⟩ : ∃ started,
    started = engine.spans.started now target engine.notifications := ⟨_, rfl⟩
  rw [buildStarted.eq_def, ← hstarted]
  rw [← hstarted] at hkept
  exact hkept

theorem buildEnded_lifetime (target : BuildTarget) (engine : Engine ι) :
    (engine.buildEnded target).notifications.lifetime = engine.notifications.lifetime := by
  have hkept := BuildSpans.ended_lifetime target engine.spans engine.notifications
  rw [buildEnded.eq_def]
  exact hkept

/-- **No handler touches the lifetime.** -/
theorem handle_lifetime (now : Moment) (event : Event) (engine : Engine ι) :
    (engine.handle now event).2.notifications.lifetime = engine.notifications.lifetime := by
  rw [Engine.handle.eq_def]
  cases event with
  | buildStarted target => exact buildStarted_lifetime now target engine
  | buildEnded target successful duration =>
    dsimp only
    split
    · exact buildEnded_lifetime target engine
    · rw [tell_lifetime, buildEnded_lifetime]
  | libraryCompiled path => rfl
  | executableCompiled path size => exact tell_lifetime now _ engine
  | exported path => exact tell_lifetime now _ engine
  | runFinished duration => rfl
  | error message => rfl
  | shaderSetProvided set =>
    unfold Engine.shaderSetProvided
    dsimp only
    split <;> rfl

/-- **A handler goes on unless it adds a message whose end the clock cannot hold.** -/
theorem handle_goes_on_iff (now : Moment) (event : Event) (engine : Engine ι) :
    (engine.handle now event).1 = true ↔
      event.isTimed = false ∨ ClockHolds now engine.notifications.lifetime := by
  have htold : ∀ (text : String) {timed : Event}, timed.isTimed = true →
      ((engine.tell now text).1 = true ↔
        timed.isTimed = false ∨ ClockHolds now engine.notifications.lifetime) := by
    intro text timed htimed
    rw [tell_goes_on_iff, htimed]
    exact (or_iff_right (by decide)).symm
  have hquiet : ∀ {quiet : Event}, quiet.isTimed = false →
      (true = true ↔ quiet.isTimed = false ∨ ClockHolds now engine.notifications.lifetime) :=
    fun hquiet => iff_of_true rfl (Or.inl hquiet)
  rw [Engine.handle.eq_def]
  cases event with
  | buildStarted target => exact hquiet rfl
  | buildEnded target successful duration =>
    cases successful with
    | true => exact hquiet rfl
    | false =>
      have hended := tell_goes_on_iff now ("Build failed: " ++ target.name ++ ".")
        (engine.buildEnded target)
      rw [buildEnded_lifetime] at hended
      exact hended.trans (or_iff_right Bool.noConfusion).symm
  | libraryCompiled path => exact hquiet rfl
  | executableCompiled path size => exact htold _ rfl
  | exported path => exact htold _ rfl
  | runFinished duration => exact hquiet rfl
  | error message => exact hquiet rfl
  | shaderSetProvided set => exact hquiet rfl

/-- **So do handlers of any frames**: one that could not go on was told of something timed. -/
theorem dispatchAll_goes_on_iff (now : Moment) (frames : List Json) :
    ∀ {engine : Engine ι}, ((handlers now).dispatchAll frames engine).1 = true ↔
      NoneTimed frames ∨ ClockHolds now engine.notifications.lifetime := by
  induction frames with
  | nil => exact fun {_} => iff_of_true rfl (Or.inl (List.forall_mem_nil _))
  | cons frame rest ih =>
    intro engine
    rw [HandlerTable.dispatchAll, dispatch_handlers, NoneTimed, List.filterMap_cons]
    cases Event.ofFrame? frame with
    | none => exact ih
    | some event =>
      have hone := handle_goes_on_iff now event engine
      have hkept := handle_lifetime now event engine
      rw [List.forall_mem_cons]
      dsimp only
      rcases hstep : engine.handle now event with ⟨_ | _, next⟩ <;> rw [hstep] at hone hkept
      · have hfails := mt hone.mpr Bool.false_ne_true
        rw [not_or] at hfails
        refine iff_of_false Bool.false_ne_true ?_
        rintro (⟨hquiet, -⟩ | hholds)
        · exact hfails.1 hquiet
        · exact hfails.2 hholds
      · have hgoes := hone.mp rfl
        dsimp only at hkept ⊢
        rw [ih, hkept, NoneTimed]
        constructor
        · rintro (hquiet | hholds)
          · exact hgoes.imp_left fun hfirst => ⟨hfirst, hquiet⟩
          · exact Or.inr hholds
        · exact fun hall => hall.imp_left And.right

end Engine

/-! ## 3. The lifetime in force -/

/-- The lifetime in force, and whether the exit has begun. -/
structure LifetimeInForce where
  seconds : UInt64
  isFinal : Bool

/-- The lifetime in force after a move: preferences say it, until the exit has begun. -/
def LifetimeInForce.after (inForce : LifetimeInForce) : EngineMove → LifetimeInForce
  | .applySettings _ settings =>
    if inForce.isFinal then inForce else { inForce with seconds := settings.notificationSeconds }
  | .shutdown _ => { inForce with isFinal := true }
  | _ => inForce

/-- The lifetime in force after moves, if it was `seconds` before. -/
def lifetimeAfter (seconds : UInt64) (list : List EngineMove) : UInt64 :=
  (list.foldl LifetimeInForce.after ⟨seconds, false⟩).seconds

namespace Engine

variable {engine : Engine ι} {inForce : LifetimeInForce}

/-- The engine knows the lifetime in force and whether the exit has begun. -/
structure Follows (inForce : LifetimeInForce) (engine : Engine ι) : Prop where
  lifetime : engine.notifications.lifetime = .ofSeconds inForce.seconds
  exiting : engine.reconciler.isExiting = inForce.isFinal

/-- Only the lifetime and the exit matter. -/
theorem Follows.congr {other : Engine ι} (h : engine.Follows inForce)
    (hlifetime : other.notifications.lifetime = engine.notifications.lifetime)
    (hexiting : other.reconciler.isExiting = engine.reconciler.isExiting) :
    other.Follows inForce := ⟨hlifetime.trans h.lifetime, hexiting.trans h.exiting⟩

/-- Neither the notifications nor the builds matter to the exit, and so they are variables. -/
theorem reconciler_of_notices (engine : Engine ι) (notifications : Notifications)
    (spans : BuildSpans) :
    { engine with notifications := notifications, spans := spans }.reconciler = engine.reconciler :=
  rfl

theorem tell_reconciler (now : Moment) (text : String) (engine : Engine ι) :
    (engine.tell now text).2.reconciler = engine.reconciler :=
  reconciler_of_notices engine (engine.notifications.addTimed now text).2 engine.spans

theorem buildEnded_reconciler (target : BuildTarget) (engine : Engine ι) :
    (engine.buildEnded target).reconciler = engine.reconciler :=
  reconciler_of_notices engine (engine.spans.ended target engine.notifications).2.2
    (engine.spans.ended target engine.notifications).2.1

/-- **No handler begins the exit**; only one of them edits what is desired. -/
theorem handle_isExiting (now : Moment) (event : Event) (engine : Engine ι) :
    (engine.handle now event).2.reconciler.isExiting = engine.reconciler.isExiting := by
  rw [Engine.handle.eq_def]
  cases event with
  | buildStarted target =>
    exact congrArg Reconciler.isExiting
      (reconciler_of_notices engine (engine.spans.started now target engine.notifications).2
        (engine.spans.started now target engine.notifications).1)
  | buildEnded target successful duration =>
    dsimp only
    split
    · rw [buildEnded_reconciler]
    · rw [tell_reconciler, buildEnded_reconciler]
  | libraryCompiled path => rfl
  | executableCompiled path size => exact congrArg _ (tell_reconciler now _ engine)
  | exported path => exact congrArg _ (tell_reconciler now _ engine)
  | runFinished duration => rfl
  | error message => rfl
  | shaderSetProvided set =>
    unfold Engine.shaderSetProvided
    dsimp only
    split <;> rfl

theorem Follows.handle (h : engine.Follows inForce) (now : Moment) (event : Event) :
    (engine.handle now event).2.Follows inForce :=
  h.congr (handle_lifetime now event engine) (handle_isExiting now event engine)

theorem Follows.runPasses (now : Moment) (count : Nat) :
    ∀ {engine : Engine ι}, engine.Follows inForce →
      (engine.runPasses loader now count).Follows inForce := by
  induction count with
  | zero => exact fun h => h
  | succ count ih => exact fun h => ih (h.congr rfl rfl)

theorem Follows.runScheduled (h : engine.Follows inForce) (now : Moment) :
    (engine.runScheduled loader now).Follows inForce :=
  Follows.runPasses now engine.scheduled (h.congr rfl rfl)

theorem Follows.receive (h : engine.Follows inForce) (now : Moment) (bytes : List UInt8) :
    (engine.receive loader now bytes).Follows inForce := by
  have hkeeps : (handlers now : HandlerTable (Engine ι)).Keeps (Follows inForce) :=
    HandlerTable.Keeps.onAll (fun event _ hgood => hgood.handle now event) EventKind.all .empty
  have hreceived := hkeeps.receive channelPlace bytes
    (fun _ hgood => Follows.congr hgood rfl rfl) (fun _ hgood => Follows.congr hgood rfl rfl) h
  exact hreceived.runScheduled now

/-- **Preferences say the lifetime, until the exit has begun.** -/
theorem Follows.applySettings (h : engine.Follows inForce) (now : Moment) (settings : Settings) :
    (engine.applySettings loader now settings).2.Follows
      (inForce.after (.applySettings now settings)) := by
  unfold LifetimeInForce.after
  dsimp only
  rw [← h.exiting]
  cases hexiting : engine.reconciler.isExiting with
  | true =>
    rw [applySettings_of_exiting hexiting]
    exact h
  | false =>
    obtain ⟨resources, hstored⟩ := stored_eq settings engine
    rw [applySettings_eq hexiting, hstored]
    exact ⟨rfl, hexiting⟩

/-- **Every move leaves the lifetime that is in force after it.** -/
theorem Follows.move (h : engine.Follows inForce) (next : EngineMove) :
    (engine.move loader next).Follows (inForce.after next) := by
  cases next with
  | apply now edit => exact h.congr rfl rfl
  | commit now draft => exact h.congr rfl rfl
  | applySettings now settings => exact h.applySettings now settings
  | reconcile now => exact h.congr rfl rfl
  | shutdown now => exact ⟨h.lifetime, rfl⟩
  | schedule edit => exact h.congr rfl rfl
  | runScheduled now => exact h.runScheduled now
  | handle now event => exact h.handle now event
  | receive now bytes => exact h.receive now bytes
  | operate operation => exact h.congr rfl rfl
  | stopReading => exact h.congr rfl rfl
  | outside world => exact h.congr rfl rfl

/-- **So it is along every run.** -/
theorem Follows.moves (list : List EngineMove) :
    ∀ {engine : Engine ι} {inForce : LifetimeInForce}, engine.Follows inForce →
      (engine.moves loader list).Follows (list.foldl LifetimeInForce.after inForce) := by
  induction list with
  | nil => exact fun h => h
  | cons next rest ih => exact fun h => ih (h.move next)

/-! ## 4. Whether handling goes on -/

/-- Handlers neither open a connection nor let one go. -/
theorem dispatchAll_channel (now : Moment) (frames : List Json) (engine : Engine ι) :
    channelPlace.get ((handlers now).dispatchAll frames engine).2 = channelPlace.get engine := by
  have hkeeps : (handlers now : HandlerTable (Engine ι)).Keeps
      fun state => channelPlace.get state = channelPlace.get engine := by
    refine HandlerTable.Keeps.onAll (fun event state hsame => ?_) EventKind.all .empty
    rw [← hsame]
    unfold channelPlace
    dsimp only
    rcases handle_resources now event state with hkept | ⟨programs, hset⟩
    · rw [hkept]
    · rw [hset]
  exact hkeeps.dispatchAll frames rfl

/-- **The connection survives what arrives on it exactly if the handlers go on.** -/
theorem receive_isConnected_iff (now : Moment) (bytes : List UInt8) (engine : Engine ι) :
    (channelPlace.get
        (Channel.receive channelPlace (handlers now) bytes engine)).isConnected = true ↔
      (channelPlace.get engine).isConnected = true ∧
        (NoneTimed ((channelPlace.get engine).take bytes).1 ∨
          ClockHolds now engine.notifications.lifetime) := by
  have htaken := (SessionRun.take_keeps (channelPlace.get engine) bytes).1
  unfold Channel.receive
  dsimp only
  rcases htook : (channelPlace.get engine).take bytes with ⟨frames, channel⟩
  rw [htook] at htaken
  have hgoes := @dispatchAll_goes_on_iff ι now frames (channelPlace.set channel engine)
  have hchannel := dispatchAll_channel now frames (channelPlace.set channel engine)
  rcases hdone : (handlers now).dispatchAll frames (channelPlace.set channel engine)
    with ⟨_ | _, after⟩ <;> rw [hdone] at hgoes hchannel
  · refine iff_of_false ?_ fun hholds => Bool.false_ne_true (hgoes.mpr hholds.2)
    exact ne_true_of_eq_false (Channel.isConnected_stopReading _)
  · have hkept : (channelPlace.get after).isConnected = channel.isConnected :=
      congrArg Channel.isConnected hchannel
    dsimp only
    rw [hkept, htaken]
    exact (and_iff_left (hgoes.mp rfl)).symm

/-- **Handling goes on as long as the clock holds the ends of messages, whatever the preferences
say.**  In an engine that was built from preferences and has come through any run, frames that
arrive are all handled exactly if none of them is the news of something timed or the clock holds
the end of the lifetime in force.  The connection survives them exactly then. -/
theorem handling_goes_on_iff (surroundings : Surroundings) (settings : Settings) (world : World)
    (list : List EngineMove) (now : Moment) :
    let engine : Engine ι :=
      (Engine.start (.ofSettings surroundings settings) world).moves loader list
    let seconds := lifetimeAfter settings.notificationSeconds list
    (∀ frames, ((handlers now).dispatchAll frames engine).1 = true ↔
      NoneTimed frames ∨ ClockHolds now (.ofSeconds seconds)) ∧
    ∀ bytes,
      (channelPlace.get
          (Channel.receive channelPlace (handlers now) bytes engine)).isConnected = true ↔
        (channelPlace.get engine).isConnected = true ∧
          (NoneTimed ((channelPlace.get engine).take bytes).1 ∨
            ClockHolds now (.ofSeconds seconds)) := by
  intro engine seconds
  have hstart : (Engine.start (.ofSettings surroundings settings) world : Engine ι).Follows
      ⟨settings.notificationSeconds, false⟩ := ⟨rfl, rfl⟩
  have hlifetime : engine.notifications.lifetime = .ofSeconds seconds :=
    (hstart.moves list).lifetime
  rw [← hlifetime]
  exact ⟨fun frames => dispatchAll_goes_on_iff now frames,
    fun bytes => receive_isConnected_iff now bytes engine⟩

/-- Preferences that let messages stay as long as a word can say. -/
def patientText : String := "notifications:\n  duration_secs: 18446744073709551615\n"

/-- A file with them. -/
def patientFiles : FileTree :=
  ⟨[(["settings.yaml"], .file 0o600 (.octets (Utf8.ofString patientText)))], [], [], 0⟩

/-- What they say. -/
def patient : Settings := { Settings.default with notificationSeconds := 18446744073709551615 }

/-- **They load, and the first message that would end by itself ends the handling**, at any
moment. -/
theorem patient_preferences_end_handling :
    Settings.load patientFiles ⟨"/settings.yaml"⟩ = .ok patient ∧
      ∀ now, ((handlers now).dispatchAll [(Event.exported "/a").frame]
        (Engine.start (.ofSettings (smallWorld [] []).surroundings patient) (smallWorld [] []) :
          Engine Recorder)).1 = false := by
  refine ⟨?_, fun now => ?_⟩
  · have hread : (patientFiles.read? ⟨"/settings.yaml"⟩).bind Utf8.decode? =
      some patientText.toList := by decide +kernel
    exact Settings.load_of_text hread (by decide +kernel)
  · rw [← Bool.not_eq_true, dispatchAll_goes_on_iff]
    rintro (hquiet | hholds)
    · exact absurd (hquiet (.exported "/a") (by decide +kernel)) (by decide)
    · exact absurd (Nat.lt_of_le_of_lt (Nat.le_add_left _ now) hholds) (by decide +kernel)

end Engine

end RenderSync
