import RenderSync.Proofs.Arrival
import RenderSync.Proofs.Convergence

/-!
# What the build indicator follows

The indicator follows the builds and not the session.  The counts of an engine are those of the
builds that it was told to have started, on any of its connections, and not yet told to have ended
(`unended`); and the notification is shown at any moment exactly while there are such builds
(`BuildSpans.Indicates`).  Nothing else touches either: neither a pass, nor an edit, nor a peer that
closes, nor another connection.

The counts are words, so that all this holds while fewer builds are outstanding than there are
words (`StayFew`).  Beyond that a count begins again, and then it follows nothing any more.

So a build whose end is lost with its connection stays on display, also after a pass that has left
the engine disconnected (`lost_build_is_shown`), until the end of some build of the same target is
reported on a later connection.
-/

namespace RenderSync

/-! ## 1. Counting builds -/

/-- The builds of a target that are outstanding after an event, if `count` were before.  An end
without a start does not count. -/
def Event.counted (target : BuildTarget) (count : Nat) : Event → Nat
  | .buildStarted other => if other = target then count + 1 else count
  | .buildEnded other _ _ => if other = target then count - 1 else count
  | _ => count

/-- The builds of a target that were reported to start and not yet to end. -/
def unended (target : BuildTarget) (events : List Event) : Nat :=
  events.foldl (fun count event => event.counted target count) 0

theorem unended_append (target : BuildTarget) (before events : List Event) :
    unended target (before ++ events) =
      events.foldl (fun count event => event.counted target count) (unended target before) :=
  List.foldl_append

/-- Never are so many builds outstanding that they cannot be counted. -/
def StayFew (events : List Event) : Prop :=
  ∀ past, past <+: events → unended .library past + unended .executable past < UInt32.size

theorem StayFew.before {past events : List Event} (h : StayFew events) (hpast : past <+: events) :
    StayFew past :=
  fun earlier hearlier => h earlier (hearlier.trans hpast)

/-- An event adds one build at most. -/
theorem Event.counted_le (event : Event) (library executable : Nat) :
    event.counted .library library + event.counted .executable executable ≤
      library + executable + 1 := by
  cases event with
  | buildStarted target => cases target <;> simp [counted] <;> omega
  | buildEnded target successful duration => cases target <;> simp [counted] <;> omega
  | _ => exact Nat.le_succ _

/-- No more builds are outstanding than there were events, besides those before. -/
theorem foldl_counted_le (events : List Event) : ∀ library executable : Nat,
    events.foldl (fun count event => event.counted .library count) library +
        events.foldl (fun count event => event.counted .executable count) executable ≤
      library + executable + events.length := by
  induction events with
  | nil => exact fun _ _ => Nat.le_refl _
  | cons event rest ih =>
    intro library executable
    have hone := event.counted_le library executable
    have hrest := ih (event.counted .library library) (event.counted .executable executable)
    simp only [List.foldl_cons, List.length_cons]
    omega

/-- So few events cannot be too many builds. -/
theorem StayFew.of_length {events : List Event} (h : events.length < UInt32.size) :
    StayFew events := by
  intro past hpast
  have hbuilds := foldl_counted_le past 0 0
  have hlength := hpast.length_le
  unfold unended
  omega

/-! ## 2. Counts in words -/

namespace BuildSpans

variable {spans : BuildSpans} {notifications : Notifications} {target : BuildTarget}

/-- The builds of both targets can be counted together. -/
def Fits (spans : BuildSpans) : Prop :=
  (spans.outstanding .library).toNat + (spans.outstanding .executable).toNat < UInt32.size

/-- There is room for one build more. -/
def HasRoom (spans : BuildSpans) : Prop :=
  (spans.outstanding .library).toNat + (spans.outstanding .executable).toNat + 1 < UInt32.size

theorem HasRoom.fits (h : spans.HasRoom) : spans.Fits := Nat.lt_of_succ_lt h

/-- **The total is the sum**, as long as it fits. -/
theorem Fits.total_toNat (h : spans.Fits) : spans.total.toNat =
    (spans.outstanding .library).toNat + (spans.outstanding .executable).toNat := by
  rw [total, UInt32.toNat_add]
  exact Nat.mod_eq_of_lt h

/-- With nothing outstanding, nothing of any target is. -/
theorem Fits.total_eq_zero_iff (h : spans.Fits) :
    spans.total = 0 ↔ ∀ target, spans.outstanding target = 0 := by
  have htotal := h.total_toNat
  simp only [← UInt32.toNat_inj, UInt32.toNat_zero]
  constructor
  · intro hnone target
    cases target <;> omega
  · intro hnone
    have hlibrary := hnone .library
    have hexecutable := hnone .executable
    omega

theorem Fits.total_pos (h : spans.Fits) (hsome : spans.outstanding target ≠ 0) :
    0 < spans.total := by
  rw [UInt32.pos_iff_ne_zero]
  exact fun hnone => hsome (h.total_eq_zero_iff.mp hnone target)

/-- One build more is counted. -/
theorem HasRoom.toNat_started (h : spans.HasRoom) (started target : BuildTarget) :
    ((spans.withCount (spans.outstanding started + 1) started).outstanding target).toNat =
      if started = target then (spans.outstanding target).toNat + 1
      else (spans.outstanding target).toNat := by
  unfold HasRoom at h
  have hword : (spans.outstanding started + 1).toNat = (spans.outstanding started).toNat + 1 := by
    simp only [UInt32.toNat_add, UInt32.toNat_one]
    refine Nat.mod_eq_of_lt ?_
    cases started <;> simp only [UInt32.size] at h <;> omega
  rw [outstanding_withCount]
  cases started <;> cases target <;> simp [hword]

/-- One build less is counted. -/
theorem toNat_ended {ended : BuildTarget} (hsome : spans.outstanding ended ≠ 0)
    (target : BuildTarget) :
    ((spans.withCount (spans.outstanding ended - 1) ended).outstanding target).toNat =
      if ended = target then (spans.outstanding target).toNat - 1
      else (spans.outstanding target).toNat := by
  have hone : 1 ≤ spans.outstanding ended := by
    rw [UInt32.le_iff_toNat_le, UInt32.toNat_one]
    rw [Ne, ← UInt32.toNat_inj, UInt32.toNat_zero] at hsome
    omega
  have hword : (spans.outstanding ended - 1).toNat = (spans.outstanding ended).toNat - 1 :=
    UInt32.toNat_sub_of_le _ _ hone
  rw [outstanding_withCount]
  cases ended <;> cases target <;> simp [hword]

/-- There was room, and so the counts still fit. -/
theorem HasRoom.fits_started (h : spans.HasRoom) (target : BuildTarget) :
    (spans.withCount (spans.outstanding target + 1) target).Fits := by
  unfold Fits
  rw [h.toNat_started, h.toNat_started]
  unfold HasRoom at h
  cases target <;> simp only [reduceCtorEq, if_true, if_false] <;> omega

/-- With one build less the counts fit as well. -/
theorem Fits.fits_ended (h : spans.Fits) (hsome : spans.outstanding target ≠ 0) :
    (spans.withCount (spans.outstanding target - 1) target).Fits := by
  unfold Fits at h ⊢
  rw [toNat_ended hsome, toNat_ended hsome]
  cases target <;> simp only [reduceCtorEq, if_true, if_false] <;> omega

/-- After a start, some build is outstanding. -/
theorem HasRoom.total_started (h : spans.HasRoom) (target : BuildTarget) :
    0 < (spans.withCount (spans.outstanding target + 1) target).total := by
  have hsome : (spans.withCount (spans.outstanding target + 1) target).outstanding target ≠ 0 := by
    rw [Ne, ← UInt32.toNat_inj, h.toNat_started, UInt32.toNat_zero, if_pos rfl]
    exact Nat.succ_ne_zero _
  exact (h.fits_started target).total_pos hsome

/-! ## 3. The notification -/

/-- The notification that says that builds are outstanding. -/
def IsIndicator (spans : BuildSpans) (entry : Notification) : Prop :=
  spans.indicator = some entry.number ∧ entry.message = message ∧ entry.endsAt = .none

/-- **The notification is there exactly while builds are outstanding**, and there is no other one
that says the same. -/
structure Indicates (spans : BuildSpans) (notifications : Notifications) : Prop where
  only : ∀ entry ∈ notifications.entries, entry.message = message →
    spans.IsIndicator entry ∧ 0 < spans.total
  listed : 0 < spans.total → ∃ entry ∈ notifications.entries, spans.IsIndicator entry

theorem Indicates.none (lifetime : Duration) : BuildSpans.none.Indicates (.empty lifetime) :=
  ⟨nofun, fun h => absurd h (by decide)⟩

/-- Only the entries matter. -/
theorem Indicates.congr {other : Notifications} (h : spans.Indicates notifications)
    (hentries : other.entries = notifications.entries) : spans.Indicates other := by
  refine ⟨?_, ?_⟩ <;> rw [hentries]
  · exact h.only
  · exact h.listed

/-- Counts matter only as far as there are any. -/
theorem Indicates.withCount (h : spans.Indicates notifications) {count : UInt32}
    (hbefore : 0 < spans.total) (hafter : 0 < (spans.withCount count target).total) :
    (spans.withCount count target).Indicates notifications := by
  have hsame : (spans.withCount count target).IsIndicator = spans.IsIndicator := by
    unfold IsIndicator
    rw [withCount_indicator]
  refine ⟨fun entry hentry hmessage => ⟨?_, hafter⟩, fun _ => ?_⟩ <;> rw [hsame]
  · exact (h.only entry hentry hmessage).1
  · exact h.listed hbefore

/-- The notification does not end by itself. -/
theorem Indicates.pruned (h : spans.Indicates notifications) (now : Moment) :
    spans.Indicates (notifications.pruned now) := by
  refine ⟨fun entry hentry => h.only entry (List.mem_filter.mp hentry).1, fun hbuilding => ?_⟩
  obtain ⟨entry, hentry, hindicator⟩ := h.listed hbuilding
  refine ⟨entry, List.mem_filter.mpr ⟨hentry, ?_⟩, hindicator⟩
  rw [Notification.isOver, hindicator.2.2]
  rfl

/-- Adding drops what has ended, and then puts the message last, unless the clock cannot hold its
end. -/
theorem add_entries (now : Moment) (text : String) (lifetime : Option Duration)
    (notifications : Notifications) :
    (notifications.add now text lifetime).2.entries = (notifications.pruned now).entries ∨
      ∃ number endsAt, (notifications.add now text lifetime).2.entries =
        (notifications.pruned now).entries ++ [⟨number, text, endsAt⟩] := by
  -- the clock is any function from here on, since it must not be evaluated
  obtain ⟨clock, hclock⟩ : ∃ clock, clock = Notifications.endOf? now := ⟨_, rfl⟩
  rw [Notifications.add.eq_def, ← hclock]
  cases lifetime with
  | none => exact Or.inr ⟨notifications.next, .none, rfl⟩
  | some lifetime =>
    dsimp only
    cases clock lifetime with
    | none => exact Or.inl rfl
    | some moment => exact Or.inr ⟨notifications.next, some moment, rfl⟩

/-- Another message leaves it alone. -/
theorem Indicates.add (h : spans.Indicates notifications) (now : Moment) {text : String}
    (htext : text ≠ message) (lifetime : Option Duration) :
    spans.Indicates (notifications.add now text lifetime).2 := by
  have hpruned := h.pruned now
  rcases add_entries now text lifetime notifications with
    hsame | ⟨number, endsAt, hput⟩
  · exact hpruned.congr hsame
  · refine ⟨?_, fun hbuilding => ?_⟩ <;> rw [hput]
    · intro entry hentry hmessage
      rcases List.mem_append.mp hentry with hold | hnew
      · exact hpruned.only entry hold hmessage
      · rw [List.mem_singleton.mp hnew] at hmessage
        exact absurd hmessage htext
    · obtain ⟨entry, hentry, hindicator⟩ := hpruned.listed hbuilding
      exact ⟨entry, List.mem_append_left _ hentry, hindicator⟩

/-- **The notification comes with the first start.** -/
theorem Indicates.started (h : spans.Indicates notifications) (hroom : spans.HasRoom)
    (now : Moment) (target : BuildTarget) :
    (spans.started now target notifications).1.Indicates
      (spans.started now target notifications).2 := by
  have hafter : 0 < (spans.withCount (spans.outstanding target + 1) target).total :=
    hroom.total_started target
  unfold BuildSpans.started
  dsimp only
  split
  · next hnone =>
    have hfresh : ∀ entry ∈ (notifications.pruned now).entries, entry.message ≠ message :=
      fun entry hentry hmessage =>
        absurd ((h.pruned now).only entry hentry hmessage).2 (by rw [hnone]; decide)
    refine ⟨fun entry hentry hmessage => ?_, fun _ => ?_⟩
    · rcases List.mem_append.mp hentry with hold | hnew
      · exact absurd hmessage (hfresh entry hold)
      · rw [List.mem_singleton.mp hnew]
        exact ⟨⟨rfl, rfl, rfl⟩, hafter⟩
    · exact ⟨_, List.mem_append_right _ List.mem_cons_self, rfl, rfl, rfl⟩
  · next hsome => exact h.withCount (UInt32.pos_iff_ne_zero.mpr hsome) hafter

/-- **It goes with the last end.** -/
theorem Indicates.ended (h : spans.Indicates notifications) (hfits : spans.Fits)
    (target : BuildTarget) :
    (spans.ended target notifications).2.1.Indicates (spans.ended target notifications).2.2 := by
  unfold BuildSpans.ended
  dsimp only
  split
  · exact h
  next hsome =>
  have hbefore : 0 < spans.total := hfits.total_pos hsome
  split
  · next hlast =>
    -- the notification that is removed by its number is the only one with the message
    obtain ⟨shown, hshown, hnumber, -, -⟩ := h.listed hbefore
    rw [withCount_indicator, hnumber]
    have hgone : (notifications.remove shown.number).2.entries =
        notifications.entries.filter (·.number != shown.number) := by
      have hany : notifications.entries.any (·.number == shown.number) = true :=
        List.any_eq_true.mpr ⟨shown, hshown, beq_self_eq_true _⟩
      rw [Notifications.remove, hany]
      rfl
    refine ⟨fun entry hentry hmessage => ?_, fun hbuilding => ?_⟩
    · rw [hgone] at hentry
      obtain ⟨hold, hother⟩ := List.mem_filter.mp hentry
      have hsame : spans.indicator = some entry.number := (h.only entry hold hmessage).1.1
      rw [hnumber, Option.some.injEq] at hsame
      rw [hsame, bne_self_eq_false] at hother
      exact absurd hother Bool.false_ne_true
    · have hsame : ({ spans.withCount (spans.outstanding target - 1) target with
          indicator := .none } : BuildSpans).total =
            (spans.withCount (spans.outstanding target - 1) target).total := rfl
      dsimp only at hbuilding
      rw [hsame, hlast] at hbuilding
      exact absurd hbuilding (by decide)
  · next hmore => exact h.withCount hbefore (UInt32.pos_iff_ne_zero.mpr hmore)

/-- **It is listed at any moment exactly while builds are outstanding.** -/
theorem Indicates.contains_iff (h : spans.Indicates notifications) (now : Moment) :
    (notifications.contains now message).1 = true ↔ 0 < spans.total := by
  have hpruned := h.pruned now
  have hlisted : (notifications.contains now message).1 =
      (notifications.pruned now).entries.any (·.message == message) := rfl
  rw [hlisted, List.any_eq_true]
  constructor
  · rintro ⟨entry, hentry, hmessage⟩
    exact (hpruned.only entry hentry (eq_of_beq hmessage)).2
  · intro hbuilding
    obtain ⟨entry, hentry, -, hmessage, -⟩ := hpruned.listed hbuilding
    exact ⟨entry, hentry, beq_iff_eq.mpr hmessage⟩

/-- The counts after a start. -/
theorem HasRoom.started_outstanding (h : spans.HasRoom) (now : Moment)
    (started target : BuildTarget) (notifications : Notifications) :
    ((spans.started now started notifications).1.outstanding target).toNat =
      (Event.buildStarted started).counted target (spans.outstanding target).toNat := by
  have hcounted := h.toNat_started started target
  unfold BuildSpans.started
  dsimp only
  split
  · rw [outstanding_setIndicator]
    exact hcounted
  · exact hcounted

/-- The counts after an end. -/
theorem ended_outstanding (ended target : BuildTarget) (successful : Bool)
    (duration : Option BinaryFloat.Double) (spans : BuildSpans) (notifications : Notifications) :
    ((spans.ended ended notifications).2.1.outstanding target).toNat =
      (Event.buildEnded ended successful duration).counted target
        (spans.outstanding target).toNat := by
  unfold BuildSpans.ended
  dsimp only
  split
  · next hnone =>
    rw [Event.counted]
    split
    · next hsame =>
      rw [← hsame, hnone]
      rfl
    · rfl
  · next hsome =>
    have hcounted := toNat_ended hsome target
    split
    · split
      · exact hcounted
      · rw [outstanding_setIndicator]
        exact hcounted
    · exact hcounted

end BuildSpans

/-! ## 4. The events of frames -/

/-- The event that a frame stands for, if there is one. -/
def Event.ofFrame? (frame : Json) : Option Event :=
  ((HandlerTable.nameOf? frame).bind EventKind.ofName?).bind fun kind => Event.ofJson? kind frame

namespace HandlerTable

variable {σ : Type} {handle : Event → σ → Bool × σ} {table : HandlerTable σ}

/-- What a table does with the events of one kind. -/
def reading (kind : EventKind) (handle : Event → σ → Bool × σ) : Handler σ := fun frame state =>
  match Event.ofJson? kind frame with
  | some event => handle event state
  | none => (true, state)

/-- A table with one handler for many kinds of events. -/
theorem lookup_onAll (handle : Event → σ → Bool × σ) (name : String) (kinds : List EventKind)
    (table : HandlerTable σ) :
    (kinds.foldl (fun table kind => table.on kind handle) table).entries.lookup name =
      ((kinds.reverse.find? fun kind => kind.name == name).map fun kind =>
        reading kind handle).or (table.entries.lookup name) :=
  lookup_insertAll EventKind.name (fun kind => reading kind handle) name kinds table

end HandlerTable

namespace EventKind

theorem name_injective {a b : EventKind} (h : a.name = b.name) : a = b := by
  revert h
  cases a <;> cases b <;> decide

/-- No two kinds have the same name, so that it does not matter in which order they are searched. -/
theorem find?_reverse_all (name : String) :
    (all.reverse.find? fun kind => kind.name == name) = ofName? name := by
  unfold ofName?
  cases hfound : all.find? fun kind => kind.name == name with
  | none =>
    rw [List.find?_eq_none] at hfound ⊢
    exact fun kind hkind => hfound kind (List.mem_reverse.mp hkind)
  | some kind =>
    have hkind := List.find?_some hfound
    cases hlast : all.reverse.find? fun kind => kind.name == name with
    | none =>
      have hmem := List.mem_reverse.mpr (List.mem_of_find?_eq_some hfound)
      exact absurd hkind (List.find?_eq_none.mp hlast kind hmem)
    | some other =>
      have hother := List.find?_some hlast
      exact congrArg some (name_injective ((eq_of_beq hother).trans (eq_of_beq hkind).symm))

end EventKind

variable {ι : Type} {loader : LibraryLoader ι}

namespace Engine

variable {engine : Engine ι} {told : List Event}

/-- **A frame is handled if it stands for an event**, whatever its kind is. -/
theorem dispatch_handlers (now : Moment) (frame : Json) (engine : Engine ι) :
    (handlers now).dispatch frame engine =
      match Event.ofFrame? frame with
      | some event => engine.handle now event
      | none => (true, engine) := by
  unfold HandlerTable.dispatch HandlerTable.handlerOf? Event.ofFrame?
  cases HandlerTable.nameOf? frame with
  | none => rfl
  | some name =>
    rw [Option.bind_some, Option.bind_some, handlers, HandlerTable.lookup_onAll,
      EventKind.find?_reverse_all]
    cases EventKind.ofName? name with
    | none => rfl
    | some kind =>
      rw [Option.bind_some, Option.map_some, Option.some_or]
      rfl

/-! ## 5. The events of a run -/

/-- The events that are handled when frames arrive: a handler that cannot go on is the last. -/
def handledIn (now : Moment) : List Json → Engine ι → List Event
  | [], _ => []
  | frame :: rest, engine =>
    match Event.ofFrame? frame with
    | none => handledIn now rest engine
    | some event =>
      match engine.handle now event with
      | (true, next) => event :: handledIn now rest next
      | (false, _) => [event]

/-- The events that a move tells the engine. -/
def toldBy (next : EngineMove) (engine : Engine ι) : List Event :=
  match next with
  | .handle _ event => [event]
  | .receive now bytes =>
    let taken := (channelPlace.get engine).take bytes
    (channelPlace.set taken.2 engine).handledIn now taken.1
  | _ => []

/-- The events that a run tells the engine, on all its connections. -/
def toldAlong (loader : LibraryLoader ι) : List EngineMove → Engine ι → List Event
  | [], _ => []
  | next :: rest, engine =>
    engine.toldBy next ++ toldAlong loader rest (engine.move loader next)

/-- The counts are those of the builds that were told, and the notification fits to them. -/
structure Tracks (told : List Event) (engine : Engine ι) : Prop where
  counts : ∀ target, (engine.spans.outstanding target).toNat = unended target told
  indicates : engine.spans.Indicates engine.notifications

theorem Tracks.fits (h : engine.Tracks told) (hfew : StayFew told) : engine.spans.Fits := by
  unfold BuildSpans.Fits
  rw [h.counts, h.counts]
  exact hfew told (List.prefix_refl told)

/-- There is room for a build that is told to start. -/
theorem Tracks.hasRoom (h : engine.Tracks told) {target : BuildTarget}
    (hfew : StayFew (told ++ [.buildStarted target])) : engine.spans.HasRoom := by
  have hnext := hfew _ (List.prefix_refl _)
  unfold BuildSpans.HasRoom
  rw [h.counts, h.counts]
  simp only [unended_append, List.foldl_cons, List.foldl_nil, Event.counted] at hnext
  cases target <;> simp only [reduceCtorEq, if_true, if_false] at hnext <;> omega

/-- Neither the resources nor the reconciler matter. -/
theorem Tracks.congr {other : Engine ι} (h : engine.Tracks told)
    (hspans : other.spans = engine.spans)
    (hentries : other.notifications.entries = engine.notifications.entries) :
    other.Tracks told := by
  refine ⟨?_, ?_⟩ <;> rw [hspans]
  · exact h.counts
  · exact h.indicates.congr hentries

/-- Events that are no news of builds are not counted. -/
theorem Tracks.uncounted (h : engine.Tracks told) {event : Event}
    (hevent : ∀ target count, event.counted target count = count) :
    engine.Tracks (told ++ [event]) := by
  refine ⟨fun target => ?_, h.indicates⟩
  rw [unended_append, h.counts target]
  exact (hevent target _).symm

/-- Other messages that the notification fits to do not matter.  They are a variable here, since an
operation on the clock must not be evaluated to see this. -/
theorem Tracks.notices (h : engine.Tracks told) {notifications : Notifications}
    (hindicates : engine.spans.Indicates notifications) :
    { engine with notifications := notifications }.Tracks told := ⟨h.counts, hindicates⟩

/-- A message that says something else is such a one. -/
theorem Tracks.tell (h : engine.Tracks told) (now : Moment) {text : String}
    (htext : text ≠ BuildSpans.message) : (engine.tell now text).2.Tracks told := by
  have hadded : engine.spans.Indicates (engine.notifications.addTimed now text).2 := by
    rw [Notifications.addTimed]
    exact h.indicates.add now htext (some engine.notifications.lifetime)
  exact h.notices hadded

/-- **Handling an event counts it.** -/
theorem Tracks.handle (h : engine.Tracks told) (now : Moment) {event : Event}
    (hfew : StayFew (told ++ [event])) :
    (engine.handle now event).2.Tracks (told ++ [event]) := by
  have huncounted : (∀ target count, event.counted target count = count) →
      engine.Tracks (told ++ [event]) := fun hevent => h.uncounted hevent
  cases event with
  | buildStarted target =>
    have hroom := h.hasRoom hfew
    refine ⟨fun other => ?_, h.indicates.started hroom now target⟩
    rw [unended_append, ← h.counts other]
    exact hroom.started_outstanding now target other engine.notifications
  | buildEnded target successful duration =>
    have hended : (engine.buildEnded target).Tracks
        (told ++ [.buildEnded target successful duration]) := by
      have hfits := h.fits (hfew.before (List.prefix_append told _))
      refine ⟨fun other => ?_, h.indicates.ended hfits target⟩
      rw [unended_append, ← h.counts other]
      exact BuildSpans.ended_outstanding target other successful duration engine.spans
        engine.notifications
    unfold Engine.handle
    dsimp only
    split
    · exact hended
    · exact hended.tell now (by cases target <;> decide)
  | libraryCompiled path => exact (huncounted fun _ _ => rfl).congr rfl rfl
  | executableCompiled path size =>
    refine (huncounted fun _ _ => rfl).tell now fun hsame => ?_
    have hletters := congrArg String.toList hsame
    simp [BuildSpans.message] at hletters
  | exported path =>
    refine (huncounted fun _ _ => rfl).tell now fun hsame => ?_
    have hletters := congrArg String.toList hsame
    simp [BuildSpans.message] at hletters
  | runFinished duration => exact huncounted fun _ _ => rfl
  | error message => exact huncounted fun _ _ => rfl
  | shaderSetProvided set =>
    have hkept := huncounted fun _ _ => rfl
    unfold Engine.handle Engine.shaderSetProvided
    dsimp only
    split
    · exact hkept
    · exact hkept.congr rfl rfl

/-- So does handling frames, as far as it goes. -/
theorem Tracks.dispatchAll (now : Moment) (frames : List Json) :
    ∀ {engine : Engine ι} {told : List Event}, engine.Tracks told →
      StayFew (told ++ engine.handledIn now frames) →
      ((handlers now).dispatchAll frames engine).2.Tracks
        (told ++ engine.handledIn now frames) := by
  induction frames with
  | nil =>
    intro engine told h hfew
    rw [handledIn, List.append_nil]
    exact h
  | cons frame rest ih =>
    intro engine told h hfew
    rw [handledIn] at hfew ⊢
    rw [HandlerTable.dispatchAll, dispatch_handlers]
    cases hevent : Event.ofFrame? frame with
    | none =>
      rw [hevent] at hfew
      exact ih h hfew
    | some event =>
      rw [hevent] at hfew
      dsimp only at hfew ⊢
      rcases hstep : engine.handle now event with ⟨_ | _, next⟩ <;> rw [hstep] at hfew
      · have hhandled := h.handle now hfew
        rw [hstep] at hhandled
        exact hhandled
      · dsimp only at hfew ⊢
        rw [List.append_cons] at hfew ⊢
        have hhandled := h.handle now (hfew.before (List.prefix_append _ _))
        rw [hstep] at hhandled
        exact ih hhandled hfew

/-- A pass leaves the counts and the notification alone, and so does a series of passes. -/
theorem Tracks.runPasses (now : Moment) (count : Nat) :
    ∀ {engine : Engine ι}, engine.Tracks told →
      (engine.runPasses loader now count).Tracks told := by
  induction count with
  | zero => exact fun h => h
  | succ count ih => exact fun h => ih (h.congr rfl rfl)

theorem Tracks.runScheduled (h : engine.Tracks told) (now : Moment) :
    (engine.runScheduled loader now).Tracks told :=
  Tracks.runPasses now engine.scheduled (h.congr rfl rfl)

/-- Preferences say how long other messages stay. -/
theorem Tracks.applySettings (h : engine.Tracks told) (now : Moment) (settings : Settings) :
    (engine.applySettings loader now settings).2.Tracks told := by
  cases hexiting : engine.reconciler.isExiting with
  | true =>
    rw [applySettings_of_exiting hexiting]
    exact h
  | false =>
    obtain ⟨resources, hstored⟩ := stored_eq settings engine
    rw [applySettings_eq hexiting, hstored]
    exact h.congr rfl rfl

/-- Bytes that arrive are counted as far as they are handled. -/
theorem Tracks.receive (h : engine.Tracks told) (now : Moment) (bytes : List UInt8)
    (hfew : StayFew (told ++ engine.toldBy (.receive now bytes))) :
    (engine.receive loader now bytes).Tracks (told ++ engine.toldBy (.receive now bytes)) := by
  have htaken : ∀ channel, (channelPlace.set channel engine).Tracks told :=
    fun _ => h.congr rfl rfl
  have hreceived : (Channel.receive channelPlace (handlers now) bytes engine).Tracks
      (told ++ engine.toldBy (.receive now bytes)) := by
    unfold Channel.receive
    unfold toldBy at hfew ⊢
    dsimp only at hfew ⊢
    rcases htake : (channelPlace.get engine).take bytes with ⟨frames, channel⟩
    rw [htake] at hfew
    have hall := (htaken channel).dispatchAll now frames hfew
    dsimp only
    generalize channelPlace.set channel engine = taken at hall ⊢
    rcases hdone : (handlers now).dispatchAll frames taken with ⟨_ | _, after⟩ <;>
      rw [hdone] at hall
    · exact hall.congr rfl rfl
    · exact hall
  exact hreceived.runScheduled now

/-- **Every move counts what it tells**, and nothing else. -/
theorem Tracks.move (h : engine.Tracks told) (next : EngineMove)
    (hfew : StayFew (told ++ engine.toldBy next)) :
    (engine.move loader next).Tracks (told ++ engine.toldBy next) := by
  have hquiet : engine.Tracks (told ++ []) := by rwa [List.append_nil]
  cases next with
  | apply now edit => exact hquiet.congr rfl rfl
  | commit now draft => exact hquiet.congr rfl rfl
  | applySettings now settings => exact hquiet.applySettings now settings
  | reconcile now => exact hquiet.congr rfl rfl
  | shutdown now => exact hquiet.congr rfl rfl
  | schedule edit => exact hquiet.congr rfl rfl
  | runScheduled now => exact hquiet.runScheduled now
  | handle now event => exact h.handle now hfew
  | receive now bytes => exact h.receive now bytes hfew
  | operate operation => exact hquiet.congr rfl rfl
  | stopReading => exact hquiet.congr rfl rfl
  | outside world => exact hquiet.congr rfl rfl

/-- **So the indicator follows the builds along every run.** -/
theorem Tracks.moves (list : List EngineMove) :
    ∀ {engine : Engine ι} {told : List Event}, engine.Tracks told →
      StayFew (told ++ engine.toldAlong loader list) →
      (engine.moves loader list).Tracks (told ++ engine.toldAlong loader list) := by
  induction list with
  | nil =>
    intro engine told h hfew
    rw [toldAlong, List.append_nil]
    exact h
  | cons next rest ih =>
    intro engine told h hfew
    rw [toldAlong, ← List.append_assoc] at hfew ⊢
    exact ih (h.move next (hfew.before (List.prefix_append _ _))) hfew

/-! ## 6. What is shown after a pass -/

/-- Neither a count nor the notification is there. -/
def ShowsNoBuild (engine : Engine ι) : Prop :=
  engine.spans.total = 0 ∧ ∀ now, (engine.notifications.contains now BuildSpans.message).1 = false

/-- Nothing is shown exactly if every build that was told to have started was told to have ended. -/
theorem Tracks.showsNoBuild_iff (h : engine.Tracks told) (hfew : StayFew told) :
    engine.ShowsNoBuild ↔ ∀ target, unended target told = 0 := by
  have htotal : engine.spans.total = 0 ↔ ∀ target, unended target told = 0 := by
    rw [(h.fits hfew).total_eq_zero_iff]
    refine forall_congr' fun target => ?_
    rw [← UInt32.toNat_inj, h.counts, UInt32.toNat_zero]
  rw [← htotal]
  refine ⟨And.left, fun hnone => ⟨hnone, fun now => ?_⟩⟩
  rw [← Bool.not_eq_true, h.indicates.contains_iff now, hnone]
  decide

/-- **The indicator follows the builds, not the session.**  After any run, in which events, closing
peers, edits, disconnects and reconnects may come in any order, as long as never more builds were
outstanding than can be counted, the count of a target is that of its builds that were told to have
started and not yet to have ended, the total is the sum of both, and the notification is listed
exactly while there is one.  A pass changes neither.  So what it leaves, disconnected or not, shows
no build exactly if every build that was told to have started was told to have ended. -/
theorem building_follows_events (options : EngineOptions) (world : World)
    (list : List EngineMove) (hfew : StayFew ((Engine.start options world).toldAlong loader list)) :
    let engine := (Engine.start options world).moves loader list
    let told := (Engine.start options world).toldAlong loader list
    (∀ target, (engine.spans.outstanding target).toNat = unended target told) ∧
      engine.spans.total.toNat = unended .library told + unended .executable told ∧
      (∀ now, (engine.notifications.contains now BuildSpans.message).1 = true ↔
        0 < engine.spans.total) ∧
      ∀ (desired : DesiredState) (now : Moment),
        ((engine.wanting desired).reconcile loader now).2.spans = engine.spans ∧
        (((engine.wanting desired).reconcile loader now).2.ShowsNoBuild ↔
          ∀ target, unended target told = 0) := by
  intro engine told
  have hstart : (Engine.start options world : Engine ι).Tracks [] :=
    ⟨fun target => by cases target <;> rfl, BuildSpans.Indicates.none _⟩
  have htracks : engine.Tracks told := hstart.moves list hfew
  have htotal := (htracks.fits hfew).total_toNat
  rw [htracks.counts, htracks.counts] at htotal
  refine ⟨htracks.counts, htotal, fun now => htracks.indicates.contains_iff now,
    fun desired now => ?_⟩
  have hpass : ((engine.wanting desired).reconcile loader now).2.Tracks told :=
    htracks.congr rfl rfl
  exact ⟨rfl, hpass.showsNoBuild_iff hfew⟩

/-- A connection to somebody who listens already, or none. -/
def listener (connected : Bool) : DesiredState :=
  { DesiredState.default with server := ⟨connected, "127.0.0.1", 5184, .external, none⟩ }

/-- A build starts, and then the peer closes the connection. -/
def lostMoves : List EngineMove :=
  [.apply 0 fun _ => listener true,
    .receive 1 (Framing.bytes (Event.buildStarted .library).frame.render), .stopReading]

/-- An engine that has gone through this. -/
def lostBuild : Engine Recorder :=
  (Engine.start smallOptions (smallWorld [] [5184])).moves Recorder.loader lostMoves

/-- One build was told to start, and so one is outstanding and shown, and it still is after a pass
that wants no connection. -/
theorem lostBuild_follows :
    StayFew ((Engine.start smallOptions (smallWorld [] [5184]) : Engine Recorder).toldAlong
        Recorder.loader lostMoves) ∧
      lostBuild.spans.total.toNat = 1 ∧
      (∀ now, (lostBuild.notifications.contains now BuildSpans.message).1 = true) ∧
      ∀ now, ¬((lostBuild.wanting (listener false)).reconcile Recorder.loader
        now).2.ShowsNoBuild := by
  have htold : (Engine.start smallOptions (smallWorld [] [5184]) : Engine Recorder).toldAlong
      Recorder.loader lostMoves = [.buildStarted .library] := by
    decide +kernel
  have hfew : StayFew ((Engine.start smallOptions (smallWorld [] [5184]) :
      Engine Recorder).toldAlong Recorder.loader lostMoves) :=
    .of_length (by rw [htold]; decide)
  obtain ⟨-, htotal, hlisted, hpass⟩ :=
    building_follows_events smallOptions (smallWorld [] [5184]) lostMoves hfew
  rw [htold] at htotal hpass
  refine ⟨hfew, htotal, fun now => (hlisted now).mpr ?_, fun now hnone => ?_⟩
  · rw [UInt32.lt_iff_toNat_lt, htotal]
    decide
  · exact absurd ((hpass (listener false) now).2.mp hnone .library) (by decide)

/-- **A build whose end is lost with its connection is still shown** after the pass that has left
the engine disconnected. -/
theorem lost_build_is_shown :
    lostBuild.Reachable Recorder.loader ∧
      ((lostBuild.wanting (listener false)).reconcile Recorder.loader 2).1 = .ok () ∧
      ((lostBuild.wanting (listener false)).reconcile Recorder.loader
        2).2.resources.session.current.connected = false ∧
      ((lostBuild.wanting (listener false)).reconcile Recorder.loader 2).2.spans.total = 1 ∧
      (((lostBuild.wanting (listener false)).reconcile Recorder.loader
        2).2.notifications.contains 3 BuildSpans.message).1 = true :=
  ⟨⟨_, _, _, rfl⟩, by decide +kernel, by decide +kernel, by decide +kernel, by decide +kernel⟩

end Engine

end RenderSync
