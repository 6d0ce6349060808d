import RenderSync.Proofs.NotificationHistory

/-!
# Stretches of building

Starts and ends of builds arrive in any order: nested, overlapping, and ends without a start.
Other messages come and go meanwhile, possibly with the same words.  Whatever happens, as long as
nobody else removes the notification of the builds (`BuildRun.Spares`) and never more builds are
outstanding than can be counted (`BuildRun.IsFew`), an end is accepted exactly if more builds of its
target were started than were ended, and the listed messages that nobody else added are that
notification while any build is outstanding, and none otherwise (`BuildRun.Follows`).

It is the same notification from the first start to the last end.  A stretch of building is a part
of a run along which builds are outstanding (`BuildRun.Stretch`); no step within one touches the
number that was given out at its beginning.
-/

namespace RenderSync

/-! ## 1. Starts and ends -/

namespace BuildSpans

variable {spans : BuildSpans} {notifications : Notifications} {target : BuildTarget}

/-- **The first start adds a notification**, and the others only count. -/
theorem started_cases (now : Moment) (target : BuildTarget) (spans : BuildSpans)
    (notifications : Notifications) :
    let counted := spans.withCount (spans.outstanding target + 1) target
    spans.total = 0 ∧ spans.started now target notifications =
        ({ counted with indicator := some notifications.next },
          (notifications.perform (.add now message .none)).2) ∨
      0 < spans.total ∧ spans.started now target notifications = (counted, notifications) := by
  intro counted
  unfold started
  by_cases hnone : spans.total = 0
  · rw [if_pos hnone]
    exact Or.inl ⟨hnone, rfl⟩
  · rw [if_neg hnone]
    exact Or.inr ⟨UInt32.pos_iff_ne_zero.mpr hnone, rfl⟩

/-- **An end without a start is refused**, the last end removes the notification, and the others
only count. -/
theorem ended_cases (target : BuildTarget) (spans : BuildSpans) (notifications : Notifications) :
    let counted := spans.withCount (spans.outstanding target - 1) target
    spans.outstanding target = 0 ∧
        spans.ended target notifications = (false, spans, notifications) ∨
      spans.outstanding target ≠ 0 ∧ 0 < counted.total ∧
        spans.ended target notifications = (true, counted, notifications) ∨
      spans.outstanding target ≠ 0 ∧ counted.total = 0 ∧ spans.indicator = .none ∧
        spans.ended target notifications = (true, counted, notifications) ∨
      ∃ number, spans.outstanding target ≠ 0 ∧ counted.total = 0 ∧
        spans.indicator = some number ∧ spans.ended target notifications =
          (true, { counted with indicator := .none },
            (notifications.perform (.remove number)).2) := by
  intro counted
  have hindicator : counted.indicator = spans.indicator := withCount_indicator ..
  unfold ended
  by_cases hsome : spans.outstanding target = 0
  · rw [if_pos hsome]
    exact Or.inl ⟨hsome, rfl⟩
  rw [if_neg hsome]
  by_cases hlast : counted.total = 0
  · rw [if_pos hlast]
    rw [hindicator]
    cases hnumber : spans.indicator with
    | none => exact Or.inr (Or.inr (Or.inl ⟨hsome, hlast, rfl, rfl⟩))
    | some number => exact Or.inr (Or.inr (Or.inr ⟨number, hsome, hlast, rfl, rfl⟩))
  · rw [if_neg hlast]
    exact Or.inr (Or.inl ⟨hsome, UInt32.pos_iff_ne_zero.mpr hlast, rfl⟩)

end BuildSpans

/-! ## 2. Runs -/

/-- What is reported of builds, and what others do with the notifications. -/
inductive BuildCall where
  | started (now : Moment) (target : BuildTarget)
  | ended (target : BuildTarget)
  | other (call : Notifications.Call)
deriving DecidableEq

/-- Builds, notifications, and what came before: how often a build of each target was started, how
often an end of it was accepted, and the numbers of the messages that others added. -/
structure BuildRun where
  spans : BuildSpans
  notifications : Notifications
  starts : List BuildTarget
  ends : List BuildTarget
  others : List Nat

namespace BuildRun

variable {run later : BuildRun} {call : BuildCall} {lifetime : Duration}

/-- Nothing has happened yet. -/
def empty (lifetime : Duration) : BuildRun := ⟨.none, .empty lifetime, [], [], []⟩

/-- The run after a call. -/
def perform (run : BuildRun) : BuildCall → BuildRun
  | .started now target =>
    { run with
      spans := (run.spans.started now target run.notifications).1
      notifications := (run.spans.started now target run.notifications).2
      starts := run.starts ++ [target] }
  | .ended target =>
    { run with
      spans := (run.spans.ended target run.notifications).2.1
      notifications := (run.spans.ended target run.notifications).2.2
      ends := if (run.spans.ended target run.notifications).1 then run.ends ++ [target]
        else run.ends }
  | .other call =>
    { run with
      notifications := (run.notifications.perform call).2
      others := run.others ++ (run.notifications.perform call).1.toList }

/-- The call is not that of somebody else who removes the notification of the builds. -/
def Spares (run : BuildRun) (call : BuildCall) : Prop :=
  ∀ number, run.spans.indicator = some number → call ≠ .other (.remove number)

instance (run : BuildRun) (call : BuildCall) : Decidable (run.Spares call) :=
  decidable_of_iff (∀ number ∈ run.spans.indicator, call ≠ .other (.remove number)) Iff.rfl

/-- Fewer builds are outstanding than can be counted: those that were started, without those whose
end was accepted. -/
def IsFew (run : BuildRun) : Prop := run.starts.length < run.ends.length + UInt32.size

instance (run : BuildRun) : Decidable run.IsFew := Nat.decLt _ _

/-- A run that comes about. -/
inductive Reached (lifetime : Duration) : BuildRun → Prop where
  | start : Reached lifetime (.empty lifetime)
  | next {run : BuildRun} {call : BuildCall} : Reached lifetime run → run.Spares call →
      (run.perform call).IsFew → Reached lifetime (run.perform call)

/-- A part of a run along which builds are outstanding. -/
inductive Stretch (run : BuildRun) : BuildRun → Prop where
  | here : 0 < run.spans.total → Stretch run run
  | next {later : BuildRun} {call : BuildCall} : Stretch run later → later.Spares call →
      (later.perform call).IsFew → 0 < (later.perform call).spans.total →
      Stretch run (later.perform call)

/-- What is listed and nobody else added. -/
def listed (run : BuildRun) (now : Moment) : List Notification :=
  (run.notifications.list now).1.filter fun entry => entry.number ∉ run.others

/-- The notification of the builds. -/
def indication (number : Nat) : Notification := ⟨number, BuildSpans.message, none⟩

/-- **Counts and notifications agree with what happened.** -/
structure Sound (run : BuildRun) : Prop where
  balanced : ∀ target,
    (run.spans.outstanding target).toNat + run.ends.count target = run.starts.count target
  fits : run.spans.Fits
  indicated : run.spans.indicator.isSome = true ↔ 0 < run.spans.total
  own : (run.notifications.entries.filter fun entry => entry.number ∉ run.others) =
    run.spans.indicator.toList.map indication
  numbered : run.notifications.Numbered
  others : ∀ number ∈ run.others, number < run.notifications.next

theorem Sound.empty (lifetime : Duration) : (BuildRun.empty lifetime).Sound := by
  refine ⟨fun target => ?_, ?_, ?_, rfl, .empty lifetime, nofun⟩
  · cases target <;> rfl
  · exact Nat.zero_lt_succ _
  · exact iff_of_false nofun (UInt32.lt_irrefl 0)

/-- Every target is one of two. -/
theorem length_eq_count (targets : List BuildTarget) :
    targets.length = targets.count .library + targets.count .executable := by
  induction targets with
  | nil => rfl
  | cons target rest ih =>
    rw [List.length_cons, ih]
    cases target <;> simp <;> omega

/-- Where one build more is few enough, there is room for it. -/
theorem Sound.hasRoom (h : run.Sound) {now : Moment} {target : BuildTarget}
    (hfew : (run.perform (.started now target)).IsFew) : run.spans.HasRoom := by
  have hlibrary := h.balanced .library
  have hexecutable := h.balanced .executable
  have hstarts := length_eq_count run.starts
  have hends := length_eq_count run.ends
  simp only [IsFew, perform, List.length_append, List.length_singleton] at hfew
  unfold BuildSpans.HasRoom
  omega

/-! ## 3. One call -/

/-- The notification does not end by itself. -/
theorem indication_drops {number : Nat} {call : Notifications.Call}
    (hspared : call ≠ .remove number) : call.drops (indication number) = false := by
  cases call with
  | remove other =>
    refine beq_eq_false_iff_ne.mpr ?_
    rintro rfl
    exact hspared rfl
  | _ => rfl

/-- What a call does to the messages that are not among some. -/
theorem filter_perform (others : List Nat) (notifications : Notifications)
    (call : Notifications.Call) :
    ((notifications.perform call).2.entries.filter fun entry => entry.number ∉ others) =
      ((notifications.entries.filter fun entry => entry.number ∉ others).filter
          fun entry => !call.drops entry) ++
        (call.posted? notifications.next notifications.lifetime).toList.filter
          fun entry => entry.number ∉ others := by
  rw [Notifications.perform_entries, List.filter_append, List.filter_filter, List.filter_filter]
  congr 2
  funext entry
  exact Bool.and_comm ..

/-- What is known about the numbers of others stays known. -/
theorem Sound.others_lt (h : run.Sound) (call : Notifications.Call) :
    ∀ number ∈ run.others, number < (run.notifications.perform call).2.next := by
  intro number hnumber
  rw [Notifications.perform_next]
  exact Nat.lt_add_right _ (h.others number hnumber)

/-- **Others leave it alone**: what they add is theirs, and what they drop was theirs. -/
theorem Sound.other (h : run.Sound) {call : Notifications.Call}
    (hspares : run.Spares (.other call)) : (run.perform (.other call)).Sound := by
  have hothers : ∀ number, number ∈ (run.perform (.other call)).others ↔ number ∈ run.others ∨
      ∃ entry ∈ call.posted? run.notifications.next run.notifications.lifetime,
        entry.number = number := by
    intro number
    rw [perform, Notifications.perform_number]
    simp
  have hnext := Notifications.perform_next run.notifications call
  refine ⟨h.balanced, h.fits, h.indicated, ?_, h.numbered.perform call, ?_⟩
  · -- none of the messages that were there before has the new number
    have hold : (run.notifications.entries.filter
        fun entry => entry.number ∉ (run.perform (.other call)).others) =
          run.spans.indicator.toList.map indication := by
      rw [← h.own]
      refine List.filter_congr fun entry hentry => ?_
      rw [decide_eq_decide, hothers, not_or, and_iff_left]
      rintro ⟨added, hadded, hsame⟩
      have hgiven := h.numbered.given entry hentry
      rw [← hsame, Notifications.Call.number_of_posted? hadded] at hgiven
      exact Nat.lt_irrefl _ hgiven
    have hnew : ((call.posted? run.notifications.next run.notifications.lifetime).toList.filter
        fun entry => entry.number ∉ (run.perform (.other call)).others) = [] := by
      refine List.filter_eq_nil_iff.mpr fun entry hentry => ?_
      rw [decide_eq_true_iff, hothers, not_not]
      exact Or.inr ⟨entry, Option.mem_toList.mp hentry, rfl⟩
    refine (filter_perform ..).trans ?_
    rw [hold, hnew, List.append_nil]
    refine List.filter_eq_self.mpr fun entry hentry => ?_
    obtain ⟨number, hnumber, rfl⟩ := List.mem_map.mp hentry
    rw [indication_drops fun hremove => hspares number (Option.mem_toList.mp hnumber)
      (congrArg BuildCall.other hremove)]
    rfl
  · intro number hnumber
    rcases (hothers number).mp hnumber with hbefore | ⟨entry, hentry, rfl⟩
    · exact h.others_lt call number hbefore
    · have hlater : (run.perform (.other call)).notifications.next =
          run.notifications.next + call.adds.toNat := hnext
      rw [hlater, Notifications.Call.number_of_posted? hentry,
        Notifications.Call.adds_of_posted? hentry]
      exact Nat.lt_succ_self _

/-- **A start is counted, and the first one adds the notification.** -/
theorem Sound.started (h : run.Sound) {now : Moment} {target : BuildTarget}
    (hfew : (run.perform (.started now target)).IsFew) :
    (run.perform (.started now target)).Sound := by
  have hroom := h.hasRoom hfew
  have hbalanced : ∀ other,
      ((run.spans.started now target run.notifications).1.outstanding other).toNat +
        run.ends.count other = (run.starts ++ [target]).count other := by
    intro other
    have hbefore := h.balanced other
    rw [hroom.started_outstanding, Event.counted, List.count_append, List.count_singleton,
      beq_eq_decide]
    by_cases hsame : target = other
    · simp only [hsame, if_true, decide_true]
      omega
    · simp only [hsame, if_false, decide_false, Bool.false_eq_true]
      omega
  have hfits := hroom.fits_started target
  have hbuilding := hroom.total_started target
  rcases BuildSpans.started_cases now target run.spans run.notifications with
    ⟨hnone, hstarted⟩ | ⟨hsome, hstarted⟩ <;> rw [hstarted] at hbalanced
  · have hindicator : run.spans.indicator = none := by
      rw [← Option.not_isSome_iff_eq_none, h.indicated, hnone]
      decide
    have hown := h.own
    rw [hindicator] at hown
    rw [perform, hstarted]
    refine ⟨hbalanced, hfits, iff_of_true rfl hbuilding, ?_, h.numbered.perform _, h.others_lt _⟩
    refine (filter_perform ..).trans ?_
    have hfresh : run.notifications.next ∉ run.others :=
      fun hnumber => Nat.lt_irrefl _ (h.others _ hnumber)
    rw [hown]
    simp [Notifications.Call.posted?, hfresh, indication]
  · rw [perform, hstarted]
    refine ⟨hbalanced, hfits, ?_, ?_, h.numbered, h.others⟩
    · dsimp only
      rw [BuildSpans.withCount_indicator, h.indicated]
      exact iff_of_true hsome hbuilding
    · dsimp only
      rw [BuildSpans.withCount_indicator]
      exact h.own

/-- **An end that is accepted is counted, and the last one removes the notification.** -/
theorem Sound.ended (h : run.Sound) (target : BuildTarget) :
    (run.perform (.ended target)).Sound := by
  have hcounted : ∀ other, run.spans.outstanding target ≠ 0 →
      ((run.spans.withCount (run.spans.outstanding target - 1) target).outstanding other).toNat +
        (run.ends ++ [target]).count other = run.starts.count other := by
    intro other hsome
    have hbefore := h.balanced other
    rw [BuildSpans.toNat_ended hsome, List.count_append, List.count_singleton, beq_eq_decide]
    by_cases hsame : target = other
    · subst hsame
      rw [Ne, ← UInt32.toNat_inj, UInt32.toNat_zero] at hsome
      simp only [if_true, decide_true]
      omega
    · simp only [hsame, if_false, decide_false, Bool.false_eq_true]
      omega
  rcases BuildSpans.ended_cases target run.spans run.notifications with
    ⟨-, hended⟩ | ⟨hsome, hmore, hended⟩ | ⟨hsome, -, hnone, -⟩ |
      ⟨number, hsome, hlast, hnumber, hended⟩
  · rw [perform, hended]
    exact h
  · have hbuilding := h.fits.total_pos hsome
    rw [perform, hended]
    refine ⟨fun other => hcounted other hsome, h.fits.fits_ended hsome, ?_, ?_, h.numbered,
      h.others⟩
    · dsimp only
      rw [BuildSpans.withCount_indicator, h.indicated]
      exact iff_of_true hbuilding hmore
    · dsimp only
      rw [BuildSpans.withCount_indicator]
      exact h.own
  · have hshown := h.indicated.mpr (h.fits.total_pos hsome)
    rw [hnone] at hshown
    exact absurd hshown Bool.false_ne_true
  · have hown := h.own
    rw [hnumber] at hown
    rw [perform, hended]
    refine ⟨fun other => ?_, h.fits.fits_ended hsome, ?_, ?_, h.numbered.perform _,
      h.others_lt _⟩
    · dsimp only
      rw [BuildSpans.outstanding_setIndicator]
      exact hcounted other hsome
    · refine iff_of_false nofun fun hmore => ?_
      exact UInt32.pos_iff_ne_zero.mp hmore hlast
    · refine (filter_perform ..).trans ?_
      rw [hown]
      simp [Notifications.Call.posted?, Notifications.Call.drops, indication]

/-- **So is every run sound**, one call after the other. -/
theorem Reached.sound (h : Reached lifetime run) : run.Sound := by
  induction h with
  | start => exact .empty lifetime
  | @next run call _ hspares hfew ih =>
    cases call with
    | started now target => exact ih.started hfew
    | ended target => exact ih.ended target
    | other call => exact ih.other hspares

/-! ## 4. Stretches -/

/-- **The notification of the builds changes only where none is outstanding**, before or after. -/
theorem perform_indicator (hbefore : 0 < run.spans.total)
    (hafter : 0 < (run.perform call).spans.total) :
    (run.perform call).spans.indicator = run.spans.indicator := by
  cases call with
  | started now target =>
    rcases BuildSpans.started_cases now target run.spans run.notifications with
      ⟨hnone, -⟩ | ⟨-, hstarted⟩
    · exact absurd hnone (UInt32.pos_iff_ne_zero.mp hbefore)
    · rw [perform, hstarted]
      exact BuildSpans.withCount_indicator ..
  | ended target =>
    rcases BuildSpans.ended_cases target run.spans run.notifications with
      ⟨-, hended⟩ | ⟨-, -, hended⟩ | ⟨-, -, -, hended⟩ | ⟨number, -, hlast, -, hended⟩
    · rw [perform, hended]
    · rw [perform, hended]
      exact BuildSpans.withCount_indicator ..
    · rw [perform, hended]
      exact BuildSpans.withCount_indicator ..
    · rw [perform, hended] at hafter
      exact absurd hlast (UInt32.pos_iff_ne_zero.mp hafter)
  | other call => rfl

/-- Builds are outstanding at the end of a stretch, and all the way the notification is the same. -/
theorem Stretch.indicator (h : run.Stretch later) :
    0 < later.spans.total ∧ later.spans.indicator = run.spans.indicator := by
  induction h with
  | here hbuilding => exact ⟨hbuilding, rfl⟩
  | next _ _ _ hafter ih => exact ⟨hafter, (perform_indicator ih.1 hafter).trans ih.2⟩

/-- A stretch of a run leads to where the run leads. -/
theorem Stretch.reached (h : run.Stretch later) (hrun : Reached lifetime run) :
    Reached lifetime later := by
  induction h with
  | here _ => exact hrun
  | next _ hspares hfew _ ih => exact ih.next hspares hfew

/-- **The notification of the builds is what is listed and nobody else added**, at any moment. -/
theorem Sound.listed_eq (h : run.Sound) (now : Moment) :
    run.listed now = run.spans.indicator.toList.map indication := by
  have hlisted : (run.notifications.list now).1 =
      run.notifications.entries.filter fun entry => !entry.isOver now := rfl
  have hown : run.listed now =
      (run.notifications.entries.filter fun entry => entry.number ∉ run.others).filter
        fun entry => !entry.isOver now := by
    rw [listed, hlisted, List.filter_filter, List.filter_filter]
    congr 1
    funext entry
    exact Bool.and_comm ..
  rw [hown, h.own]
  refine List.filter_eq_self.mpr fun entry hentry => ?_
  obtain ⟨number, -, rfl⟩ := List.mem_map.mp hentry
  rfl

/-! ## 5. What a run amounts to -/

/-- What starts and ends amount to, and what is listed of them. -/
structure Follows (run : BuildRun) : Prop where
  /-- An end is accepted exactly if more builds of its target were started than were ended. -/
  accepted_iff : ∀ target, (run.spans.ended target run.notifications).1 = true ↔
    run.ends.count target < run.starts.count target
  /-- An end that is not accepted changes nothing. -/
  refused : ∀ target, (run.spans.ended target run.notifications).1 = false →
    (run.spans.ended target run.notifications).2 = (run.spans, run.notifications)
  /-- Outstanding is what was started and not ended. -/
  outstanding : ∀ target,
    (run.spans.outstanding target).toNat = run.starts.count target - run.ends.count target
  /-- So it is in total. -/
  total : run.spans.total.toNat = (run.starts.count .library - run.ends.count .library) +
    (run.starts.count .executable - run.ends.count .executable)
  /-- While nothing is outstanding, everything that is listed was added by others. -/
  idle : run.spans.total = 0 → ∀ now, run.listed now = []
  /-- While builds are outstanding, one message more is listed, and it is the same one for as long
  as they are. -/
  building : 0 < run.spans.total →
    ∃ number, ∀ later, run.Stretch later → ∀ now, later.listed now = [indication number]

/-- An end is accepted exactly if a build of its target is outstanding. -/
theorem ended_iff (run : BuildRun) (target : BuildTarget) :
    (run.spans.ended target run.notifications).1 = true ↔ run.spans.outstanding target ≠ 0 := by
  rcases BuildSpans.ended_cases target run.spans run.notifications with
    ⟨hnone, hended⟩ | ⟨hsome, -, hended⟩ | ⟨hsome, -, -, hended⟩ |
      ⟨number, hsome, -, -, hended⟩ <;> rw [hended]
  · exact iff_of_false nofun fun hsome => hsome hnone
  · exact iff_of_true rfl hsome
  · exact iff_of_true rfl hsome
  · exact iff_of_true rfl hsome

/-- **Counts and the notification follow the builds along every run.** -/
theorem Reached.follows (h : Reached lifetime run) : run.Follows := by
  have hsound := h.sound
  have houtstanding : ∀ target,
      (run.spans.outstanding target).toNat = run.starts.count target - run.ends.count target := by
    intro target
    have hbalanced := hsound.balanced target
    omega
  refine ⟨fun target => ?_, fun target hrefused => ?_, houtstanding, ?_, fun hnone now => ?_,
    fun hbuilding => ?_⟩
  · have hbalanced := hsound.balanced target
    rw [ended_iff, Ne, ← UInt32.toNat_inj, UInt32.toNat_zero]
    omega
  · rcases BuildSpans.ended_cases target run.spans run.notifications with
      ⟨-, hended⟩ | ⟨-, -, hended⟩ | ⟨-, -, -, hended⟩ | ⟨number, -, -, -, hended⟩ <;>
      rw [hended] at hrefused ⊢
    all_goals cases hrefused
  · rw [hsound.fits.total_toNat, houtstanding, houtstanding]
  · have hindicator : run.spans.indicator = none := by
      rw [← Option.not_isSome_iff_eq_none, hsound.indicated, hnone]
      decide
    rw [hsound.listed_eq, hindicator]
    rfl
  · obtain ⟨number, hnumber⟩ := Option.isSome_iff_exists.mp (hsound.indicated.mpr hbuilding)
    refine ⟨number, fun later hstretch now => ?_⟩
    rw [(hstretch.reached h).sound.listed_eq, hstretch.indicator.2, hnumber]
    rfl

/-- Builds of both targets overlap, and one end is a stray.  Somebody else says the same words, and
takes them back. -/
def overlapping : BuildRun :=
  ((((((empty (.ofSeconds 5)).perform (.started 0 .library)).perform
    (.other (.add 0 BuildSpans.message none))).perform (.started 1 .executable)).perform
      (.ended .library)).perform (.ended .library)).perform (.other (.remove 1))

/-- **The executable is still being built**, and the notification is the first one. -/
theorem overlapping_follows : Reached (.ofSeconds 5) overlapping ∧ overlapping.Follows ∧
    overlapping.spans = ⟨0, 1, some 0⟩ ∧ overlapping.ends = [.library] ∧
      overlapping.listed 2 = [indication 0] := by
  have hreached : Reached (.ofSeconds 5) overlapping :=
    (((((Reached.start.next (by decide) (by decide)).next (by decide) (by decide)).next
      (by decide) (by decide)).next (by decide) (by decide)).next (by decide)
        (by decide)).next (by decide) (by decide)
  exact ⟨hreached, hreached.follows, by decide, by decide, by decide⟩

end BuildRun

end RenderSync
