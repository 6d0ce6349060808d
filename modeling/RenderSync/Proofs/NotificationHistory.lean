import Mathlib.Data.List.Induction
import RenderSync.Proofs.MessageLifetimes

/-!
# Notifications and what was called

Messages that have ended are dropped late, by whichever addition or listing comes next, and nobody
can tell when.  A message is listed exactly if some call added it, no later call removed it and it
has not ended at the moment of the listing (`Notifications.Stands`); the calls that looked at the
clock in between do not matter, as long as the clock does not go back (`Timely`).

One lemma says what a call does to the messages (`perform_entries`): it drops some of them, and puts
at most one behind the others.  So what is there after calls is what one of them added and none of
the later ones dropped (`mem_entries_iff`).  Of the calls that drop, all but the removals ask the
same question of a message, and the last of them asks it at the latest moment.
-/

namespace RenderSync

namespace Notifications

/-! ## 1. Calls -/

/-- What can be called.  Calls that look at the clock come with what it reads. -/
inductive Call where
  | add (now : Moment) (text : String) (period : Option Duration)
  | addTimed (now : Moment) (text : String)
  | setLifetime (period : Duration)
  | remove (number : Nat)
  | list (now : Moment)
deriving DecidableEq

namespace Call

/-- What the clock reads, if the call looks at it. -/
def moment? : Call → Option Moment
  | add now _ _ => some now
  | addTimed now _ => some now
  | list now => some now
  | setLifetime _ => none
  | remove _ => none

/-- The call adds a message. -/
def adds : Call → Bool
  | add _ _ _ => true
  | addTimed _ _ => true
  | _ => false

/-- The message that the call adds, with the number and the lifetime that are next; `none` if the
clock cannot hold its end. -/
def posted? (number : Nat) (lifetime : Duration) : Call → Option Notification
  | add _ text none => some ⟨number, text, none⟩
  | add now text (some period) =>
    (endOf? now period).map fun moment => ⟨number, text, some moment⟩
  | addTimed now text => (endOf? now lifetime).map fun moment => ⟨number, text, some moment⟩
  | _ => none

/-- The clock can hold the end of what the call adds. -/
def Holds (lifetime : Duration) : Call → Prop
  | add now _ (some period) => ClockHolds now period
  | addTimed now _ => ClockHolds now lifetime
  | _ => True

/-- The lifetime that is in force after the call. -/
def inForce (lifetime : Duration) : Call → Duration
  | setLifetime period => period
  | _ => lifetime

/-- The call drops a message that is there. -/
def drops (entry : Notification) : Call → Bool
  | remove number => entry.number == number
  | setLifetime _ => false
  | add now _ _ => entry.isOver now
  | addTimed now _ => entry.isOver now
  | list now => entry.isOver now

end Call

/-- The number that a call answers, if it adds a message, and what it leaves. -/
def perform (notifications : Notifications) : Call → Option Nat × Notifications
  | .add now text period => notifications.add now text period
  | .addTimed now text => notifications.addTimed now text
  | .setLifetime period => (none, { notifications with lifetime := period })
  | .remove number => (none, (notifications.remove number).2)
  | .list now => (none, (notifications.list now).2)

/-- A call that is a reason to redraw: every addition, a removal that says that something was
there, and a listing that leaves less behind than there was. -/
def announces (notifications : Notifications) : Call → Bool
  | .add _ _ _ => true
  | .addTimed _ _ => true
  | .setLifetime _ => false
  | .remove number => (notifications.remove number).1
  | .list now => decide ((notifications.list now).2.entries.length < notifications.entries.length)

/-! ## 2. One call -/

/-- What an addition does, all at once. -/
theorem add_eq (now : Moment) (text : String) (period : Option Duration)
    (notifications : Notifications) :
    let posted? := (Call.add now text period).posted? notifications.next notifications.lifetime
    notifications.add now text period = (posted?.map Notification.number,
      { notifications with
        entries := (notifications.pruned now).entries ++ posted?.toList
        next := notifications.next + 1
        redraws := notifications.redraws + posted?.toList.length }) := by
  -- the clock is any function from here on, since it must not be evaluated
  obtain ⟨clock, hclock⟩ : ∃ clock, clock = endOf? now := ⟨_, rfl⟩
  rw [add.eq_def]
  cases period with
  | none => rfl
  | some period =>
    rw [Call.posted?, ← hclock]
    dsimp only
    cases clock period with
    | none => simp [pruned]
    | some moment => rfl

/-- A message with the lifetime in force is one that says it. -/
theorem addTimed_posted? (now : Moment) (text : String) (number : Nat) (lifetime : Duration) :
    (Call.addTimed now text).posted? number lifetime =
      (Call.add now text (some lifetime)).posted? number lifetime := rfl

theorem perform_add (now : Moment) (text : String) (period : Option Duration)
    (notifications : Notifications) :
    notifications.perform (.add now text period) = notifications.add now text period := rfl

theorem perform_addTimed (now : Moment) (text : String) (notifications : Notifications) :
    notifications.perform (.addTimed now text) =
      notifications.perform (.add now text (some notifications.lifetime)) := rfl

/-- **A call drops messages, and puts at most one behind the others.** -/
theorem perform_entries (notifications : Notifications) (call : Call) :
    (notifications.perform call).2.entries =
      (notifications.entries.filter fun entry => !call.drops entry) ++
        (call.posted? notifications.next notifications.lifetime).toList := by
  cases call with
  | add now text period =>
    rw [perform_add, add_eq]
    rfl
  | addTimed now text =>
    rw [perform_addTimed, perform_add, add_eq, addTimed_posted?]
    rfl
  | setLifetime period =>
    simp only [perform, Call.posted?, Option.toList_none, List.append_nil]
    exact (List.filter_eq_self.mpr fun _ _ => rfl).symm
  | remove number =>
    rw [perform, remove]
    simp only [Call.posted?, Option.toList_none, List.append_nil]
    split
    · rfl
    · next hnone =>
      simp only [Bool.not_eq_true, List.any_eq_false] at hnone
      refine (List.filter_eq_self.mpr fun entry hentry => ?_).symm
      exact (Bool.not_eq_true' _).mpr (hnone entry hentry)
  | list now =>
    rw [perform, list_entries]
    simp [list, Call.drops, Call.posted?]

theorem perform_next (notifications : Notifications) (call : Call) :
    (notifications.perform call).2.next = notifications.next + call.adds.toNat := by
  cases call with
  | add now text period =>
    rw [perform_add, add_eq]
    rfl
  | addTimed now text =>
    rw [perform_addTimed, perform_add, add_eq]
    rfl
  | setLifetime period => rfl
  | remove number =>
    rw [perform, remove]
    split <;> rfl
  | list now =>
    rw [perform, list]
    dsimp only
    split <;> rfl

theorem perform_lifetime (notifications : Notifications) (call : Call) :
    (notifications.perform call).2.lifetime = call.inForce notifications.lifetime := by
  cases call with
  | add now text period =>
    rw [perform_add, add_lifetime]
    rfl
  | addTimed now text =>
    rw [perform_addTimed, perform_add, add_lifetime]
    rfl
  | setLifetime period => rfl
  | remove number => exact remove_lifetime number notifications
  | list now =>
    rw [perform, list]
    dsimp only
    split <;> rfl

/-- **A call that adds a message answers its number.** -/
theorem perform_number (notifications : Notifications) (call : Call) :
    (notifications.perform call).1 =
      (call.posted? notifications.next notifications.lifetime).map Notification.number := by
  cases call with
  | add now text period => rw [perform_add, add_eq]
  | addTimed now text => rw [perform_addTimed, perform_add, add_eq, addTimed_posted?]
  | _ => rfl

/-- **A call that adds adds**, unless the clock cannot hold the end of the message. -/
theorem Call.posted?_isSome {lifetime : Duration} {call : Call} (hholds : call.Holds lifetime)
    (number : Nat) : (call.posted? number lifetime).isSome = call.adds := by
  cases call with
  | add now text period =>
    cases period with
    | none => rfl
    | some period =>
      rw [Call.posted?, Option.isSome_map]
      exact (endOf?_isSome_iff now period).mpr hholds
  | addTimed now text =>
    rw [Call.posted?, Option.isSome_map]
    exact (endOf?_isSome_iff now lifetime).mpr hholds
  | _ => rfl

/-- Its number is the one that was next. -/
theorem Call.number_of_posted? {number : Nat} {lifetime : Duration} {call : Call}
    {entry : Notification} (hentry : call.posted? number lifetime = some entry) :
    entry.number = number := by
  unfold Call.posted? at hentry
  split at hentry
  · cases hentry
    rfl
  · obtain ⟨moment, -, rfl⟩ := Option.map_eq_some_iff.mp hentry
    rfl
  · obtain ⟨moment, -, rfl⟩ := Option.map_eq_some_iff.mp hentry
    rfl
  · cases hentry

theorem Call.adds_of_posted? {number : Nat} {lifetime : Duration} {call : Call}
    {entry : Notification} (hentry : call.posted? number lifetime = some entry) :
    call.adds = true := by
  cases call with
  | add now text period => rfl
  | addTimed now text => rfl
  | _ => cases hentry

/-- **One redraw is announced for a call that is a reason for it, and none for another.** -/
theorem perform_redraws {notifications : Notifications} {call : Call}
    (hholds : call.Holds notifications.lifetime) :
    (notifications.perform call).2.redraws =
      notifications.redraws + (notifications.announces call).toNat := by
  have hadded := Call.posted?_isSome hholds notifications.next
  cases call with
  | add now text period =>
    obtain ⟨entry, hentry⟩ := Option.isSome_iff_exists.mp hadded
    rw [perform_add, add_eq, hentry]
    rfl
  | addTimed now text =>
    obtain ⟨entry, hentry⟩ := Option.isSome_iff_exists.mp hadded
    rw [addTimed_posted?] at hentry
    rw [perform_addTimed, perform_add, add_eq, hentry]
    rfl
  | setLifetime period => rfl
  | remove number =>
    rw [perform, announces, remove]
    split <;> rfl
  | list now =>
    -- something is dropped exactly if something is over
    have hfewer : decide ((notifications.list now).2.entries.length <
        notifications.entries.length) = notifications.entries.any (·.isOver now) := by
      rw [list_entries, list, pruned_entries, Bool.eq_iff_iff, decide_eq_true_iff,
        List.length_filter_lt_length_iff_exists, List.any_eq_true]
      simp
    rw [perform, announces, hfewer, list]
    dsimp only
    cases notifications.entries.any (·.isOver now) <;> rfl

/-! ## 3. What is there after calls -/

/-- Calls, one after the other. -/
def performAll (calls : List Call) (notifications : Notifications) : Notifications :=
  calls.foldl (fun notifications call => (notifications.perform call).2) notifications

/-- The notifications after calls. -/
def after (lifetime : Duration) (calls : List Call) : Notifications :=
  (empty lifetime).performAll calls

/-- How many of the calls add a message. -/
def additions (calls : List Call) : Nat := calls.countP Call.adds

/-- The lifetime that was set last. -/
def lastSet (lifetime : Duration) (calls : List Call) : Duration := calls.foldl Call.inForce lifetime

/-- One of the calls added the message, and `later` are those behind it.  Its number says how many
additions came before. -/
def Enters (lifetime : Duration) (calls : List Call) (entry : Notification) (later : List Call) :
    Prop :=
  ∃ before call, calls = before ++ call :: later ∧
    call.posted? (additions before) (lastSet lifetime before) = some entry

variable {lifetime : Duration} {calls : List Call} {entry : Notification}

theorem after_concat (lifetime : Duration) (calls : List Call) (call : Call) :
    after lifetime (calls ++ [call]) = ((after lifetime calls).perform call).2 :=
  List.foldl_append

theorem after_next (lifetime : Duration) (calls : List Call) :
    (after lifetime calls).next = additions calls := by
  induction calls using List.reverseRecOn with
  | nil => rfl
  | append_singleton before call ih =>
    rw [after_concat, perform_next, ih, additions, additions, List.countP_append,
      List.countP_singleton]
    cases call.adds <;> rfl

theorem after_lifetime (lifetime : Duration) (calls : List Call) :
    (after lifetime calls).lifetime = lastSet lifetime calls := by
  induction calls using List.reverseRecOn with
  | nil => rfl
  | append_singleton before call ih =>
    rw [after_concat, perform_lifetime, ih, lastSet, lastSet, List.foldl_append]
    rfl

/-- What one of the calls added was added by the last one, or by one of the others. -/
theorem enters_concat {call : Call} {later : List Call} :
    Enters lifetime (calls ++ [call]) entry later ↔
      later = [] ∧ call.posted? (additions calls) (lastSet lifetime calls) = some entry ∨
        ∃ rest, later = rest ++ [call] ∧ Enters lifetime calls entry rest := by
  constructor
  · rintro ⟨before, first, hsplit, hentry⟩
    rcases List.eq_nil_or_concat later with rfl | ⟨rest, last, rfl⟩
    · obtain ⟨rfl, hlast⟩ := List.append_inj' hsplit rfl
      obtain rfl := List.singleton_inj.mp hlast
      exact Or.inl ⟨rfl, hentry⟩
    · rw [List.concat_eq_append, ← List.cons_append, ← List.append_assoc] at hsplit
      obtain ⟨rfl, hlast⟩ := List.append_inj' hsplit rfl
      obtain rfl := List.singleton_inj.mp hlast
      exact Or.inr ⟨rest, List.concat_eq_append, before, first, rfl, hentry⟩
  · rintro (⟨rfl, hentry⟩ | ⟨rest, rfl, before, first, rfl, hentry⟩)
    · exact ⟨calls, call, rfl, hentry⟩
    · exact ⟨before, first, by simp, hentry⟩

/-- **What is there is what a call added and no later one dropped.** -/
theorem mem_entries_iff : entry ∈ (after lifetime calls).entries ↔
    ∃ later, Enters lifetime calls entry later ∧ ∀ call ∈ later, call.drops entry = false := by
  induction calls using List.reverseRecOn with
  | nil =>
    constructor
    · exact nofun
    · rintro ⟨later, ⟨before, call, hsplit, -⟩, -⟩
      simp at hsplit
  | append_singleton before last ih =>
    rw [after_concat, perform_entries, List.mem_append, List.mem_filter, ih, Option.mem_toList,
      after_next, after_lifetime, Bool.not_eq_true']
    constructor
    · rintro (⟨⟨later, henters, hkept⟩, hlast⟩ | hentry)
      · refine ⟨later ++ [last], enters_concat.mpr (Or.inr ⟨later, rfl, henters⟩), ?_⟩
        simpa [or_imp, forall_and] using ⟨hkept, hlast⟩
      · exact ⟨[], enters_concat.mpr (Or.inl ⟨rfl, hentry⟩), nofun⟩
    · rintro ⟨later, henters, hkept⟩
      rcases enters_concat.mp henters with ⟨rfl, hentry⟩ | ⟨rest, rfl, hrest⟩
      · exact Or.inr hentry
      · refine Or.inl ⟨⟨rest, hrest, fun call hcall => ?_⟩, ?_⟩
        · exact hkept call (List.mem_append_left _ hcall)
        · exact hkept last (List.mem_append_right _ List.mem_cons_self)

/-- Messages are in the order of their numbers, and these were all given out. -/
structure Numbered (notifications : Notifications) : Prop where
  ordered : notifications.entries.Pairwise fun earlier later => earlier.number < later.number
  given : ∀ entry ∈ notifications.entries, entry.number < notifications.next

theorem Numbered.empty (lifetime : Duration) : (Notifications.empty lifetime).Numbered :=
  ⟨List.Pairwise.nil, nofun⟩

/-- **A call keeps the messages in order.** -/
theorem Numbered.perform {notifications : Notifications} (h : notifications.Numbered)
    (call : Call) : (notifications.perform call).2.Numbered := by
  have hput : ∀ entry ∈ (call.posted? notifications.next notifications.lifetime).toList,
      entry.number = notifications.next ∧ call.adds = true := by
    intro entry hentry
    rw [Option.mem_toList] at hentry
    exact ⟨Call.number_of_posted? hentry, Call.adds_of_posted? hentry⟩
  constructor
  · rw [perform_entries, List.pairwise_append]
    refine ⟨h.ordered.filter _, ?_, fun earlier hearlier later hlater => ?_⟩
    · cases call.posted? notifications.next notifications.lifetime <;> simp
    · rw [(hput later hlater).1]
      exact h.given earlier (List.mem_filter.mp hearlier).1
  · intro entry hentry
    rw [perform_entries, List.mem_append, List.mem_filter] at hentry
    rw [perform_next]
    rcases hentry with ⟨hold, -⟩ | hnew
    · exact Nat.lt_add_right _ (h.given entry hold)
    · obtain ⟨hnumber, hadds⟩ := hput entry hnew
      rw [hnumber, hadds]
      exact Nat.lt_succ_self _

theorem Numbered.after (lifetime : Duration) (calls : List Call) :
    (Notifications.after lifetime calls).Numbered := by
  induction calls using List.reverseRecOn with
  | nil => exact .empty lifetime
  | append_singleton before call ih =>
    rw [after_concat]
    exact ih.perform call

/-! ## 4. Listings -/

/-- The clock does not go back. -/
def Timely (calls : List Call) : Prop := (calls.filterMap Call.moment?).Pairwise (· ≤ ·)

/-- One of the calls added the message, no later one removed it, and it has not ended. -/
def Stands (lifetime : Duration) (calls : List Call) (now : Moment) (entry : Notification) : Prop :=
  ∃ later, Enters lifetime calls entry later ∧ .remove entry.number ∉ later ∧
    entry.isOver now = false

/-- What has not ended had not ended before. -/
theorem isOver_mono {now later : Moment} (hle : now ≤ later) (hover : entry.isOver later = false) :
    entry.isOver now = false := by
  unfold Notification.isOver at hover ⊢
  cases hends : entry.endsAt with
  | none => rfl
  | some moment =>
    rw [hends] at hover
    simp only [decide_eq_false_iff_not] at hover ⊢
    exact fun hended => hover (Nat.le_trans hended hle)

/-- What has not ended at a moment is not dropped by calls that look at the clock before. -/
theorem drops_eq_false {call : Call} {now : Moment}
    (hbefore : ∀ moment ∈ call.moment?, moment ≤ now) (hremove : call ≠ .remove entry.number)
    (hover : entry.isOver now = false) :
    call.drops entry = false := by
  cases call with
  | add moment text period => exact isOver_mono (hbefore moment rfl) hover
  | addTimed moment text => exact isOver_mono (hbefore moment rfl) hover
  | list moment => exact isOver_mono (hbefore moment rfl) hover
  | setLifetime period => rfl
  | remove number =>
    refine beq_eq_false_iff_ne.mpr ?_
    rintro rfl
    exact hremove rfl

/-- **A listing answers what stands**, whatever was dropped before it and when. -/
theorem mem_list_iff {now : Moment} (htimely : Timely (calls ++ [.list now])) :
    entry ∈ ((after lifetime calls).list now).1 ↔ Stands lifetime calls now entry := by
  have hmoments : ∀ call ∈ calls, ∀ moment ∈ call.moment?, moment ≤ now := by
    rw [Timely, List.filterMap_append, List.pairwise_append] at htimely
    intro call hcall moment hmoment
    exact htimely.2.2 moment (List.mem_filterMap.mpr ⟨call, hcall, hmoment⟩) now
      List.mem_cons_self
  have hlisted : ((after lifetime calls).list now).1 =
      (after lifetime (calls ++ [.list now])).entries := by
    rw [after_concat, perform, list_entries]
  rw [hlisted, mem_entries_iff]
  constructor
  · rintro ⟨later, henters, hkept⟩
    rcases enters_concat.mp henters with ⟨-, hentry⟩ | ⟨rest, rfl, hrest⟩
    · cases hentry
    · refine ⟨rest, hrest, fun hremoved => ?_, ?_⟩
      · have hgone := hkept _ (List.mem_append_left _ hremoved)
        simp [Call.drops] at hgone
      · exact hkept _ (List.mem_append_right _ List.mem_cons_self)
  · rintro ⟨later, henters, hremoved, hover⟩
    refine ⟨later ++ [.list now], enters_concat.mpr (Or.inr ⟨later, rfl, henters⟩), ?_⟩
    intro call hcall
    rcases List.mem_append.mp hcall with hlater | hlast
    · obtain ⟨before, first, rfl, -⟩ := henters
      refine drops_eq_false (hmoments call (by simp [hlater])) ?_ hover
      rintro rfl
      exact hremoved hlater
    · rw [List.mem_singleton.mp hlast]
      exact hover

/-! ## 5. Redraws -/

/-- The clock can hold the ends of all messages, those that do not say their lifetime included. -/
def AllHold : Duration → List Call → Prop
  | _, [] => True
  | lifetime, call :: rest => call.Holds lifetime ∧ AllHold (call.inForce lifetime) rest

instance (lifetime : Duration) : (call : Call) → Decidable (call.Holds lifetime)
  | .add now _ (some period) =>
    inferInstanceAs (Decidable (now + period.total < clockEnd))
  | .addTimed now _ => inferInstanceAs (Decidable (now + lifetime.total < clockEnd))
  | .add _ _ none => .isTrue trivial
  | .setLifetime _ => .isTrue trivial
  | .remove _ => .isTrue trivial
  | .list _ => .isTrue trivial

instance decidableAllHold :
    (lifetime : Duration) → (calls : List Call) → Decidable (AllHold lifetime calls)
  | _, [] => .isTrue trivial
  | lifetime, call :: rest =>
    have := decidableAllHold (call.inForce lifetime) rest
    inferInstanceAs (Decidable (call.Holds lifetime ∧ AllHold (call.inForce lifetime) rest))

/-- How many of the calls are a reason to redraw. -/
def announced : Notifications → List Call → Nat
  | _, [] => 0
  | notifications, call :: rest =>
    (notifications.announces call).toNat + announced (notifications.perform call).2 rest

/-- **As many redraws are announced as there are reasons.** -/
theorem performAll_redraws (calls : List Call) : ∀ {notifications : Notifications},
    AllHold notifications.lifetime calls →
      (notifications.performAll calls).redraws =
        notifications.redraws + announced notifications calls := by
  induction calls with
  | nil => exact fun _ => rfl
  | cons call rest ih =>
    intro notifications hhold
    obtain ⟨hfirst, hrest⟩ := hhold
    rw [← perform_lifetime] at hrest
    rw [performAll, List.foldl_cons, ← performAll, ih hrest, perform_redraws hfirst, announced,
      Nat.add_assoc]

/-- The clock can hold the end of what a call in between adds. -/
theorem AllHold.holds {before : List Call} : ∀ {lifetime : Duration} {call : Call}
    {later : List Call}, AllHold lifetime (before ++ call :: later) →
      call.Holds (lastSet lifetime before) := by
  induction before with
  | nil => exact fun h => h.1
  | cons first rest ih => exact fun h => ih h.2

/-! ## 6. The whole history -/

/-- What calls amount to, and a listing behind them. -/
structure History (lifetime : Duration) (calls : List Call) (now : Moment) : Prop where
  /-- Listed is what was added, was not removed and has not ended. -/
  listed : ∀ entry,
    entry ∈ ((after lifetime calls).list now).1 ↔ Stands lifetime calls now entry
  /-- It is listed in the order of the additions, and no two messages have the same number. -/
  ordered : ((after lifetime calls).list now).1.Pairwise
    fun earlier later => earlier.number < later.number
  /-- Every call that adds a message does, and answers how many there were before.  The message
  ends as the call says, or by the lifetime that was set last. -/
  added : ∀ before call later, calls = before ++ call :: later → call.adds = true →
    ((after lifetime before).perform call).1 = some (additions before) ∧
      ∃ entry, call.posted? (additions before) (lastSet lifetime before) = some entry
  /-- One redraw is announced for every reason, and no other. -/
  redraws : (after lifetime calls).redraws = announced (.empty lifetime) calls

/-- **Notifications are what their history says**, if the clock does not go back and can hold the
ends of messages. -/
theorem history {now : Moment} (hhold : AllHold lifetime calls)
    (htimely : Timely (calls ++ [.list now])) : History lifetime calls now := by
  refine ⟨fun entry => mem_list_iff htimely, ?_, ?_, ?_⟩
  · have hordered := (Numbered.after lifetime (calls ++ [.list now])).ordered
    rwa [after_concat, perform, list_entries] at hordered
  · rintro before call later rfl hadds
    have hadded := Call.posted?_isSome hhold.holds (additions before)
    rw [hadds] at hadded
    obtain ⟨entry, hentry⟩ := Option.isSome_iff_exists.mp hadded
    refine ⟨?_, entry, hentry⟩
    rw [perform_number, after_next, after_lifetime, hentry, Option.map_some,
      Call.number_of_posted? hentry]
  · have hnone : (Notifications.empty lifetime).redraws = 0 := rfl
    have hhold' : AllHold (Notifications.empty lifetime).lifetime calls := hhold
    rw [after, performAll_redraws calls hhold', hnone, Nat.zero_add]

/-- Two messages end by themselves: one of them at the moment of the first listing, and the other
one after the lifetime that was set before it.  A third one is removed. -/
def someNews : List Call :=
  [.add 0 "first" none, .add (second / 2) "short" (some ⟨1, 500000000, by decide⟩),
    .setLifetime (.ofSeconds 3), .addTimed second "timed", .remove 0, .list (2 * second)]

/-- **Only the timed message is left at the third second**, after five redraws. -/
theorem someNews_history :
    (AllHold (.ofSeconds 5) someNews ∧ Timely (someNews ++ [.list (3 * second)])) ∧
      History (.ofSeconds 5) someNews (3 * second) ∧
      ((after (.ofSeconds 5) someNews).list (3 * second)).1 = [⟨2, "timed", some (4 * second)⟩] ∧
      (after (.ofSeconds 5) someNews).redraws = 5 := by
  have hhold : AllHold (.ofSeconds 5) someNews := by decide +kernel
  have htimely : Timely (someNews ++ [.list (3 * second)]) := by
    unfold Timely
    decide +kernel
  exact ⟨⟨hhold, htimely⟩, history hhold htimely, by decide +kernel, by decide +kernel⟩

end Notifications

end RenderSync
