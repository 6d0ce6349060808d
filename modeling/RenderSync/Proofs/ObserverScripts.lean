import Mathlib.Data.List.Nodup
import RenderSync.Observers

/-!
# Callbacks that change the registry they are called from

What happens while scripts are run is a list of events in time, with those of a notification between
its beginning and its end (`Session.Course`).  Everything that is said of it is read off the list:
who is registered at a moment is who subscribed before and was not detached (`standing`), and whom a
notification calls is found by passing over the notifications that callbacks begin inside of it
(`ownCalls?`).

The two meet in `Orderly`: a notification calls exactly those who are registered when it begins.  On
the one side one step after the other keeps the registry as the events say (`Session.Agrees`).  On
the other side the calls that a notification plans are made by itself, and whatever happens inside
of them comes to its end before the next one (`Session.Course.ownCalls?_eq`).

A session may have several scripts in store for one callback, so that it does something else each
time it is called.  Steps do not say by which handle they reach the registry: a handle and its
clones lead to the same one.
-/

namespace RenderSync.Observers

/-! ## 1. Events -/

/-- What can happen while scripts are run. -/
inductive Happening where
  | subscribed (number : Nat) (name : String)
  | detached (number : Nat)
  /-- A notification begins. -/
  | began
  | called (number : Nat) (name : String)
  /-- The notification that began last, of those that go on, ends. -/
  | ended

/-- Something that happened, and who is registered from then on. -/
structure Event where
  what : Happening
  registered : List (Nat × String)

namespace Event

/-- The subscription that was made. -/
def subscription? (event : Event) : Option (Nat × String) :=
  match event.what with
  | .subscribed number name => some (number, name)
  | _ => none

/-- The subscription that was taken away. -/
def detachment? (event : Event) : Option Nat :=
  match event.what with
  | .detached number => some number
  | _ => none

/-- The callback that was called. -/
def call? (event : Event) : Option String :=
  match event.what with
  | .called _ name => some name
  | _ => none

end Event

/-- The subscriptions that were made, in order. -/
def subscriptions (events : List Event) : List (Nat × String) :=
  events.filterMap Event.subscription?

/-- The subscriptions that were taken away. -/
def detachments (events : List Event) : List Nat := events.filterMap Event.detachment?

/-- Those who have subscribed and were not detached, in the order in which they subscribed. -/
def standing (events : List Event) : List (Nat × String) :=
  (subscriptions events).filter fun subscription => subscription.1 ∉ detachments events

/-- The calls that a notification makes itself, among the events after its beginning; `none` if it
does not end.  `depth` notifications that began inside of it go on. -/
def ownCalls? : (depth : Nat) → List Event → Option (List (Nat × String))
  | _, [] => none
  | depth, ⟨.began, _⟩ :: rest => ownCalls? (depth + 1) rest
  | 0, ⟨.ended, _⟩ :: _ => some []
  | depth + 1, ⟨.ended, _⟩ :: rest => ownCalls? depth rest
  | 0, ⟨.called number name, _⟩ :: rest => (ownCalls? 0 rest).map ((number, name) :: ·)
  | depth, _ :: rest => ownCalls? depth rest

section OwnCalls

variable (depth number : Nat) (name : String) (registered : List (Nat × String))
  (rest : List Event)

@[simp] theorem ownCalls?_began :
    ownCalls? depth (⟨.began, registered⟩ :: rest) = ownCalls? (depth + 1) rest := by
  cases depth <;> rfl

@[simp] theorem ownCalls?_ended : ownCalls? 0 (⟨.ended, registered⟩ :: rest) = some [] := rfl

@[simp] theorem ownCalls?_ended_inside :
    ownCalls? (depth + 1) (⟨.ended, registered⟩ :: rest) = ownCalls? depth rest := rfl

@[simp] theorem ownCalls?_called :
    ownCalls? 0 (⟨.called number name, registered⟩ :: rest) =
      (ownCalls? 0 rest).map ((number, name) :: ·) := rfl

@[simp] theorem ownCalls?_called_inside :
    ownCalls? (depth + 1) (⟨.called number name, registered⟩ :: rest) =
      ownCalls? (depth + 1) rest := rfl

@[simp] theorem ownCalls?_subscribed :
    ownCalls? depth (⟨.subscribed number name, registered⟩ :: rest) = ownCalls? depth rest := by
  cases depth <;> rfl

@[simp] theorem ownCalls?_detached :
    ownCalls? depth (⟨.detached number, registered⟩ :: rest) = ownCalls? depth rest := by
  cases depth <;> rfl

end OwnCalls

/-- Every event is as it should be with regard to those before it and those after it. -/
def Everywhere (P : List Event → Event → List Event → Prop) (events : List Event) : Prop :=
  ∀ before event later, events = before ++ event :: later → P before event later

variable {P : List Event → Event → List Event → Prop}

theorem everywhere_nil : Everywhere P [] := by
  intro before event later hsplit
  cases before <;> cases hsplit

theorem everywhere_singleton {event : Event} : Everywhere P [event] ↔ P [] event [] := by
  constructor
  · exact fun h => h [] event [] rfl
  · intro h before other later hsplit
    rcases List.append_eq_singleton_iff.mp hsplit.symm with ⟨rfl, heq⟩ | ⟨-, hnil⟩
    · cases heq
      exact h
    · cases hnil

theorem everywhere_append {first second : List Event} :
    Everywhere P (first ++ second) ↔
      Everywhere (fun before event later => P before event (later ++ second)) first ∧
        Everywhere (fun before => P (first ++ before)) second := by
  constructor
  · intro h
    refine ⟨fun before event later hsplit => ?_, fun before event later hsplit => ?_⟩
    · exact h before event (later ++ second) (by rw [hsplit, List.append_assoc, List.cons_append])
    · exact h (first ++ before) event later (by rw [hsplit, List.append_assoc])
  · rintro ⟨hfirst, hsecond⟩ before event later hsplit
    rcases List.append_eq_append_iff.mp hsplit with ⟨front, rfl, hback⟩ | ⟨back, hfront, hback⟩
    · exact hsecond front event later hback
    · cases back with
      | nil =>
        have hhere : P (first ++ []) event later := hsecond [] event later hback.symm
        rwa [hfront, List.append_nil, List.append_nil] at hhere
      | cons other rest =>
        obtain ⟨rfl, rfl⟩ := List.cons.inj hback
        exact hfirst before event rest hfront

theorem everywhere_cons {event : Event} {rest : List Event} :
    Everywhere P (event :: rest) ↔
      P [] event rest ∧ Everywhere (fun before => P (event :: before)) rest := by
  rw [← List.singleton_append, everywhere_append, everywhere_singleton]
  rfl

theorem everywhere_of_forall {events : List Event}
    (h : ∀ event ∈ events, ∀ before later, P before event later) : Everywhere P events := by
  intro before event later hsplit
  exact h event (by simp [hsplit]) before later

/-! ## 2. Courses -/

namespace Session

/-- What releasing a name leads to: whoever is held under it is detached. -/
def releaseEvents (session : Session) (name : String) : List Event :=
  match session.held.lookup name with
  | none => []
  | some number => [⟨.detached number, (session.release name).observers.callbacks⟩]

/-- The session in which a callback has subscribed and is not held yet. -/
def subscribed (session : Session) (name : String) : Session :=
  { session with observers := (session.observers.subscribe name).2 }

/-- What holding a subscription leads to: it is made, and whoever was held under the name before is
detached. -/
def holdEvents (session : Session) (name : String) : List Event :=
  ⟨.subscribed session.observers.next name, (session.subscribed name).observers.callbacks⟩ ::
    (session.subscribed name).releaseEvents name

/-- The session in which a callback is called that has a script to run. -/
def calling (session : Session) (name : String) (scripts : List (Nat × List Step)) : Session :=
  { session with scripts := scripts, calls := session.calls ++ [name] }

/-- An agenda is worked off: what happens, and what it leads to.  The calls of a notification come
to their end before anything else is done, and so does the script of a callback. -/
inductive Course : Session → List Task → List Event → Session → Prop
  | done (session : Session) : Course session [] [] session
  | subscribe {session after : Session} {name : String} {script : List Step} {rest : List Task}
      {events : List Event} :
      Course (session.hold name script) rest events after →
      Course session (.step (.subscribe name script) :: rest) (session.holdEvents name ++ events)
        after
  | detach {session after : Session} {name : String} {rest : List Task} {events : List Event} :
      Course (session.release name) rest events after →
      Course session (.step (.detach name) :: rest) (session.releaseEvents name ++ events) after
  | notify {session middle after : Session} {rest : List Task} {inner events : List Event} :
      Course session (Task.callAll session.observers.callbacks) inner middle →
      Course middle rest events after →
      Course session (.step .notify :: rest)
        (⟨.began, session.observers.callbacks⟩ ::
          (inner ++ ⟨.ended, middle.observers.callbacks⟩ :: events)) after
  | call {session middle after : Session} {number : Nat} {name : String} {rest : List Task}
      {inner events : List Event} :
      Course (session.calling name (takeScript number session.scripts).2)
        (Task.steps (takeScript number session.scripts).1) inner middle →
      Course middle rest events after →
      Course session (.call number name :: rest)
        (⟨.called number name, session.observers.callbacks⟩ :: (inner ++ events)) after

/-- **An agenda is worked off in parts**, one after the other. -/
theorem Course.split {session after : Session} {first second : List Task} {events : List Event}
    (h : Course session (first ++ second) events after) :
    ∃ middle front back, events = front ++ back ∧ Course session first front middle ∧
      Course middle second back after := by
  induction first generalizing session events with
  | nil => exact ⟨session, [], events, rfl, .done session, h⟩
  | cons task first ih =>
    cases h with
    | subscribe hrest =>
      obtain ⟨middle, front, back, rfl, hfront, hback⟩ := ih hrest
      exact ⟨middle, _, back, (List.append_assoc ..).symm, .subscribe hfront, hback⟩
    | detach hrest =>
      obtain ⟨middle, front, back, rfl, hfront, hback⟩ := ih hrest
      exact ⟨middle, _, back, (List.append_assoc ..).symm, .detach hfront, hback⟩
    | notify hinner hrest =>
      obtain ⟨middle, front, back, rfl, hfront, hback⟩ := ih hrest
      exact ⟨middle, _, back, by simp, .notify hinner hfront, hback⟩
    | call hinner hrest =>
      obtain ⟨middle, front, back, rfl, hfront, hback⟩ := ih hrest
      exact ⟨middle, _, back, by simp, .call hinner hfront, hback⟩

/-- **Working an agenda off has a course.** -/
theorem exists_course (session : Session) (agenda : List Task) :
    ∃ events, Course session agenda events (session.work agenda) := by
  induction session, agenda using work.induct with
  | case1 session =>
    rw [work]
    exact ⟨[], .done session⟩
  | case2 session name script rest ih =>
    obtain ⟨events, hrest⟩ := ih
    rw [work]
    exact ⟨_, .subscribe hrest⟩
  | case3 session name rest ih =>
    obtain ⟨events, hrest⟩ := ih
    rw [work]
    exact ⟨_, .detach hrest⟩
  | case4 session rest ih =>
    obtain ⟨events, hall⟩ := ih
    obtain ⟨middle, inner, back, -, hinner, hrest⟩ := hall.split
    rw [work]
    exact ⟨_, .notify hinner hrest⟩
  | case5 session number name rest taken ih =>
    obtain ⟨events, hall⟩ := ih
    obtain ⟨middle, inner, back, -, hinner, hrest⟩ := hall.split
    rw [work]
    exact ⟨_, .call hinner hrest⟩

/-! ## 3. The calls of a notification -/

/-- The calls that an agenda plans. -/
def planned? : Task → Option (Nat × String)
  | .step _ => none
  | .call number name => some (number, name)

theorem filterMap_planned?_callAll (callbacks : List (Nat × String)) :
    (Task.callAll callbacks).filterMap planned? = callbacks := by
  rw [Task.callAll, List.filterMap_map]
  exact List.filterMap_some

theorem filterMap_planned?_steps (script : List Step) :
    (Task.steps script).filterMap planned? = [] := by
  rw [Task.steps, List.filterMap_map]
  exact List.filterMap_eq_nil_iff.mpr fun _ _ => rfl

/-- Subscribing and detaching calls nobody. -/
theorem ownCalls?_releaseEvents (session : Session) (name : String) (depth : Nat)
    (later : List Event) :
    ownCalls? depth (session.releaseEvents name ++ later) = ownCalls? depth later := by
  rw [releaseEvents]
  split
  · rfl
  · rw [List.singleton_append, ownCalls?_detached]

theorem ownCalls?_holdEvents (session : Session) (name : String) (depth : Nat)
    (later : List Event) :
    ownCalls? depth (session.holdEvents name ++ later) = ownCalls? depth later := by
  rw [holdEvents, List.cons_append, ownCalls?_subscribed, ownCalls?_releaseEvents]

/-- What happens inside of a notification that began later is passed over. -/
theorem Course.ownCalls?_inside {session after : Session} {agenda : List Task}
    {events : List Event} (h : Course session agenda events after) :
    ∀ (depth : Nat) (later : List Event),
      ownCalls? (depth + 1) (events ++ later) = ownCalls? (depth + 1) later := by
  induction h with
  | done session => exact fun _ _ => rfl
  | subscribe _ ih =>
    intro depth later
    rw [List.append_assoc, ownCalls?_holdEvents, ih]
  | detach _ ih =>
    intro depth later
    rw [List.append_assoc, ownCalls?_releaseEvents, ih]
  | notify _ _ ihInner ihRest =>
    intro depth later
    rw [List.cons_append, List.append_assoc, ownCalls?_began, ihInner, List.cons_append,
      ownCalls?_ended_inside, ihRest]
  | call _ _ ihInner ihRest =>
    intro depth later
    rw [List.cons_append, List.append_assoc, ownCalls?_called_inside, ihInner, ihRest]

/-- **The calls of an agenda are made one after the other**, whatever happens inside of them. -/
theorem Course.ownCalls?_eq {session after : Session} {agenda : List Task} {events : List Event}
    (h : Course session agenda events after) : ∀ later : List Event,
      ownCalls? 0 (events ++ later) =
        (ownCalls? 0 later).map (agenda.filterMap planned? ++ ·) := by
  induction h with
  | done session =>
    intro later
    rw [List.nil_append]
    cases ownCalls? 0 later <;> rfl
  | subscribe _ ih =>
    intro later
    rw [List.append_assoc, ownCalls?_holdEvents, ih]
    rfl
  | detach _ ih =>
    intro later
    rw [List.append_assoc, ownCalls?_releaseEvents, ih]
    rfl
  | notify hinner _ _ ihRest =>
    intro later
    rw [List.cons_append, List.append_assoc, ownCalls?_began, hinner.ownCalls?_inside,
      List.cons_append, ownCalls?_ended_inside, ihRest]
    rfl
  | call _ _ ihInner ihRest =>
    intro later
    rw [List.cons_append, List.append_assoc, ownCalls?_called, ihInner, ihRest,
      filterMap_planned?_steps]
    cases ownCalls? 0 later <;> rfl

/-- The event is no beginning of a notification, or the notification calls those who are registered
then. -/
def Calls (event : Event) (later : List Event) : Prop :=
  event.what = .began → ∀ rest, ownCalls? 0 (later ++ rest) = some event.registered

/-- Nobody is notified by subscribing and detaching. -/
theorem calls_of_releaseEvents {session : Session} {name : String} {event : Event}
    (hevent : event ∈ session.releaseEvents name) (later : List Event) : Calls event later := by
  rw [releaseEvents] at hevent
  split at hevent
  · cases hevent
  · rw [List.mem_singleton.mp hevent]
    exact nofun

theorem calls_of_holdEvents {session : Session} {name : String} {event : Event}
    (hevent : event ∈ session.holdEvents name) (later : List Event) : Calls event later := by
  rcases List.mem_cons.mp hevent with rfl | hevent
  · exact nofun
  · exact calls_of_releaseEvents hevent later

/-- **Every notification calls those who are registered when it begins.** -/
theorem Course.snapshots {session after : Session} {agenda : List Task} {events : List Event}
    (h : Course session agenda events after) :
    Everywhere (fun _ event later => Calls event later) events := by
  have hmore {first : List Event}
      (hfirst : Everywhere (fun _ event later => Calls event later) first) (second : List Event) :
      Everywhere (fun _ event later => Calls event (later ++ second)) first := by
    intro before event later hsplit hbegan rest
    rw [List.append_assoc]
    exact hfirst before event later hsplit hbegan (second ++ rest)
  induction h with
  | done session => exact everywhere_nil
  | subscribe _ ih =>
    refine everywhere_append.mpr ⟨everywhere_of_forall fun event hevent _ later => ?_, ih⟩
    exact calls_of_holdEvents hevent _
  | detach _ ih =>
    refine everywhere_append.mpr ⟨everywhere_of_forall fun event hevent _ later => ?_, ih⟩
    exact calls_of_releaseEvents hevent _
  | notify hinner _ ihInner ihRest =>
    refine everywhere_cons.mpr ⟨fun _ rest => ?_, everywhere_append.mpr ⟨hmore ihInner _, ?_⟩⟩
    · rw [List.append_assoc, hinner.ownCalls?_eq, List.cons_append, ownCalls?_ended,
        filterMap_planned?_callAll, Option.map_some, List.append_nil]
    · exact everywhere_cons.mpr ⟨nofun, ihRest⟩
  | call _ _ ihInner ihRest =>
    exact everywhere_cons.mpr ⟨nofun, everywhere_append.mpr ⟨hmore ihInner _, ihRest⟩⟩

end Session

/-! ## 4. Who is registered -/

theorem subscriptions_concat (past : List Event) (event : Event) :
    subscriptions (past ++ [event]) = subscriptions past ++ event.subscription?.toList := by
  rw [subscriptions, List.filterMap_append, subscriptions]
  cases hevent : event.subscription? <;> simp [hevent]

theorem detachments_concat (past : List Event) (event : Event) :
    detachments (past ++ [event]) = detachments past ++ event.detachment?.toList := by
  rw [detachments, List.filterMap_append, detachments]
  cases hevent : event.detachment? <;> simp [hevent]

/-- Who stands stays until he is detached. -/
theorem standing_concat (past : List Event) (event : Event) :
    standing (past ++ [event]) =
      ((standing past).filter fun subscription => subscription.1 ∉ event.detachment?.toList) ++
        event.subscription?.toList.filter fun subscription =>
          subscription.1 ∉ detachments (past ++ [event]) := by
  rw [standing, subscriptions_concat, List.filter_append, standing, List.filter_filter,
    detachments_concat]
  congr 1
  refine List.filter_congr fun subscription _ => ?_
  rw [Bool.and_comm]
  simp

section LastEvent

variable (past : List Event) (number : Nat) (name : String) (registered : List (Nat × String))

theorem subscriptions_subscribed :
    subscriptions (past ++ [⟨.subscribed number name, registered⟩]) =
      subscriptions past ++ [(number, name)] :=
  subscriptions_concat ..

theorem detachments_subscribed :
    detachments (past ++ [⟨.subscribed number name, registered⟩]) = detachments past := by
  rw [detachments_concat]
  exact List.append_nil _

theorem subscriptions_detached :
    subscriptions (past ++ [⟨.detached number, registered⟩]) = subscriptions past := by
  rw [subscriptions_concat]
  exact List.append_nil _

theorem detachments_detached :
    detachments (past ++ [⟨.detached number, registered⟩]) = detachments past ++ [number] :=
  detachments_concat ..

theorem standing_detached :
    standing (past ++ [⟨.detached number, registered⟩]) =
      (standing past).filter fun subscription => subscription.1 ∉ [number] := by
  rw [standing_concat]
  exact List.append_nil _

end LastEvent

/-- What the numbers of the subscriptions look like: they are given out in turn, and only those that
were given out are taken away. -/
structure Numbered (past : List Event) : Prop where
  numbers : (subscriptions past).map Prod.fst = List.range (subscriptions past).length
  detached : ∀ number ∈ detachments past, number < (subscriptions past).length

theorem numbered_nil : Numbered [] := ⟨rfl, nofun⟩

namespace Numbered

variable {past : List Event}

/-- Those who stood at any time had different numbers, in order. -/
theorem ordered_before {later : List Event} (h : Numbered (past ++ later)) :
    ((standing past).map Prod.fst).Pairwise (· < ·) := by
  have hsub : (standing past).Sublist (subscriptions (past ++ later)) := by
    rw [subscriptions, List.filterMap_append]
    exact List.filter_sublist.trans (List.sublist_append_left ..)
  have hnumbers := hsub.map Prod.fst
  rw [h.numbers] at hnumbers
  exact List.pairwise_lt_range.sublist hnumbers

theorem ordered (h : Numbered past) : ((standing past).map Prod.fst).Pairwise (· < ·) := by
  rw [← List.append_nil past] at h
  exact h.ordered_before

/-- Whoever stands has a number that was given out. -/
theorem lt_of_mem (h : Numbered past) {number : Nat} {name : String}
    (hmem : (number, name) ∈ standing past) : number < (subscriptions past).length := by
  have hnumber : number ∈ (subscriptions past).map Prod.fst :=
    List.mem_map_of_mem (List.mem_filter.mp hmem).1
  rwa [h.numbers, List.mem_range] at hnumber

/-- A number is one of those who stand. -/
theorem name_unique (h : Numbered past) {number : Nat} {first second : String}
    (hfirst : (number, first) ∈ standing past) (hsecond : (number, second) ∈ standing past) :
    first = second := by
  have hnodup : ((standing past).map Prod.fst).Nodup := h.ordered.imp Nat.ne_of_lt
  exact congrArg Prod.snd (List.inj_on_of_nodup_map hnodup hfirst hsecond rfl)

/-- **A detachment takes one away of those who stand**, and no other. -/
theorem split (h : Numbered past) {number : Nat} {name : String}
    (hmem : (number, name) ∈ standing past) : ∃ front back,
      standing past = front ++ (number, name) :: back ∧
        ((standing past).filter fun subscription => subscription.1 ∉ [number]) = front ++ back := by
  obtain ⟨front, back, hsplit⟩ := List.append_of_mem hmem
  refine ⟨front, back, hsplit, ?_⟩
  have hordered := h.ordered
  rw [hsplit, List.map_append, List.map_cons, List.pairwise_append, List.pairwise_cons] at hordered
  obtain ⟨-, ⟨hback, -⟩, hfront⟩ := hordered
  rw [hsplit, List.filter_append, List.filter_cons_of_neg (by simp)]
  congr 1
  · refine List.filter_eq_self.mpr fun other hother => ?_
    have hless := hfront other.1 (List.mem_map_of_mem hother) number List.mem_cons_self
    simpa using Nat.ne_of_lt hless
  · refine List.filter_eq_self.mpr fun other hother => ?_
    have hless := hback other.1 (List.mem_map_of_mem hother)
    simpa using (Nat.ne_of_lt hless).symm

theorem subscribe (h : Numbered past) (name : String) (registered : List (Nat × String)) :
    Numbered (past ++ [⟨.subscribed (subscriptions past).length name, registered⟩]) := by
  constructor
  · rw [subscriptions_subscribed, List.map_append, h.numbers, List.length_append,
      List.length_singleton, List.range_succ]
    rfl
  · rw [subscriptions_subscribed, detachments_subscribed, List.length_append]
    exact fun number hnumber => Nat.lt_add_right _ (h.detached number hnumber)

/-- Whoever subscribes comes behind all others, for his number was not detached before. -/
theorem standing_subscribe (h : Numbered past) (name : String) (registered : List (Nat × String)) :
    standing (past ++ [⟨.subscribed (subscriptions past).length name, registered⟩]) =
      standing past ++ [((subscriptions past).length, name)] := by
  have hfresh : (subscriptions past).length ∉ detachments past := fun hmem =>
    Nat.lt_irrefl _ (h.detached _ hmem)
  rw [standing_concat, detachments_subscribed]
  simp [Event.detachment?, Event.subscription?, hfresh]

theorem detach (h : Numbered past) {number : Nat} (hnumber : number < (subscriptions past).length)
    (registered : List (Nat × String)) : Numbered (past ++ [⟨.detached number, registered⟩]) := by
  constructor
  · rw [subscriptions_detached, h.numbers]
  · rw [subscriptions_detached, detachments_detached]
    intro other hother
    rcases List.mem_append.mp hother with hother | hother
    · exact h.detached other hother
    · rwa [List.mem_singleton.mp hother]

end Numbered

/-- Those registered after an event are those who stand then, and a detachment takes one of those
who stood before and no other. -/
structure Sound (past : List Event) (event : Event) : Prop where
  registered : event.registered = standing (past ++ [event])
  detached : ∀ number, event.what = .detached number → ∃ name front back,
    standing past = front ++ (number, name) :: back ∧ event.registered = front ++ back

namespace Session

/-- A session is what the events so far say, and whoever is held in it is registered. -/
structure Agrees (session : Session) (past : List Event) : Prop extends Numbered past where
  registered : session.observers.callbacks = standing past
  next : session.observers.next = (subscriptions past).length
  held : ∀ name number, (name, number) ∈ session.held → (number, name) ∈ standing past

variable {session middle after : Session} {past first second : List Event}

theorem agrees_start (scripts : List (Nat × List Step)) :
    Agrees ⟨.empty, [], scripts, []⟩ [] :=
  ⟨numbered_nil, rfl, rfl, nofun⟩

/-- Events lead to a session, and are sound with regard to what happened before. -/
structure Leads (past events : List Event) (after : Session) : Prop where
  agrees : after.Agrees (past ++ events)
  sound : Everywhere (fun before event _ => Sound (past ++ before) event) events

theorem Agrees.leads (h : session.Agrees past) : Leads past [] session :=
  ⟨by rwa [List.append_nil], everywhere_nil⟩

theorem Leads.append (hfirst : Leads past first middle)
    (hsecond : Leads (past ++ first) second after) : Leads past (first ++ second) after := by
  constructor
  · rw [← List.append_assoc]
    exact hsecond.agrees
  · refine everywhere_append.mpr ⟨hfirst.sound, ?_⟩
    have hsound := hsecond.sound
    simp only [List.append_assoc] at hsound
    exact hsound

/-- One event leads to a session that is what it says. -/
theorem Leads.single {event : Event} (hagrees : after.Agrees (past ++ [event]))
    (hregistered : event.registered = after.observers.callbacks)
    (hdetached : ∀ number, event.what = .detached number → ∃ name front back,
      standing past = front ++ (number, name) :: back ∧ event.registered = front ++ back) :
    Leads past [event] after := by
  refine ⟨hagrees, everywhere_singleton.mpr ⟨?_, ?_⟩⟩
  · rw [List.append_nil, hregistered, hagrees.registered]
  · rwa [List.append_nil]

theorem mem_of_lookup {held : List (String × Nat)} {name : String} {number : Nat}
    (h : held.lookup name = some number) : (name, number) ∈ held := by
  obtain ⟨front, back, rfl, -⟩ := List.lookup_eq_some_iff.mp h
  exact List.mem_append_right _ List.mem_cons_self

/-- An event that subscribes and detaches nobody leads nowhere. -/
theorem Agrees.quiet (h : session.Agrees past) (event : Event)
    (hregistered : event.registered = session.observers.callbacks)
    (hsubscribes : event.subscription? = none) (hdetaches : event.detachment? = none) :
    Leads past [event] session := by
  have hsubscriptions : subscriptions (past ++ [event]) = subscriptions past := by
    rw [subscriptions_concat, hsubscribes, Option.toList_none, List.append_nil]
  have hdetachments : detachments (past ++ [event]) = detachments past := by
    rw [detachments_concat, hdetaches, Option.toList_none, List.append_nil]
  have hstanding : standing (past ++ [event]) = standing past := by
    rw [standing, hsubscriptions, hdetachments, standing]
  refine .single ⟨⟨?_, ?_⟩, ?_, ?_, ?_⟩ hregistered fun number hwhat => ?_
  · rw [hsubscriptions, h.numbers]
  · rw [hsubscriptions, hdetachments]
    exact h.detached
  · rw [hstanding, h.registered]
  · rw [hsubscriptions, h.next]
  · rw [hstanding]
    exact h.held
  · rw [Event.detachment?, hwhat] at hdetaches
    cases hdetaches

/-- **A subscription puts one behind those who stand**, with a number that nobody had. -/
theorem Agrees.subscribe (h : session.Agrees past) (name : String) :
    Leads past [⟨.subscribed session.observers.next name,
      (session.subscribed name).observers.callbacks⟩] (session.subscribed name) := by
  refine .single ⟨?_, ?_, ?_, ?_⟩ rfl nofun
  · rw [h.next]
    exact h.toNumbered.subscribe ..
  · rw [h.next, h.standing_subscribe, ← h.registered, ← h.next]
    rfl
  · rw [subscriptions_subscribed, List.length_append, ← h.next]
    rfl
  · rw [h.next, h.standing_subscribe]
    exact fun other number hheld => List.mem_append_left _ (h.held other number hheld)

/-- Whoever is held under a name is let go of. -/
theorem release_eq {name : String} {number : Nat} (hheld : session.held.lookup name = some number) :
    session.release name =
      { session with
        observers := session.observers.detach number
        held := session.held.filter (·.1 != name) } := by
  rw [Session.release, hheld]

theorem detach_callbacks (observers : Observers String) (number : Nat) :
    (observers.detach number).callbacks =
      observers.callbacks.filter fun subscription => subscription.1 ∉ [number] := by
  refine List.filter_congr fun subscription _ => ?_
  rw [Bool.eq_iff_iff]
  simp

/-- **Releasing a name takes away whoever is held under it**, and no other. -/
theorem Agrees.release (h : session.Agrees past) (name : String) :
    Leads past (session.releaseEvents name) (session.release name) := by
  rw [releaseEvents]
  cases hheld : session.held.lookup name with
  | none =>
    rw [Session.release, hheld]
    exact h.leads
  | some number =>
    have hmem : (number, name) ∈ standing past := h.held name number (mem_of_lookup hheld)
    have hregistered : (session.release name).observers.callbacks =
        (standing past).filter fun subscription => subscription.1 ∉ [number] := by
      rw [release_eq hheld, detach_callbacks, h.registered]
    refine .single ⟨h.detach (h.lt_of_mem hmem) _, ?_, ?_, ?_⟩ rfl ?_
    · rw [standing_detached, hregistered]
    · rw [subscriptions_detached, ← h.next, release_eq hheld]
      rfl
    · -- another name does not hold the number that goes
      intro other kept hother
      rw [release_eq hheld] at hother
      obtain ⟨hother, hne⟩ := List.mem_filter.mp hother
      have hstands : (kept, other) ∈ standing past := h.held other kept hother
      rw [standing_detached]
      refine List.mem_filter.mpr ⟨hstands, ?_⟩
      simp only [List.mem_singleton, decide_eq_true_eq]
      rintro rfl
      exact (bne_iff_ne.mp hne) (h.name_unique hstands hmem)
    · rintro _ ⟨⟩
      obtain ⟨front, back, hsplit, hfilter⟩ := h.split hmem
      exact ⟨name, front, back, hsplit, hregistered.trans hfilter⟩

/-- Whether a session is what the events say is a matter of who is registered and who is held. -/
theorem Agrees.keep (h : session.Agrees past) (hobservers : after.observers = session.observers)
    (hheld : ∀ name number, (name, number) ∈ after.held → (number, name) ∈ standing past) :
    after.Agrees past where
  toNumbered := h.toNumbered
  registered := by rw [hobservers, h.registered]
  next := by rw [hobservers, h.next]
  held := hheld

/-- Whoever has just subscribed is not taken away with the one who was held under the name. -/
theorem Agrees.mem_release (h : session.Agrees past) (name : String) :
    (session.observers.next, name) ∈
      ((session.subscribed name).release name).observers.callbacks := by
  have hlast : (session.observers.next, name) ∈ (session.subscribed name).observers.callbacks :=
    List.mem_append_right _ List.mem_cons_self
  rw [Session.release]
  cases hheld : (session.subscribed name).held.lookup name with
  | none => exact hlast
  | some number =>
    have hless : number < session.observers.next :=
      h.next ▸ h.lt_of_mem (h.held name number (mem_of_lookup hheld))
    exact List.mem_filter.mpr ⟨hlast, bne_iff_ne.mpr (Nat.ne_of_gt hless)⟩

/-- **Holding a subscription puts it behind those who stand** and takes away whoever was held under
the name. -/
theorem Agrees.hold (h : session.Agrees past) (name : String) (script : List Step) :
    Leads past (session.holdEvents name) (session.hold name script) := by
  have hsubscribed := h.subscribe name
  have hleads := hsubscribed.append (hsubscribed.agrees.release name)
  refine ⟨hleads.agrees.keep rfl fun other number hheld => ?_, hleads.sound⟩
  rcases List.mem_cons.mp hheld with hnew | hold
  · cases hnew
    exact hleads.agrees.registered ▸ h.mem_release name
  · exact hleads.agrees.held other number hold

/-- **What happens in a course leads to its end.** -/
theorem Course.leads {agenda : List Task} {events : List Event}
    (h : Course session agenda events after) :
    ∀ {past : List Event}, session.Agrees past → Leads past events after := by
  induction h with
  | done session => exact Agrees.leads
  | @subscribe session after name script _ _ _ ih =>
    intro past hagrees
    have hhold := hagrees.hold name script
    exact hhold.append (ih hhold.agrees)
  | @detach session after name _ _ _ ih =>
    intro past hagrees
    have hrelease := hagrees.release name
    exact hrelease.append (ih hrelease.agrees)
  | notify _ _ ihInner ihRest =>
    intro past hagrees
    have hbegan := hagrees.quiet ⟨.began, _⟩ rfl rfl rfl
    have hinner := ihInner hbegan.agrees
    have hended := hinner.agrees.quiet ⟨.ended, _⟩ rfl rfl rfl
    exact hbegan.append (hinner.append (hended.append (ihRest hended.agrees)))
  | @call session middle after number name _ _ _ _ _ ihInner ihRest =>
    intro past hagrees
    have hcalled := hagrees.quiet ⟨.called number name, _⟩ rfl rfl rfl
    have hinner := ihInner (hcalled.agrees.keep rfl hcalled.agrees.held)
    exact hcalled.append (hinner.append (ihRest hinner.agrees))

end Session

/-! ## 5. The registry -/

namespace Session

theorem filterMap_call?_releaseEvents (session : Session) (name : String) :
    (session.releaseEvents name).filterMap Event.call? = [] := by
  rw [releaseEvents]
  split <;> rfl

theorem release_calls (session : Session) (name : String) :
    (session.release name).calls = session.calls := by
  rw [Session.release]
  split <;> rfl

/-- **The calls of a course are those that a session notes.** -/
theorem Course.calls {session after : Session} {agenda : List Task} {events : List Event}
    (h : Course session agenda events after) :
    after.calls = session.calls ++ events.filterMap Event.call? := by
  induction h with
  | done session => exact (List.append_nil _).symm
  | @subscribe session after name _ _ _ _ ih =>
    have hquiet : (session.holdEvents name).filterMap Event.call? = [] :=
      filterMap_call?_releaseEvents (session.subscribed name) name
    rw [ih, List.filterMap_append, hquiet, List.nil_append]
    exact congrArg (· ++ _) (release_calls (session.subscribed name) name)
  | detach _ ih =>
    rw [ih, List.filterMap_append, filterMap_call?_releaseEvents, List.nil_append, release_calls]
  | notify _ _ ihInner ihRest =>
    rw [ihRest, ihInner, List.filterMap_cons_none rfl, List.filterMap_append,
      List.filterMap_cons_none rfl, List.append_assoc]
  | call _ _ ihInner ihRest =>
    rw [ihRest, ihInner]
    simp [Event.call?, calling]

end Session

/-- What a registry promises about everything that happens to it. -/
structure Orderly (events : List Event) : Prop where
  /-- Those registered are those who subscribed and were not detached, … -/
  registered : Everywhere (fun before event _ => event.registered = standing (before ++ [event]))
    events
  /-- … each once and in the order in which they subscribed, … -/
  once : ∀ event ∈ events, (event.registered.map Prod.fst).Pairwise (· < ·)
  /-- … and a notification calls those who are registered when it begins: them, in this order, and
  nobody else. -/
  snapshot : Everywhere (fun _ event later =>
    event.what = .began → ownCalls? 0 later = some event.registered) events
  /-- Subscriptions are numbered in turn, so that no number is given out twice. -/
  numbers : (subscriptions events).map Prod.fst = List.range (subscriptions events).length
  /-- A detachment takes one away of those who are registered, and no other. -/
  detached : Everywhere (fun before event _ => ∀ number, event.what = .detached number →
    ∃ name front back, standing before = front ++ (number, name) :: back ∧
      event.registered = front ++ back) events

/-- **Whatever callbacks do to the registry that calls them**: a notification calls those who are
registered when it begins, each once and in the order of subscription; no number is given out
twice; and a detachment takes away the one callback that it is about.  In the end those are
registered, and those calls were made, of which the events tell.

Who is held under a name is let go of by a `detach`, and by a `subscribe` under the same name; to
the registry it makes no difference which of them it is, nor by which clone of its handle a step
gets there.  There may be any number of scripts in store for a subscription, so that its callback
does something else each time it is called. -/
theorem work_orderly (scripts : List (Nat × List Step)) (script : List Step) :
    let first : Session := ⟨.empty, [], scripts, []⟩
    let last := first.work (Task.steps script)
    ∃ events, Session.Course first (Task.steps script) events last ∧ Orderly events ∧
      last.observers.callbacks = standing events ∧ last.calls = events.filterMap Event.call? := by
  intro first last
  obtain ⟨events, hcourse⟩ := Session.exists_course first (Task.steps script)
  have hleads := hcourse.leads (Session.agrees_start scripts)
  refine ⟨events, hcourse, ?_, hleads.agrees.registered, hcourse.calls⟩
  constructor
  · exact fun before event later hsplit => (hleads.sound before event later hsplit).registered
  · intro event hevent
    obtain ⟨before, later, hsplit⟩ := List.append_of_mem hevent
    have hnumbered : Numbered (before ++ [event] ++ later) := by
      rw [List.append_assoc, List.singleton_append, ← hsplit]
      exact hleads.agrees.toNumbered
    rw [(hleads.sound before event later hsplit).registered]
    exact hnumbered.ordered_before
  · intro before event later hsplit hbegan
    rw [← hcourse.snapshots before event later hsplit hbegan [], List.append_nil]
  · exact hleads.agrees.numbers
  · exact fun before event later hsplit => (hleads.sound before event later hsplit).detached

/-- The first callback detaches the second one, which is called all the same, and subscribes a third
one, which is not. -/
example :
    (Session.start.work (Task.steps [.subscribe "a" [.detach "b", .subscribe "c" []],
      .subscribe "b" [], .notify, .notify])).calls = ["a", "b", "a", "c"] := by
  cbv

end RenderSync.Observers
