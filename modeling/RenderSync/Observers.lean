/-!
# Observers

A registry of callbacks.  Every subscription gets a number that is never given out again, and a
notification reaches the callbacks that are registered when it begins, in the order of
subscription; what they do to the registry meanwhile concerns later notifications only.

A callback may carry a script that subscribes, detaches and notifies in its turn; it runs the
first time the callback is called.  Running a script is a machine with an agenda of steps still
to do and calls still to make, the innermost first.  Every turn takes a step out of the agenda or
makes a call that was planned, and only steps plan calls, so the machine comes to an end.
-/

namespace RenderSync

/-! ## 1. The registry -/

/-- The callbacks registered, each under the number of its subscription. -/
structure Observers (α : Type) where
  next : Nat
  callbacks : List (Nat × α)
deriving Repr, Inhabited

namespace Observers

variable {α : Type}

/-- Nobody observes. -/
def empty : Observers α := ⟨0, []⟩

/-- How many callbacks are registered. -/
def size (observers : Observers α) : Nat := observers.callbacks.length

/-- Registers a callback behind all others; answers the number of the subscription. -/
def subscribe (observers : Observers α) (callback : α) : Nat × Observers α :=
  (observers.next, ⟨observers.next + 1, observers.callbacks ++ [(observers.next, callback)]⟩)

/-- Takes a subscription away; one that is gone already changes nothing. -/
def detach (observers : Observers α) (number : Nat) : Observers α :=
  { observers with callbacks := observers.callbacks.filter (·.1 != number) }

/-! ## 2. Scripts -/

/-- What a script does to the registry.  Subscriptions are held under names. -/
inductive Step where
  /-- Subscribes, with a script for the first call; a subscription held under that name goes. -/
  | subscribe (name : String) (script : List Step)
  | detach (name : String)
  | notify
deriving Inhabited

mutual

/-- How many steps a step stands for, those of its script included. -/
def Step.weight : Step → Nat
  | .subscribe _ script => 1 + scriptWeight script
  | _ => 1

/-- How many steps a script stands for. -/
def scriptWeight : List Step → Nat
  | [] => 0
  | step :: rest => step.weight + scriptWeight rest

end

/-- What is still to be done. -/
inductive Task where
  | step (step : Step)
  | call (number : Nat) (name : String)
deriving Inhabited

/-- The calls that a notification plans. -/
def Task.callAll (callbacks : List (Nat × String)) : List Task :=
  callbacks.map fun callback => call callback.1 callback.2

/-- The steps of a script. -/
def Task.steps (script : List Step) : List Task := script.map step

/-- A registry in use. -/
structure Session where
  observers : Observers String
  /-- The subscriptions held, by name. -/
  held : List (String × Nat)
  /-- The scripts of callbacks that were not called yet, by the number of the subscription. -/
  scripts : List (Nat × List Step)
  /-- The calls made, oldest first. -/
  calls : List String
deriving Inhabited

namespace Session

/-- Nobody observes. -/
def start : Session := ⟨.empty, [], [], []⟩

/-- Detaches the subscription held under a name. -/
def release (session : Session) (name : String) : Session :=
  match session.held.lookup name with
  | none => session
  | some number =>
    { session with
      observers := session.observers.detach number
      held := session.held.filter (·.1 != name) }

/-- Subscribes and holds the subscription under a name. -/
def hold (session : Session) (name : String) (script : List Step) : Session :=
  let (number, observers) := session.observers.subscribe name
  let session := { session with observers }.release name
  { session with
    held := (name, number) :: session.held
    scripts := (number, script) :: session.scripts }

/-- How many steps wait in scripts. -/
def waiting : List (Nat × List Step) → Nat
  | [] => 0
  | (_, script) :: rest => scriptWeight script + waiting rest

/-- Takes the script of a callback out. -/
def takeScript (number : Nat) : List (Nat × List Step) → List Step × List (Nat × List Step)
  | [] => ([], [])
  | (n, script) :: rest =>
    if n = number then (script, rest)
    else
      let (found, others) := takeScript number rest
      (found, (n, script) :: others)

theorem waiting_takeScript (number : Nat) (scripts : List (Nat × List Step)) :
    scriptWeight (takeScript number scripts).1 + waiting (takeScript number scripts).2 =
      waiting scripts := by
  induction scripts with
  | nil => simp [takeScript, waiting, scriptWeight]
  | cons entry rest ih =>
    obtain ⟨n, script⟩ := entry
    by_cases h : n = number
    · simp [takeScript, waiting, h]
    · simp only [waiting, takeScript, h, if_false] at ih ⊢
      omega

@[simp] theorem release_scripts (session : Session) (name : String) :
    (session.release name).scripts = session.scripts := by
  unfold release
  split <;> rfl

/-- How many steps an agenda stands for. -/
def planned : List Task → Nat
  | [] => 0
  | .step step :: rest => step.weight + planned rest
  | .call .. :: rest => planned rest

/-- How many calls an agenda plans. -/
def plannedCalls : List Task → Nat
  | [] => 0
  | .step _ :: rest => plannedCalls rest
  | .call .. :: rest => 1 + plannedCalls rest

theorem planned_steps (script : List Step) (rest : List Task) :
    planned (Task.steps script ++ rest) = scriptWeight script + planned rest := by
  induction script with
  | nil => simp [Task.steps, scriptWeight]
  | cons step script ih =>
    simp only [Task.steps, List.map_cons, List.cons_append, planned, scriptWeight] at ih ⊢
    omega

theorem planned_calls (callbacks : List (Nat × String)) (rest : List Task) :
    planned (Task.callAll callbacks ++ rest) = planned rest := by
  induction callbacks with
  | nil => rfl
  | cons callback callbacks ih => simpa [Task.callAll, planned] using ih

theorem plannedCalls_steps (script : List Step) (rest : List Task) :
    plannedCalls (Task.steps script ++ rest) = plannedCalls rest := by
  induction script with
  | nil => rfl
  | cons step script ih => simpa [Task.steps, plannedCalls] using ih

/-- Works an agenda off. -/
def work (session : Session) (agenda : List Task) : Session :=
  match agenda with
  | [] => session
  | .step (.subscribe name script) :: rest => work (session.hold name script) rest
  | .step (.detach name) :: rest => work (session.release name) rest
  | .step .notify :: rest =>
    work session (Task.callAll session.observers.callbacks ++ rest)
  | .call number name :: rest =>
    let taken := takeScript number session.scripts
    work { session with scripts := taken.2, calls := session.calls ++ [name] }
      (Task.steps taken.1 ++ rest)
termination_by (planned agenda + waiting session.scripts, plannedCalls agenda)
decreasing_by
  all_goals simp_wf
  · left
    simp only [hold, planned, Step.weight, release_scripts, waiting]
    omega
  · left
    simp [planned, Step.weight]
  · left
    rw [planned_calls]
    simp [planned, Step.weight]
  · have h := waiting_takeScript number session.scripts
    rw [planned_steps, plannedCalls_steps]
    simp only [planned, plannedCalls]
    have heq : scriptWeight (takeScript number session.scripts).1 + planned rest +
        waiting (takeScript number session.scripts).2 =
        planned rest + waiting session.scripts := by omega
    rw [heq]
    exact Prod.Lex.right _ (by omega)

/-- Does one step, with all the calls that it leads to; the calls made before are forgotten. -/
def perform (session : Session) (step : Step) : Session :=
  work { session with calls := [] } [.step step]

end Session

end Observers

end RenderSync
