import RenderSync.Process.Table

/-!
# Supervision of one process

A supervisor owns at most one process.  Stopping it asks first and then, when the grace period is
over, leaves no choice; one that has ended by itself is kept until it is stopped, for its status.
-/

namespace RenderSync

/-- Why a process could not be started. -/
inductive StartError where
  | alreadyRunning (number : Nat)
  | notExecutable (path : Path)
deriving DecidableEq, Repr, Inhabited

/-- The owner of at most one process. -/
structure Supervisor where
  /-- How long a process may take to end once it is asked to, in nanoseconds. -/
  grace : Nat
  process : Option (Nat × Path)
deriving DecidableEq, Repr, Inhabited

namespace Supervisor

/-- The grace period when nothing else is said. -/
def defaultGrace : Nat := 15 * second

/-- No process. -/
def idle (grace : Nat) : Supervisor := ⟨grace, none⟩

/-- Whether the process has not ended. -/
def isRunning (supervisor : Supervisor) (table : ProcessTable) : Bool :=
  match supervisor.process with
  | none => false
  | some (number, _) => table.isRunning number

/-- Starts a process. -/
def start (files : FileTree) (path : Path) (arguments : List String)
    (supervisor : Supervisor) (table : ProcessTable) :
    Except StartError Nat × Supervisor × ProcessTable :=
  match supervisor.process with
  | some (number, _) => (.error (.alreadyRunning number), supervisor, table)
  | none =>
    match table.spawn files path arguments with
    | (none, table) => (.error (.notExecutable path), supervisor, table)
    | (some number, table) =>
      (.ok number, { supervisor with process := some (number, path) }, table)

/-- Starts what a command names; the process goes by the path that was given. -/
def startCommand (searchPath : List Path) (files : FileTree) (path : Path)
    (arguments : List String) (supervisor : Supervisor) (table : ProcessTable) :
    Except StartError Nat × Supervisor × ProcessTable :=
  match supervisor.process, ProcessTable.resolve? searchPath files path with
  | none, none => (.error (.notExecutable path), supervisor, table)
  | _, found =>
    match supervisor.start files (found.getD path) arguments table with
    | (.ok number, supervisor, table) =>
      (.ok number, { supervisor with process := some (number, path) }, table)
    | (.error (.notExecutable _), supervisor, table) =>
      (.error (.notExecutable path), supervisor, table)
    | (.error e, supervisor, table) => (.error e, supervisor, table)

/-- How long the log of a process that has ended may stay open. -/
def drainTime : Nat := 2 * second

/-- Ends a process if it has not ended yet: asks its group to, waits for the grace period, and
kills the group.  Then its log is read until nobody can write to it any more. -/
def endProcess (grace number : Nat) (files : FileTree) (table : ProcessTable) :
    Option ExitStatus × ProcessTable × FileTree :=
  let (table, files) :=
    if !table.isRunning number then (table, files)
    else
      let (ended, table, files) := (table.signal number .terminate).passUntil
        (fun table _ => !table.isRunning number) (grace / ProcessTable.tick) files
      (if ended then table else table.signal number .kill, files)
  let status := table.status? number
  let (_, table, files) := table.passUntil (fun table _ => !table.isLogged number)
    (drainTime / ProcessTable.tick) files
  (status, table.forget number, files)

/-- Stops the process; answers how it ended, or `none` if there was none. -/
def stop (files : FileTree) (supervisor : Supervisor) (table : ProcessTable) :
    Option ExitStatus × Supervisor × ProcessTable × FileTree :=
  match supervisor.process with
  | none => (none, supervisor, table, files)
  | some (number, _) =>
    let (status, table, files) := endProcess supervisor.grace number files table
    (status, { supervisor with process := none }, table, files)

end Supervisor

end RenderSync
