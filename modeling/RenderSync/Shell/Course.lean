import RenderSync.Files.Tree
import RenderSync.Notifications
import RenderSync.Process.Signal

/-!
# Courses

What a program still does, act by act, with an explicit rest behind every act: it looks at the files
and changes them, reads, writes, runs other programs and hears how these have ended, and finishes.

Other programs may act between two acts, but not between a look at the files and the change that
follows it: `settle` goes on to the first act that is no such thing.
-/

namespace RenderSync.Shell

/-- Why a program cannot be started. -/
inductive LaunchFault where
  | missing
  | denied
  /-- Nothing says how to run it. -/
  | plain
deriving DecidableEq, Repr, Inhabited

namespace LaunchFault

/-- What is wrong, as programs of the system say it. -/
def problem : LaunchFault → String
  | missing => "No such file or directory"
  | denied => "Permission denied"
  | plain => "Exec format error"

/-- The status of a command that cannot be started. -/
def status : LaunchFault → Nat
  | missing => 127
  | denied | plain => 126

end LaunchFault

/-- How long a program may take. -/
structure Watch where
  /-- In nanoseconds; without a limit it is only told what the one that watches is told. -/
  limit : Option Nat
  /-- What it is told then. -/
  signal : Signal
  /-- How much later there is no choice left. -/
  patience : Option Nat
deriving DecidableEq, Repr, Inhabited

/-- Another program that is to be run. -/
structure Errand where
  words : List String
  /-- What it reads; otherwise it reads where the one reads that runs it. -/
  input : Option String := none
  /-- What it prints comes back with the report. -/
  captures : Bool := false
  watch : Option Watch := none
deriving Inhabited

/-- What became of an errand. -/
structure Report where
  outcome : Except LaunchFault ExitStatus
  output : String := ""
  /-- It took too long and was told so. -/
  isLate : Bool := false

/-- The status that tells how a program ended. -/
def statusOf : ExitStatus → Nat
  | .exited code => code
  | .signaled number => 128 + number

/-- The status that tells what became of an errand. -/
def Report.status (report : Report) : Nat :=
  match report.outcome with
  | .ok ended => statusOf ended
  | .error fault => fault.status

/-- What a program still does. -/
inductive Course where
  | finish (status : Nat)
  /-- Something else comes next. -/
  | wait
  /-- The end of a program that a signal ends. -/
  | fall (signal : Signal)
  | write (descriptor : Nat) (text : String) (next : Course)
  /-- Reads what there is, but no more than so many octets; `none` at the end. -/
  | take (descriptor most : Nat) (next : Option String → Course)
  | look (next : FileTree → Course)
  | put (files : FileTree) (next : Course)
  | run (errand : Errand) (next : Report → Course)

instance : Inhabited Course := ⟨.finish 0⟩

namespace Course

/-- Prints something first. -/
def printing (text : String) (next : Course) : Course :=
  if text = "" then next else .write 1 text next

/-- Complains first. -/
def complaining (text : String) (next : Course) : Course :=
  if text = "" then next else .write 2 text next

/-- Looks at files and changes them, up to the first other act. -/
def settle : Course → FileTree → Course × FileTree
  | look next, files => settle (next files) files
  | put files next, _ => settle next files
  | course, files => (course, files)

end Course

end RenderSync.Shell
