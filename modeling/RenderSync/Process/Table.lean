import RenderSync.Json.Basic
import RenderSync.Shell.Machine

/-!
# Processes from outside

The processes of the system as a program sees them that starts some of them: they are started from
files, told signals, and asked how they have ended.  Time passes only when the table is told so
(`pass`); then every process goes on until it waits.

A process that is started reads nothing, and all that it prints goes into a log.  It leads a group,
to which everything belongs that it starts.
-/

namespace RenderSync

/-- How a process ended, as a value: its code, or the signal that ended it. -/
def ExitStatus.toJson : ExitStatus → Json
  | exited code => .object [("code", Json.nat code), ("signal", .null)]
  | signaled number => .object [("code", .null), ("signal", Json.nat number)]

/-- The processes of the system. -/
abbrev ProcessTable := Shell.Table

namespace ProcessTable

/-! ## 1. Starting -/

/-- No process. -/
def start : ProcessTable := ⟨0, 100, [], [], [], [], 0⟩

/-- The file that a command names: a bare name is looked for on the search path, and nowhere
else. -/
def resolve? (searchPath : List Path) (files : FileTree) (path : Path) : Option Path :=
  if path.text = "" || path.text.toList.contains '/' then some path
  else
    (searchPath.map (·.join path)).find? fun candidate => Program.isExecutable files candidate

/-- The variables that every process gets. -/
def environment : List (String × String) :=
  [("HOME", "/root"), ("PATH", "/usr/local/sbin:/usr/local/bin:/usr/sbin:/usr/bin:/sbin:/bin")]

/-- A process that is to become a program. -/
def newborn (here : Place) (table : ProcessTable) : Shell.Process where
  number := table.next
  parent := 0
  group := table.next
  shell := table.next
  name := ""
  arguments := []
  bindings := environment.map fun (name, value) => (name, (Shell.Variable.ofText value).handedOn)
  functions := []
  options := []
  traps := []
  caught := []
  here := Shell.Octets.ofString (FileTree.pathOf here).text
  creationMask := 0o022
  descriptors := [(0, table.fresh), (1, table.fresh + 1), (2, table.fresh + 2)]
  agenda := []
  documents := []
  line := 0
  label := ""
  status := 0
  capturedStatus := 0
  wakeAt := none
  paused := false
  held := []
  background := none
  frames := []
  optionPlace := 0
  ended := none
  job := none
  isNoted := false
  knocks := []

/-- Starts a process; answers its number, or `none` if the file cannot be run. -/
def spawn (files : FileTree) (path : Path) (arguments : List String) (table : ProcessTable) :
    Option Nat × ProcessTable :=
  let octets := Shell.Octets.ofString
  if (path.text :: arguments).any fun text => text.toList.contains '\x00' then (none, table)
  else
    match (table.newborn files.here).becomes files (octets path.text) (octets path.text)
      (arguments.map octets) Shell.Process.interpreterLimit with
    | .error _ => (none, table)
    | .ok process =>
      (some table.next,
        { table with
          next := table.next + 1
          fresh := table.fresh + 3
          opened := [(table.fresh, .device .null), (table.fresh + 1, .log table.next),
            (table.fresh + 2, .log table.next)] ++ table.opened
          processes := table.processes ++ [process] })

/-! ## 2. Looking and telling -/

/-- How a process ended; `none` while it runs. -/
def status? (table : ProcessTable) (number : Nat) : Option ExitStatus :=
  (table.processes.find? (·.number = number)).bind Shell.Process.ended

/-- Whether a process has not ended. -/
def isRunning (table : ProcessTable) (number : Nat) : Bool :=
  match table.processes.find? (·.number = number) with
  | some process => process.ended.isNone
  | none => false

/-- Sends a signal to all processes of a group. -/
def signal (group : Nat) (signal : Signal) (table : ProcessTable) : ProcessTable :=
  { table with
    processes := table.processes.map fun process =>
      if process.group = group then process.signal signal else process }

/-- Forgets a process; what it started goes on. -/
def forget (number : Nat) (table : ProcessTable) : ProcessTable :=
  { table with processes := table.processes.filter (·.number != number) }

/-- Some process can still write to the log of a process. -/
def isLogged (owner : Nat) (table : ProcessTable) : Bool :=
  let logs := (table.opened.filter fun entry => entry.2 = .log owner).map Prod.fst
  table.processes.any fun process => process.descriptors.any fun entry => logs.contains entry.2

/-! ## 3. Time -/

/-- Time passes up to a moment. -/
def pass (now : Moment) (table : ProcessTable) (files : FileTree) : ProcessTable × FileTree :=
  let system : Shell.System :=
    Shell.System.run { table with now, files := { files with clock := clockStart + now } }
  (system.toTable, system.files)

/-- How long time passes at once. -/
def tick : Nat := second / 100

/-- Time passes until `done` holds, for at most `fuel` ticks; whether it does in the end. -/
def passUntil (done : ProcessTable → FileTree → Bool) :
    (fuel : Nat) → ProcessTable → FileTree → Bool × ProcessTable × FileTree
  | 0, table, files => (done table files, table, files)
  | fuel + 1, table, files =>
    if done table files then (true, table, files)
    else
      let (table, files) := pass (table.now + tick) table files
      passUntil done fuel table files

end ProcessTable

end RenderSync
