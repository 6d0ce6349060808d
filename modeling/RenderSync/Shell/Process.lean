import RenderSync.Files.Tree
import RenderSync.Notifications
import RenderSync.Process.Signal
import RenderSync.Shell.Arithmetic
import RenderSync.Shell.Course
import RenderSync.Shell.Pattern
import RenderSync.Shell.Variable

/-!
# Processes

A process carries out an agenda of tasks: the first one is taken and perhaps puts others in its
place.  What it has besides, variables, functions and descriptors, is what a shell has; a program
that is no shell just does not use it.  The process that a shell makes of itself for a part of a
script is a copy with another agenda.
-/

namespace RenderSync.Shell

/-! ## 1. Tasks -/

/-- Where a statement stands: `tested` if its failure is looked at, `last` if nothing comes after
it. -/
structure Context where
  tested : Bool
  last : Bool
deriving DecidableEq, Repr, Inhabited

namespace Context

/-- A place of its own. -/
def plain : Context := ⟨false, false⟩

/-- A place where failure is looked at. -/
def condition : Context := ⟨true, false⟩

/-- The same place, but something comes after it. -/
def inner (context : Context) : Context := { context with last := false }

end Context

/-- What a variable was before it was covered up; `none` if there was none. -/
abbrev Covered := List (String × Option Variable)

/-- A program on its way through the texts that it reads. -/
structure Feed where
  fields : List String
  /-- What was read, by operand. -/
  inputs : List (String × String)
  /-- The operand that is being read, and the descriptor that leads there. -/
  operand : String
  descriptor : Nat
  gathered : List UInt8
  /-- The operands that are still to be read. -/
  waiting : List String
deriving Inhabited

/-- A program that waits for another one which it has started. -/
structure Hearing where
  child : Nat
  /-- Where what the child prints comes from. -/
  source : Option Nat
  gathered : List UInt8
  watch : Option Watch
  /-- When the child has taken too long. -/
  deadline : Option Moment
  isLate : Bool
deriving Inhabited

/-- What is still to be done. -/
inductive Task where
  /-- The rest of a script. -/
  | source (source : Source) (context : Context)
  /-- A statement; `captured` are the outputs of the scripts in its words, as far as these were
  run. -/
  | run (statement : Statement) (captured : List String) (context : Context)
  /-- Takes what a child writes until it ends, and then runs the statement. -/
  | capture (descriptor child : Nat) (gathered : List UInt8) (statement : Statement)
      (captured : List String) (context : Context)
  /-- Takes over how the last of some children ends, when all have ended. -/
  | await (children : List Nat)
  /-- The same, unless something is to be done about a signal. -/
  | attend (children : List Nat) (wanted : Bool)
  /-- Takes over how the first of some children ends. -/
  | attendAny (children : List Nat) (name : Option String)
  /-- A command of the shell itself; an error in one that is `special` ends the shell. -/
  | invoke (fields : List String) (special : Bool) (context : Context)
  /-- Puts a program in the place of the shell. -/
  | launch (fields : List String)
  /-- A program that has taken the place of the shell. -/
  | program (fields : List String)
  /-- A shell that reads its script. -/
  | typed (gathered : List UInt8)
  /-- A program that reads until there is no more. -/
  | feed (feed : Feed)
  /-- A program that writes what it reads to all of some descriptors. -/
  | pour (descriptors : List Nat)
  /-- A program that follows a file which grows. -/
  | trail (place : Place) (offset : Nat)
  /-- A program on its course. -/
  | follow (course : Course)
  /-- A program that hears from another one. -/
  | hear (hearing : Hearing) (next : Report → Course)
  /-- Waits for the other side of pipes that were opened. -/
  | meet
  /-- Writes for a command. -/
  | emit (descriptor : Nat) (text : String) (command : String)
  /-- Looks at the status and does the one or the other. -/
  | decide (yes no : List Task)
  /-- The end of the body of a loop. -/
  | again (loop : Statement) (context : Context)
  /-- The end of the condition of a loop whose body gave a status. -/
  | judge (loop : Statement) (status : Nat) (context : Context)
  /-- The end of a round of a loop over words. -/
  | next (name : String) (items : List String) (body : List Statement) (context : Context)
  | setStatus (status : Nat)
  | invert
  /-- Keeps the status as that of the last pipeline. -/
  | tally
  /-- Gives a variable elements; those without a key get the next number. -/
  | fill (name : String) (appends : Bool) (items : List (Option String × String))
  /-- Ends the shell after a failure on a line if it was told to do so. -/
  | check (line : Nat)
  /-- Puts descriptors back; those without another are closed. -/
  | restore (saved : List (Nat × Option Nat))
  /-- Uncovers variables. -/
  | uncover (covered : Covered)
  /-- Complaints are made in another name. -/
  | relabel (label : String)
  /-- The end of a function: its arguments and variables go. -/
  | leave (arguments : List String)
  /-- The end of a script that was read into another. -/
  | return_
  /-- What a script had changed that was read into another: its arguments go unless `keeps` says
  otherwise. -/
  | depart (arguments : List String) (keeps : Bool)
  /-- The end of what was done about a signal. -/
  | resume (status : Nat)
  /-- Ends the shell. -/
  | exit (status : Nat)
  /-- Ends the process, and nothing is done about it. -/
  | finish (status : Nat)
deriving Inhabited

/-! ## 2. Processes -/

/-- One side of a pipe with a name was opened, and the other side is awaited. -/
structure Knock where
  pipe : Nat
  /-- A writer is awaited, or a reader. -/
  forWriter : Bool
  /-- How often the other side had been opened by then. -/
  before : Nat
deriving DecidableEq, Repr, Inhabited

/-- A function that is on, or a script that was read in: its name, where it is written, and the line
where it was called. -/
structure Calling where
  name : String
  script : String
  line : Nat
deriving DecidableEq, Repr, Inhabited

/-- A process. -/
structure Process where
  number : Nat
  parent : Nat
  /-- Signals may go to all processes of a group. -/
  group : Nat
  /-- The shell that this one is a part of. -/
  shell : Nat
  /-- The name that the script goes by. -/
  name : String
  arguments : List String
  bindings : List (String × Variable)
  functions : List (String × Statement)
  /-- The letters of the options that are on. -/
  options : List Char
  /-- What is done about signals; an empty text is nothing. -/
  traps : List (Signal × String)
  /-- Signals about which something is still to be done. -/
  caught : List Signal
  here : String
  creationMask : Nat
  /-- Streams by descriptor; from a hundred on, those that were put aside. -/
  descriptors : List (Nat × Nat)
  agenda : List Task
  documents : List Word
  /-- The line of the command that is on. -/
  line : Nat
  /-- The command in whose name complaints are made, with a colon behind it. -/
  label : String
  status : Nat
  /-- The status of the last script in a word. -/
  capturedStatus : Nat
  wakeAt : Option Moment
  paused : Bool
  /-- Signals that have arrived during a pause. -/
  held : List Signal
  /-- The last process that was sent to the background. -/
  background : Option Nat
  /-- What the functions that are on have covered up. -/
  frames : List Covered
  /-- How far the options in one argument were read. -/
  optionPlace : Nat
  ended : Option ExitStatus
  /-- The job of its parent in the background that it belongs to. -/
  job : Option Nat
  /-- It has ended, and its parent has asked how: it is kept until another one takes its place. -/
  isNoted : Bool
  knocks : List Knock
  /-- The shell knows more than the plain one: elements, sums and conditions as commands, and other
  things. -/
  isRich : Bool := false
  /-- Features that are on, by name. -/
  features : List String := []
  /-- Words that stand for others where a command starts. -/
  aliases : List (String × String) := []
  /-- The functions that are on, the latest first. -/
  calls : List Calling := []
  /-- The statuses of the stages of the last pipeline. -/
  outcomes : List Nat := [0]
  /-- What the next random number is made of. -/
  seed : Nat := 1
  /-- Directories that were put aside, the latest first. -/
  places : List String := []
deriving Inhabited

/-- The first descriptor that is put aside. -/
def firstAside : Nat := 100

namespace Process

/-- Sets the status. -/
def withStatus (status : Nat) (process : Process) : Process := { process with status }

/-- Puts tasks in front of the others. -/
def plan (tasks : List Task) (process : Process) : Process :=
  { process with agenda := tasks ++ process.agenda }

/-- An option is on. -/
def hasOption (letter : Char) (process : Process) : Bool := process.options.contains letter

/-- A feature is on. -/
def hasFeature (name : String) (process : Process) : Bool := process.features.contains name

/-- How the process reads scripts. -/
def manner (process : Process) : Manner :=
  ⟨process.isRich, process.hasFeature "extglob",
    if process.isRich && !process.hasFeature "expand_aliases" then [] else process.aliases⟩

/-- The name of the variable that a name means. -/
def meantFuel (process : Process) : (fuel : Nat) → String → String
  | 0, name => name
  | fuel + 1, name =>
    match process.bindings.lookup name with
    | some entry =>
      if entry.has 'n' then (entry.value.map (process.meantFuel fuel)).getD name else name
    | none => name

/-- The name of the variable that a name means, which may have a few others in between. -/
def meant (name : String) (process : Process) : String := process.meantFuel 8 name

/-- The value of a variable. -/
def lookup (name : String) (process : Process) : Option String :=
  (process.bindings.lookup (process.meant name)).bind Variable.value

/-- Puts a variable in the place of the one with its name. -/
def bind (name : String) (value : Variable) (process : Process) : Process :=
  { process with
    bindings := (name, value) :: process.bindings.filter (·.1 != name) }

/-- Takes a variable away. -/
def unbind (name : String) (process : Process) : Process :=
  { process with bindings := process.bindings.filter (·.1 != name) }

/-- A variable as it is, perhaps without anything. -/
def entry (name : String) (process : Process) : Variable :=
  (process.bindings.lookup name).getD ⟨.nothing, process.hasOption 'a', false, []⟩

/-- The name of a variable and the key in brackets behind it, if there is one. -/
def withKey (text : String) : String × Option String :=
  match text.toList.span (· ≠ '[') with
  | (name, _ :: key) => (String.ofList name, some (String.ofList key.dropLast))
  | (name, []) => (String.ofList name, none)

/-- The key that a number means; a number below zero counts from the end. -/
def keyOf (content : Content) (n : Int) : Option String :=
  let n := if n < 0 then n + content.bound else n
  if n < 0 then none else some (signedDecimal n)

/-- The value of a name in a sum, perhaps with a key. -/
def termIn (process : Process) (name : String) : String :=
  let (name, key) := withKey name
  let content := (process.entry (process.meant name)).content
  match key with
  | none => content.value.getD ""
  | some key =>
    let key := if content.isTable then some key
      else ((integer? false key.toList).bind (keyOf content))
    ((key.bind content.element?)).getD ""

/-- How sums are read. -/
def sumManner (process : Process) : SumManner :=
  ⟨process.isRich, fun name => (process.entry (process.meant name)).content.isTable⟩

/-- Works out a sum.  A name whose value is no number stands for another sum in a rich shell; `fuel`
bounds how often. -/
def sumFuel (process : Process) : (fuel : Nat) → List Char → Except String (Int × Assigned)
  | 0, _ => .error "expression recursion level exceeded"
  | fuel + 1, text =>
    let value (name : String) : Except String Int :=
      let text := process.termIn name
      if text.toList.all isSpace then .ok 0
      else
        match integer? true text.toList with
        | some n => .ok (clamp n)
        | none =>
          if process.isRich then (process.sumFuel fuel text.toList).map Prod.fst
          else .error ("Illegal number: " ++ text)
    if process.isRich && text.all isSpace then .ok (0, [])
    else workOut process.sumManner value text

/-- Works out a sum. -/
def sum (text : List Char) (process : Process) : Except String (Int × Assigned) :=
  process.sumFuel 64 text

/-- What becomes of a value that a variable with these properties gets; `old` is what it is put
behind. -/
def shaped (entry : Variable) (old : Option String) (value : String) (process : Process) :
    Except String String :=
  if entry.has 'i' then do
    let (a, _) ← process.sum ((old.getD "").toList)
    let (b, _) ← process.sum value.toList
    return signedDecimal (wrap (a + b))
  else
    let text := old.getD "" ++ value
    .ok (if entry.has 'l' then text.map Char.toLower
      else if entry.has 'u' then text.map Char.toUpper else text)

/-- What is said about a variable that may not be changed. -/
def protected_ (name : String) (process : Process) : String :=
  name ++ (if process.isRich then ": readonly variable" else ": is read only")

/-- Sets a variable or an element, or puts the value behind the one that there is; a complaint if
it may not be changed. -/
def store (name : String) (key : Option String) (appends : Bool) (value : String)
    (process : Process) : Except String Process :=
  let name := process.meant name
  let (name, key) := match key, withKey name with
    | none, (name, key) => (name, key)
    | some key, (name, _) => (name, some key)
  let old := process.entry name
  if old.readOnly then .error (process.protected_ name)
  else do
    let present := match key with
      | some key => old.content.element? key
      | none => old.value
    let value ← process.shaped old (if appends then present else none) value
    let content := match key with
      | some key => old.content.put key value
      | none => old.content.set value
    return process.bind name
      { old with content, exported := old.exported || process.hasOption 'a' }

/-- Sets a variable; a complaint if it may not be changed. -/
def assign (name value : String) (process : Process) : Except String Process :=
  process.store name none false value

/-- Takes over what a sum has assigned. -/
def assignAll (assigned : Assigned) (process : Process) : Except String Process :=
  assigned.reverse.foldlM (fun process (name, n) =>
    let (name, key) := withKey name
    let content := (process.entry (process.meant name)).content
    match key with
    | none => process.assign name (signedDecimal n)
    | some key =>
      let found := if content.isTable then some key
        else ((integer? false key.toList).bind (keyOf content))
      match found with
      | some found => process.store name (some found) false (signedDecimal n)
      | none => .error (name ++ "[" ++ key ++ "]: bad array subscript")) process

/-- Elements by number, those without one behind the one before. -/
def listOf (entry : Variable) (process : Process) (start : Content)
    (items : List (Option String × String)) : Except String Content := do
  let step (state : Content × Nat) (item : Option String × String) :
      Except String (Content × Nat) := do
    let (content, next) := state
    let (key, value) := item
    let n : Nat ← match key with
      | none => pure next
      | some text =>
        let (n, _) ← process.sum text.toList
        let n := if n < 0 then n + content.bound else n
        if n < 0 then throw ("[" ++ text ++ "]: bad array subscript") else pure n.toNat
    let value ← process.shaped entry none value
    return (content.put (decimal n) value, n + 1)
  let (content, _) ← items.foldlM step (start, start.bound)
  return content

/-- Gives a variable elements, behind those that it has if `appends` says so. -/
def fill (name : String) (appends : Bool) (items : List (Option String × String))
    (process : Process) : Except String Process :=
  let name := process.meant name
  let old := process.entry name
  if old.readOnly then .error (process.protected_ name)
  else
    let start : Content := match old.content with
      | .table items => .table (if appends then items else [])
      | other => .list (if appends then other.asList else [])
    let content : Except String Content :=
      if start.isTable then .ok (start.putAll none items) else process.listOf old start items
    content.map fun content => process.bind name { old with content }

/-- Uncovers variables. -/
def uncover (covered : Covered) (process : Process) : Process :=
  covered.foldl (fun process (name, old) =>
    match old with
    | some old => process.bind name old
    | none => process.unbind name) process

/-- The variables that programs get, by name. -/
def environment (process : Process) : List (String × String) :=
  process.bindings.filterMap fun (name, entry) =>
    if entry.exported then entry.value.map (name, ·) else none

/-- The stream that a descriptor leads to. -/
def stream? (descriptor : Nat) (process : Process) : Option Nat :=
  process.descriptors.lookup descriptor

/-- Lets a descriptor lead to a stream. -/
def lead (descriptor stream : Nat) (process : Process) : Process :=
  { process with
    descriptors := (descriptor, stream) :: process.descriptors.filter (·.1 != descriptor) }

/-- Closes a descriptor. -/
def close (descriptor : Nat) (process : Process) : Process :=
  { process with descriptors := process.descriptors.filter (·.1 != descriptor) }

/-- A descriptor for a stream that is put aside. -/
def asideFor (process : Process) : Nat :=
  (process.descriptors.map Prod.fst).foldl (fun free used => max free (used + 1)) firstAside

/-- Closes the descriptors that were put aside. -/
def withoutAside (process : Process) : Process :=
  { process with descriptors := process.descriptors.filter (·.1 < firstAside) }

/-- Drops what is done about signals; those that are ignored still are. -/
def withoutTraps (process : Process) : Process :=
  { process with traps := process.traps.filter (·.2 = ""), caught := [] }

/-- Ends. -/
def end_ (status : ExitStatus) (process : Process) : Process :=
  { process with agenda := [], ended := some status, descriptors := [] }

/-- Does what is to be done at the end, and ends as a signal says. -/
def endWith (action : String) (signal : Signal) (process : Process) : Process :=
  { process with
    traps := process.traps.filter (·.1 != .atExit)
    agenda := [.source (.start action.toList 1 process.documents) .plain, .follow (.fall signal)]
    wakeAt := none }

/-- A signal takes effect. -/
def obey (signal : Signal) (process : Process) : Process :=
  match process.traps.lookup signal with
  | some "" => process
  | some _ =>
    if process.caught.contains signal then process
    else { process with caught := process.caught ++ [signal] }
  | none =>
    if signal.isHarmless then process
    else if signal.isPause then { process with paused := true }
    else
      match if process.isRich then process.traps.lookup .atExit else none with
      | some action => process.endWith action signal
      | none => process.end_ (.signaled signal.number)

/-- A signal arrives.  During a pause it is kept, unless it ends the process or the pause. -/
def signal (signal : Signal) (process : Process) : Process :=
  if process.ended.isSome || signal = .none_ then process
  else if signal = .kill then process.end_ (.signaled signal.number)
  else if signal = .continue_ then
    process.held.foldl (fun process signal => process.obey signal)
      ({ process with paused := false, held := [] }.obey signal)
  else if process.paused && !signal.isPause then
    { process with held := process.held ++ [signal] }
  else process.obey signal

end Process

end RenderSync.Shell
