import RenderSync.Shell.Utility.Basic
import RenderSync.Shell.Utility.Records.Memory
import RenderSync.Shell.Utility.Records.Syntax

/-!
# Reading and printing of programs for records

What a program for records has to do with others: it reads records from its input, from files and
from what commands print, and prints to files and commands.  A command that something is printed to
runs when no more comes; what was printed before is written when it is named first.
-/

namespace RenderSync.Shell.Records

/-- What does not change while a program is on. -/
structure Setting where
  call : Call
  program : Program

/-- What is done with a value. -/
abbrev Next (α : Type) := α → Memory → Course

/-! ## 1. Ends -/

/-- The status that tells a program how a command has ended. -/
def endingOf (report : Report) : Int :=
  match report.outcome with
  | .ok (.exited code) => code
  | .ok (.signaled number) => 256 + number
  | .error fault => fault.status

/-- Lets a shell run a command. -/
def running (command : String) (input : Option String) (captures : Bool)
    (next : Report → Course) : Course :=
  .run { words := ["sh", "-c", command], input, captures } next

/-- Writes what was printed to a file. -/
def writesFile (setting : Setting) (output : Output) (next : Course) : Course :=
  let text := String.join output.pending.reverse
  if text = "" then next
  else
    .look fun files =>
      let old := match files.read? (setting.call.path output.name) with
        | some bytes => Octets.ofBytes bytes
        | none => ""
      match setting.call.writing files output.name (old ++ text).toList with
      | some files => .put files next
      | none => next

/-- Closes an output; how its command has ended. -/
def closing (setting : Setting) (output : Output) (next : Int → Course) : Course :=
  if output.isCommand then
    running output.name (some (String.join output.pending.reverse)) false fun report =>
      next (endingOf report)
  else writesFile setting output (next 0)

/-- Closes outputs one after the other. -/
def closingAll (setting : Setting) : List Output → Course → Course
  | [], next => next
  | output :: rest, next => closing setting output fun _ => closingAll setting rest next

/-- Writes what was printed to files. -/
def flushingFiles (setting : Setting) : List Output → Course → Course
  | [], next => next
  | output :: rest, next =>
    if output.isCommand then flushingFiles setting rest next
    else writesFile setting output (flushingFiles setting rest next)

/-- Writes all that was printed. -/
def flushing (setting : Setting) (next : Memory → Course) (memory : Memory) : Course :=
  memory.flushed fun memory =>
    flushingFiles setting memory.outputs <| next
      { memory with
        outputs := memory.outputs.map fun output =>
          if output.isCommand then output else { output with pending := [] } }

/-- The end of a program. -/
def ends (setting : Setting) (memory : Memory) : Course :=
  closingAll setting memory.outputs <|
    .printing (String.join memory.pending.reverse) (.finish (memory.status % 256))

/-- The end of a program that cannot go on. -/
def fails (setting : Setting) (message : String) (memory : Memory) : Course :=
  ends setting { memory with status := 2 } |> fun course =>
    .complaining (setting.call.name ++ ": " ++ message ++ "\n") course

/-- The end of a program that went wrong at a record. -/
def failsAt (setting : Setting) (message : String) (memory : Memory) : Course :=
  fails setting ("run time error: " ++ message ++ "\n\tFILENAME=\"" ++ memory.text "FILENAME" ++
    "\" FNR=" ++ memory.text "FNR" ++ " NR=" ++ memory.text "NR") memory

/-! ## 2. Printing -/

/-- Prints to a file or a command. -/
def printsTo (setting : Setting) (direction : Direction) (name text : String)
    (next : Memory → Course) (memory : Memory) : Course :=
  let isCommand : Bool := direction = .command
  if !isCommand && (name = "/dev/stdout" || name = "-") then memory.printed text next
  else if !isCommand && name = "/dev/stderr" then .complaining text (next memory)
  else
    match memory.outputs.find? fun output => output.name = name && output.isCommand = isCommand with
    | some output =>
      let others := memory.outputs.filter fun other =>
        !(other.name = name && other.isCommand = isCommand)
      next { memory with
        outputs := { output with pending := text :: output.pending } :: others }
    | none =>
      let opened (memory : Memory) : Memory :=
        { memory with outputs := ⟨name, isCommand, [text]⟩ :: memory.outputs }
      if isCommand then flushing setting (fun memory => next (opened memory)) memory
      else
        .look fun files =>
          let path := setting.call.path name
          let prepared : Option FileTree :=
            if direction = .append && (files.read? path).isSome then some files
            else setting.call.writing files name []
          match prepared with
          | some files => .put files (next (opened memory))
          | none =>
            fails setting ("cannot open \"" ++ name ++ "\" for output (" ++
              setting.call.unreadable name ++ ")") memory

/-- Closes all that goes by a name; how its command has ended, or minus one if there is nothing. -/
def closesNamed (setting : Setting) (name : String) (next : Next Int) (memory : Memory) : Course :=
  let outputs := memory.outputs.filter (·.name = name)
  let source := memory.sources.lookup name
  let left := { memory with
    outputs := memory.outputs.filter (·.name ≠ name)
    sources := memory.sources.filter (·.1 ≠ name) }
  match outputs, source with
  | [], none => next (-1) left
  | [], some source => next source.status left
  | output :: rest, _ =>
    closing setting output fun status => closingAll setting rest (next status left)

/-! ## 3. Reading -/

/-- The next record of a source; `fuel` bounds how often more of it comes. -/
def pulls (ending : Ending) (next : Option (List Char) → Source → Course) :
    (fuel : Nat) → Source → Course
  | 0, source => next none source
  | fuel + 1, source =>
    match ending.cut source.more.isNone source.rest, source.more with
    | .record text rest, _ => next (some text) { source with rest }
    | .more, some descriptor =>
      .take descriptor 4096 fun
        | some text => pulls ending next fuel { source with rest := source.rest ++ text.toList }
        | none => pulls ending next fuel { source with more := none }
    | _, _ => next none source

/-- How often more of a source may come for one record. -/
def mostPulls : Nat := 1000000

/-- The next record of a source. -/
def pulling (memory : Memory) (source : Source) (next : Option (List Char) → Source → Course) :
    Course :=
  pulls (Ending.ofText (memory.text "RS")) next mostPulls source

/-- The file of a name as a source. -/
def opens (setting : Setting) (name : String) (next : Except String Source → Course) : Course :=
  if name = "-" || name = "/dev/stdin" then next (.ok ⟨[], some 0, 0⟩)
  else
    .look fun files =>
      match { setting.call with files }.contents name with
      | .ok text => next (.ok ⟨text.toList, none, 0⟩)
      | .error problem => next (.error problem)

/-- An argument as an assignment. -/
def assignmentIn? (argument : String) : Option (String × Cell) :=
  match argument.toList.span (· ≠ '=') with
  | (name, _ :: value) =>
    if name.head?.any startsName && name.all isNameChar then
      some (String.ofList name, .found (String.ofList (unescaped value.length value)))
    else none
  | (_, []) => none

/-- The next record of the input, which comes from the files that the arguments name; `fuel` bounds
how many. -/
def nextRecord (setting : Setting) (next : Next (Option String)) :
    (fuel : Nat) → Memory → Course
  | 0, memory => next none memory
  | fuel + 1, memory =>
    match memory.main with
    | some source =>
      pulling memory source fun
        | some text, source =>
          let memory := ({ memory with main := some source }.counted "NR").counted "FNR"
          next (some (String.ofList text)) memory
        | none, _ => nextRecord setting next fuel { memory with main := none }
    | none =>
      if toInteger (memory.global "ARGC").toNumber ≤ memory.place then
        if memory.reads then next none memory
        else nextRecord setting next fuel
          { memory with main := some ⟨[], some 0, 0⟩, reads := true }
      else
        let (argument, memory) := memory.withTable "ARGV" fun table =>
          match table.reach false (.number memory.place) with
          | (cell, table) => (cell, table)
        let memory := { memory with place := memory.place + 1 }
        match memory.textOf (argument.getD .nothing) with
        | "" => nextRecord setting next fuel memory
        | name =>
          match assignmentIn? name with
          | some (variable_, cell) => nextRecord setting next fuel (memory.assign variable_ cell)
          | none =>
            opens setting name fun
              | .ok source =>
                let memory := (memory.setGlobal "FILENAME" (.text name)).setGlobal "FNR" (.number 0)
                nextRecord setting next fuel { memory with main := some source, reads := true }
              | .error problem =>
                fails setting ("cannot open \"" ++ name ++ "\" (" ++ problem ++ ")") memory

/-- The next record of a file or of what a command prints: one, zero at the end, or minus one if
there is no such file. -/
def readsNamed (setting : Setting) (isCommand : Bool) (name : String)
    (next : Int → Option String → Memory → Course) (memory : Memory) : Course :=
  let pullFrom (source : Source) (memory : Memory) : Course :=
    pulling memory source fun text source =>
      let memory := { memory with sources := Memory.replaced name source memory.sources }
      match text with
      | some text => next 1 (some (String.ofList text)) memory
      | none => next 0 none memory
  match memory.sources.lookup name with
  | some source => pullFrom source memory
  | none =>
    if isCommand then
      flushing setting (fun memory =>
        running name none true fun report =>
          pullFrom ⟨report.output.toList, none, endingOf report⟩ memory) memory
    else
      opens setting name fun
        | .ok source => pullFrom source memory
        | .error _ => next (-1) none memory

end RenderSync.Shell.Records
