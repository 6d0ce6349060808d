import RenderSync.Shell.Utility.Records.Evaluation
import RenderSync.Shell.Utility.Records.Reader

/-!
# Working on records

The utility that reads records and carries out the rules of a program for them: those for the start
first, then the others for every record, and those for the end.
-/

namespace RenderSync.Shell.Records

/-- How long a program goes on at most. -/
def mostSteps : Nat := 100000000

/-- What a program remembers at the start. -/
def remembered (setting : Setting) (separator : Option String) (assigned : List (String × Cell))
    (arguments : List String) : Memory :=
  let texts : List (String × Slot) :=
    [("FS", " "), ("OFS", " "), ("ORS", "\n"), ("RS", "\n"), ("SUBSEP", "\x1c"),
      ("CONVFMT", "%.6g"), ("OFMT", "%.6g"), ("FILENAME", "")].map fun (name, text) =>
        (name, .cell (.text text))
  let numbers : List (String × Slot) :=
    [("NF", 0), ("NR", 0), ("FNR", 0), ("RSTART", 0), ("RLENGTH", -1),
      ("ARGC", ((arguments.length + 1 : Nat) : Int))].map fun (name, n) =>
        (name, .cell (.ofInt n))
  let memory : Memory := { globals := texts ++ numbers }
  let ((), memory) := memory.withTable "ARGV" fun table =>
    ((), (setting.call.name :: arguments).zipIdx.foldl (fun table (argument, n) =>
      table.put (.number (n : Nat)) (.found argument)) table)
  let ((), memory) := memory.withTable "ENVIRON" fun table =>
    ((), setting.call.environment.foldl (fun table (name, value) =>
      table.put (.text name) (.found value)) table)
  let memory := match separator with
    | some text => memory.setGlobal "FS" (.text (String.ofList (unescaped text.length text.toList)))
    | none => memory
  assigned.foldl (fun memory (name, cell) => memory.assign name cell) memory

/-- Carries out actions one after the other; `next` follows the last. -/
def carriesOut (setting : Setting) (flow : Flow) (next : Memory → Course) :
    List (List Statement) → Memory → Course
  | [], memory => next memory
  | action :: rest, memory =>
    execAll setting mostSteps action { flow with done := carriesOut setting flow next rest } memory

/-- The actions of the rules for the start, or for the end. -/
def actionsOf (program : Program) (atStart : Bool) : List (List Statement) :=
  program.rules.filterMap fun rule =>
    match rule.scope with
    | .start => if atStart then rule.action else none
    | .finish => if atStart then none else rule.action
    | _ => none

/-- The end of the input. -/
def finishes (setting : Setting) (memory : Memory) : Course :=
  let flow : Flow := ⟨ends setting, ends setting, ends setting, fun _ => ends setting,
    fun _ => ends setting, ends setting⟩
  carriesOut setting flow (ends setting) (actionsOf setting.program false) memory

/-- Applies rules, which are numbered, to a record. -/
def applies (setting : Setting) (flow : Flow) : List (Rule × Nat) → Memory → Course
  | [], memory => flow.done memory
  | (rule, number) :: rest, memory =>
    let goOn : Memory → Course := applies setting flow rest
    let act (memory : Memory) : Course :=
      match rule.action with
      | some action => execAll setting mostSteps action { flow with done := goOn } memory
      | none => memory.printed (memory.record ++ memory.text "ORS") goOn
    match rule.scope with
    | .start | .finish => goOn memory
    | .every => act memory
    | .when condition =>
      eval setting flow mostSteps condition (fun cell memory =>
        if cell.holds then act memory else goOn memory) memory
    | .between first last =>
      let closes (memory : Memory) : Course :=
        eval setting flow mostSteps last (fun cell memory =>
          let others := memory.ranges.filter (· ≠ number)
          act { memory with ranges := if cell.holds then others else number :: others }) memory
      if memory.ranges.contains number then closes memory
      else
        eval setting flow mostSteps first (fun cell memory =>
          if cell.holds then closes memory else goOn memory) memory

/-- Reads records and applies the rules; `fuel` bounds how many. -/
def worksThrough (setting : Setting) : (fuel : Nat) → Memory → Course
  | 0, memory => finishes setting memory
  | fuel + 1, memory =>
    nextRecord setting (fun text memory =>
      match text with
      | none => finishes setting memory
      | some text =>
        let again (memory : Memory) : Course := .look fun _ => worksThrough setting fuel memory
        let flow : Flow := ⟨again, again, again, fun _ => again,
          fun skips memory => again (if skips then { memory with main := none } else memory),
          finishes setting⟩
        applies setting flow setting.program.rules.zipIdx (memory.withRecord text))
      mostPulls memory

/-- Carries out a program. -/
def starts (setting : Setting) (memory : Memory) : Course :=
  let reads := setting.program.rules.any fun rule =>
    match rule.scope with
    | .start => false
    | _ => true
  let goOn (memory : Memory) : Course :=
    if reads then worksThrough setting mostSteps memory else ends setting memory
  let flow : Flow := ⟨goOn, goOn, goOn, fun _ => goOn, fun _ => finishes setting,
    finishes setting⟩
  carriesOut setting flow goOn (actionsOf setting.program true) memory

/-- The options of the utility, in front of its operands. -/
def grammar : Grammar := ⟨"", "FvfW", "", [("version", 'V')], true⟩

/-- The operands that are read from elsewhere than files. -/
def operandsRead (arguments : List String) : List String :=
  match grammar.split arguments with
  | .error _ => []
  | .ok options =>
    let programs := options.values 'f'
    let operands := if programs = [] then options.operands.drop 1 else options.operands
    programs ++ operands.filter fun operand =>
      operand ≠ "-" && operand ≠ "/dev/stdin" && (assignmentIn? operand).isNone

end Records

namespace Call

/-- The text of a program in a file. -/
def programText (call : Call) (file : String) : Except String String :=
  match call.contents file with
  | .ok text => .ok text
  | .error problem => .error ("cannot open \"" ++ file ++ "\" (" ++ problem ++ ")")

/-- Works on records. -/
def processRecords (call : Call) : Course :=
  match Records.grammar.split call.arguments with
  | .error message =>
    let letter := (message.toList.reverse.drop 1).head?.getD ' '
    (call.complains ("not an option: -" ++ letter.toString) 2).course
  | .ok options =>
    if options.has 'V' ||
        (options.value? 'W').any fun text => "v".toList.isPrefixOf text.toList then
      (call.gives "mawk 1.3.4 20240123\n").course
    else
      let files := options.values 'f'
      let text : Except String String :=
        if files = [] then
          match options.operands with
          | [] => .error ""
          | text :: _ => .ok text
        else
          (files.mapM call.programText).map "\n".intercalate
      match text with
      | .error "" =>
        ({ call.answers 0 with
          said := [(2, "Usage: " ++ call.name ++ " [Options] [Program] [file ...]\n")] }).course
      | .error message => (call.complains message 2).course
      | .ok text =>
        match Records.Program.ofText text with
        | .error message => (call.complains message 2).course
        | .ok program =>
          let operands := if files = [] then options.operands.drop 1 else options.operands
          let setting : Records.Setting := ⟨call, program⟩
          let assigned := (options.values 'v').filterMap Records.assignmentIn?
          Records.starts setting
            (Records.remembered setting (options.value? 'F') assigned operands)

end Call

end RenderSync.Shell
