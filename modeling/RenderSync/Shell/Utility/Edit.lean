import RenderSync.Shell.Utility.Edit.Script
import RenderSync.Shell.Utility.Files

/-!
# Editing lines

A script goes over the lines of some texts.  For every line it goes through its steps, prints what
has become of the line, and then what was put off until then.  Another text is kept beside the line
and may be exchanged with it.

Editing knows characters.  What it prints goes to sinks: the output, a file that is edited in place,
or files that the script names.
-/

namespace RenderSync.Shell

/-- A text to be edited: its lines, and whether each of them is complete. -/
structure EditSource where
  name : String
  lines : List (List Char × Bool)
deriving Inhabited

/-- What is printed behind a line. -/
inductive EditDelayed where
  | text (text : List Char)
  | line (text : List Char)
deriving Inhabited

/-- Where editing is. -/
structure EditState where
  line : List Char := []
  /-- The line has its end. -/
  isWhole : Bool := true
  kept : List Char := []
  number : Nat := 0
  name : String := "-"
  /-- The lines of this text that are still to come, and the other texts. -/
  lines : List (List Char × Bool) := []
  sources : List EditSource := []
  delayed : List EditDelayed := []
  /-- Ranges that have begun, with the number of their last line if it is known. -/
  ranges : List (Nat × Option Nat) := []
  changed : Bool := false
  recent : Option (Regex × Bool) := none
  /-- What was printed, by sink, and whether the last line there is complete. -/
  sinks : List (String × List Char × Bool) := []
  /-- The lines of other files that are still to come. -/
  readers : List (String × List (List Char)) := []
  /-- An expression was asked for that there is not. -/
  isLost : Bool := false
deriving Inhabited

/-- What does not change while a script is at work. -/
structure EditSetting where
  script : EditScript
  separator : Char
  /-- Every text has its own first and last lines. -/
  separate : Bool
  /-- What is printed takes the place of the text. -/
  inPlace : Bool
  quiet : Bool
  width : Nat
  contents : String → Option String

/-- The sink that the name of a file stands for. -/
def EditSetting.sink (setting : EditSetting) (name : String) : String :=
  if name = "/dev/stdout" && !setting.inPlace then "" else name

namespace EditState

/-! ## 1. Output -/

/-- Prints characters to a sink; `isWhole` says that the last line of it is complete. -/
def emit (sink : String) (separator : Char) (text : List Char) (isWhole : Bool)
    (state : EditState) : EditState :=
  let (before, complete) := (state.sinks.lookup sink).getD ([], true)
  let before := if complete then before else separator :: before
  { state with
    sinks := (sink, text.reverse ++ before, isWhole) :: state.sinks.filter (·.1 ≠ sink) }

/-- Prints a line to a sink. -/
def emitLine (sink : String) (separator : Char) (text : List Char) (isWhole : Bool)
    (state : EditState) : EditState :=
  if isWhole then state.emit sink separator (text ++ [separator]) true
  else state.emit sink separator text false

/-- Prints to the output. -/
def put (setting : EditSetting) (text : List Char) (state : EditState) : EditState :=
  state.emit "" setting.separator text true

/-- Prints the line. -/
def putLine (setting : EditSetting) (state : EditState) : EditState :=
  state.emitLine "" setting.separator state.line state.isWhole

/-- Prints what was put off. -/
def flush (setting : EditSetting) (state : EditState) : EditState :=
  let printed := state.delayed.foldl (fun state delayed =>
    match delayed with
    | .text [] => state
    | .text text => state.put setting text
    | .line text => state.emitLine "" setting.separator text true) state
  { printed with delayed := [] }

/-- A line as it can be seen. -/
def visible (width : Nat) (line : List Char) : List Char :=
  let shown (c : Char) : List Char :=
    match c with
    | '\\' => ['\\', '\\']
    | '\x07' => ['\\', 'a']
    | '\x08' => ['\\', 'b']
    | '\x0c' => ['\\', 'f']
    | '\n' => ['\\', 'n']
    | '\r' => ['\\', 'r']
    | '\t' => ['\\', 't']
    | '\x0b' => ['\\', 'v']
    | c =>
      if ' ' ≤ c && c ≤ '~' then [c]
      else
        let n := c.toNat
        '\\' :: Digits.ofNat (n / 64) ++ Digits.ofNat (n / 8 % 8) ++ Digits.ofNat (n % 8)
  let step (state : List Char × Nat) (c : Char) : List Char × Nat :=
    let piece := shown c
    if width > 1 && width - 1 < state.2 + piece.length then
      (state.1 ++ ['\\', '\n'] ++ piece, piece.length)
    else (state.1 ++ piece, state.2 + piece.length)
  ((Octets.ofCharacters line).foldl step ([], 0)).1 ++ ['$', '\n']

/-! ## 2. Input -/

/-- This is the last line. -/
def isLast (setting : EditSetting) (state : EditState) : Bool :=
  state.lines = [] && (setting.separate || state.sources.all (·.lines = []))

/-- Takes a line; `joined` says that it is added to the one that is there. -/
def take (joined : Bool) (line : List Char × Bool) (state : EditState) : EditState :=
  { state with
    line := if joined then state.line ++ '\n' :: line.1 else line.1
    isWhole := line.2
    number := state.number + 1 }

/-- Goes on to the next line. -/
def next? (setting : EditSetting) (joined : Bool) (state : EditState) : Option EditState :=
  let rec from_ : List EditSource → Option EditState
    | [] => none
    | source :: sources =>
      match source.lines with
      | [] => from_ sources
      | line :: lines => some ({ state with name := source.name, lines, sources }.take joined line)
  match state.lines with
  | line :: lines => some ({ state with lines }.take joined line)
  | [] => if setting.separate then none else from_ state.sources

/-! ## 3. Places -/

/-- Uses an expression; nothing stands for the one that was used before. -/
def resolve (regex : Option Regex) (folded : Bool) (state : EditState) :
    Option (Regex × Bool) × EditState :=
  match regex, state.recent with
  | some regex, _ => (some (regex, folded), { state with recent := some (regex, folded) })
  | none, some recent => (some recent, state)
  | none, none => (none, { state with isLost := true })

/-- The line is at a place. -/
def meets (setting : EditSetting) (place : EditPlace) (state : EditState) : Bool × EditState :=
  match place with
  | .line n => (n = state.number, state)
  | .every first distance =>
    (if distance = 0 then state.number = first
      else first ≤ state.number && (state.number - first) % distance = 0, state)
  | .last => (state.isLast setting, state)
  | .hit regex folded =>
    match state.resolve regex folded with
    | (some (regex, folded), state) => ((regex.find? folded [] state.line).isSome, state)
    | (none, state) => (false, state)

/-- The number of the last line of a range that begins here, if it is known. -/
def lastOf? (end_ : EditEnd) (state : EditState) : Option Nat :=
  match end_ with
  | .place (.line n) => some n
  | .place _ => none
  | .after count => some (state.number + count)
  | .multiple factor =>
    some (if factor = 0 then state.number
      else (state.number + factor - 1) / factor * factor)

/-- A step applies to the line. -/
def applies (setting : EditSetting) (place : Nat) (step : EditStep) (state : EditState) :
    Bool × EditState :=
  let closed (state : EditState) : EditState :=
    { state with ranges := state.ranges.filter (·.1 ≠ place) }
  match step.first, step.second with
  | none, _ => (true, state)
  | some first, none => state.meets setting first
  | some first, some second =>
    match state.ranges.lookup place with
    | some (some last) =>
      (state.number ≤ last, if last ≤ state.number then closed state else state)
    | some none =>
      match second with
      | .place second =>
        let (ends, state) := state.meets setting second
        (true, if ends then closed state else state)
      | _ => (true, closed state)
    | none =>
      let (begins, state) := state.meets setting first
      if begins then
        match state.lastOf? second with
        | some last =>
          (true, if last ≤ state.number then state
            else { state with ranges := (place, some last) :: state.ranges })
        | none => (true, { state with ranges := (place, none) :: state.ranges })
      else (false, state)

/-! ## 4. Substitution -/

/-- A letter as it changes on its way into a line. -/
def cased (casing : Casing) (c : Char) : Char :=
  match casing with
  | .kept => c
  | .upper => c.toUpper
  | .lower => c.toLower

/-- Characters on their way into a line: the changes of letters that are on, for all of them and
for the next one only. -/
def casedAll (all : Casing) : (once : Casing) → List Char → List Char
  | _, [] => []
  | .kept, text => text.map (cased all)
  | once, c :: text => cased once c :: text.map (cased all)

/-- A replacement with what was matched put in. -/
def replaced (found : Regex.Match) (pieces : List EditPiece) : List Char :=
  let put (state : List Char × Casing × Casing) (text : List Char) :
      List Char × Casing × Casing :=
    let (before, all, once) := state
    (before ++ casedAll all once text, all, if text = [] then once else .kept)
  (pieces.foldl (fun state piece =>
    match piece with
    | .char c => put state [c]
    | .group 0 => put state found.text
    | .group n => put state ((found.groups.lookup n).getD [])
    | .casing casing true => (state.1, state.2.1, casing)
    | .casing casing false => (state.1, casing, if casing = .kept then .kept else state.2.2))
    (([], .kept, .kept) : List Char × Casing × Casing)).1

/-- A line with matches replaced, from the `skipped`th on; whether there was any.  Nothing is no
match right behind another one (`touches`). -/
def substituted (regex : Regex) (folded : Bool) (substitution : Substitution) :
    (fuel : Nat) → (skipped : Nat) → (touches : Bool) → (before : List Char) → List Char →
      List Char × Bool
  | 0, _, _, _, rest => (rest, false)
  | fuel + 1, skipped, touches, before, rest =>
    match regex.find? folded before rest with
    | none => (rest, false)
    | some found =>
      let lead := found.before.drop before.length
      let counts := !(found.text = [] && lead = [] && touches)
      let puts := counts && skipped = 0
      let shown := lead ++ if puts then replaced found substitution.pieces else found.text
      let skipped := if counts then skipped - 1 else skipped
      let goesOn := substitution.all || !puts
      let passed := found.text.reverse ++ found.before.reverse
      match found.text, found.after with
      | [], [] => (shown, puts)
      | [], c :: after =>
        let (tail, any) := if goesOn then
          substituted regex folded substitution fuel skipped false (c :: passed) after
          else (after, false)
        (shown ++ c :: tail, any || puts)
      | _, after =>
        let (tail, any) := if goesOn then
          substituted regex folded substitution fuel skipped true passed after
          else (after, false)
        (shown ++ tail, any || puts)

/-- Replaces matches in the line. -/
def substitute (setting : EditSetting) (substitution : Substitution) (state : EditState) :
    EditState :=
  match state.resolve substitution.regex substitution.folded with
  | (none, state) => state
  | (some (regex, folded), state) =>
    let (line, any) := substituted regex folded substitution (state.line.length + 2)
      (substitution.first - 1) false [] state.line
    if !any then state
    else
      let state := { state with line, changed := true }
      let state := if substitution.prints then state.putLine setting else state
      match substitution.target with
      | some target => state.emitLine (setting.sink target) setting.separator line state.isWhole
      | none => state

/-! ## 5. Steps -/

/-- Where a script goes on. -/
inductive Course where
  | step (place : Nat)
  /-- The line is done; it is printed or not. -/
  | done (prints : Bool)
  /-- The first part of the line is done, and the rest counts as a new line. -/
  | again
  | quit (prints : Bool) (status : Nat)

/-- What a letter stands for, and where the script goes on. -/
def letter (setting : EditSetting) (next : Nat) (kind : Char) (number : Option Nat)
    (state : EditState) : Course × EditState :=
  let goesOn (state : EditState) : Course × EditState := (.step next, state)
  match kind with
  | '=' => goesOn (state.put setting (Digits.ofNat state.number ++ ['\n']))
  | 'd' => (.done false, state)
  | 'D' => if state.line.contains '\n' then (.again, state) else (.done false, state)
  | 'F' => goesOn (state.put setting (Octets.characters state.name.toList ++ ['\n']))
  | 'g' => goesOn { state with line := state.kept }
  | 'G' => goesOn { state with line := state.line ++ '\n' :: state.kept }
  | 'h' => goesOn { state with kept := state.line }
  | 'H' => goesOn { state with kept := state.kept ++ '\n' :: state.line }
  | 'l' => goesOn (state.put setting (visible (number.getD setting.width) state.line))
  | 'n' =>
    if state.isLast setting then (.done true, state)
    else
      let state := (if setting.quiet then state else state.putLine setting).flush setting
      match state.next? setting false with
      | some state => goesOn state
      | none => (.quit false 0, state)
  | 'N' =>
    if state.isLast setting then (.quit true 0, state)
    else
      let state := state.flush setting
      match state.next? setting true with
      | some state => goesOn state
      | none => (.quit true 0, state)
  | 'p' => goesOn (state.putLine setting)
  | 'P' =>
    goesOn (state.emitLine "" setting.separator (state.line.takeWhile (· ≠ '\n')) true)
  | 'q' => (.quit true (number.getD 0), state)
  | 'Q' => (.quit false (number.getD 0), { state with delayed := [] })
  | 'x' => goesOn { state with line := state.kept, kept := state.line }
  | 'z' => goesOn { state with line := [] }
  | _ => goesOn state

/-- What a step with a file does. -/
def file (setting : EditSetting) (kind : Char) (name : String) (state : EditState) : EditState :=
  match kind with
  | 'r' =>
    let text := Octets.characters (((setting.contents name).getD "").toList)
    { state with delayed := state.delayed ++ [.text text] }
  | 'R' =>
    let lines := (state.readers.lookup name).getD
      (Call.linesOf ((setting.contents name).getD "") |>.map Octets.characters)
    let others := state.readers.filter (·.1 ≠ name)
    match lines with
    | [] => { state with readers := (name, []) :: others }
    | line :: lines =>
      { state with
        readers := (name, lines) :: others, delayed := state.delayed ++ [.line line] }
  | 'w' => state.emitLine (setting.sink name) setting.separator state.line state.isWhole
  | _ => state.emitLine (setting.sink name) setting.separator (state.line.takeWhile (· ≠ '\n')) true

/-- Does a step that applies at a place, and where the script goes on. -/
def act (setting : EditSetting) (place : Nat) (act : EditAct) (state : EditState) :
    Course × EditState :=
  let next := place + 1
  let jump (label : String) : Nat :=
    if label = "" then setting.script.steps.length
    else (setting.script.find? label).getD setting.script.steps.length
  match act with
  | .block _ | .mark _ => (.step next, state)
  | .jump 'b' label => (.step (jump label), state)
  | .jump kind label =>
    (.step (if state.changed == (kind = 't') then jump label else next),
      { state with changed := false })
  | .text 'a' text => (.step next, { state with delayed := state.delayed ++ [.text text] })
  | .text 'i' text => (.step next, if text = [] then state else state.put setting text)
  | .text _ text =>
    (.done false, if (state.ranges.lookup place).isSome || text = [] then state
      else state.put setting text)
  | .letter kind number => state.letter setting next kind number
  | .file kind name => (.step next, state.file setting kind name)
  | .substitute substitution => (.step next, state.substitute setting substitution)
  | .exchange pairs =>
    (.step next, { state with line := state.line.map fun c => (pairs.lookup c).getD c })

/-- The line is done. -/
def finishLine (setting : EditSetting) (prints : Bool) (state : EditState) : EditState :=
  (if prints && !setting.quiet then state.putLine setting else state).flush setting

/-- Goes through steps from a place on, and then through those for the next lines, for at most
`fuel` steps; the status if a step ended everything. -/
def run (setting : EditSetting) : (fuel : Nat) → Nat → EditState → Option Nat × EditState
  | 0, _, state => (none, state)
  | fuel + 1, place, state =>
    if state.isLost then (some 1, state)
    else
      let newLine (prints : Bool) (state : EditState) : Option Nat × EditState :=
        let state := state.finishLine setting prints
        match state.next? setting false with
        | some state => run setting fuel 0 { state with changed := false }
        | none => (none, state)
      match setting.script.steps[place]? with
      | none => newLine true state
      | some step =>
        let (holds, state) := state.applies setting place step
        if state.isLost then (some 1, state)
        else if holds = step.negated then
          match step.act with
          | .block past => run setting fuel past state
          | _ => run setting fuel (place + 1) state
        else
          match state.act setting place step.act with
          | (.step place, state) => run setting fuel place state
          | (.done prints, state) => newLine prints state
          | (.again, state) =>
            let state := state.flush setting
            run setting fuel 0
              { state with line := (state.line.dropWhile (· ≠ '\n')).drop 1 }
          | (.quit prints status, state) => (some status, state.finishLine setting prints)

/-- More steps than any script takes that comes to an end. -/
def stepLimit : Nat := 400000

/-- Edits texts, the first of which is the next to be read. -/
def start (setting : EditSetting) (state : EditState) : Option Nat × EditState :=
  match state.next? { setting with separate := false } false with
  | some state => run setting stepLimit 0 { state with changed := false }
  | none => (none, state)

end EditState

/-! ## 6. The utility -/

namespace Call

/-- What the utility says about how it is called. -/
def editUsage : String :=
  "Usage: sed [OPTION]... \x7bscript-only-if-no-other-script\x7d [input-file]...\n\n" ++
  "  -n, --quiet, --silent\n" ++
  "                 suppress automatic printing of pattern space\n" ++
  "      --debug\n" ++
  "                 annotate program execution\n" ++
  "  -e script, --expression=script\n" ++
  "                 add the script to the commands to be executed\n" ++
  "  -f script-file, --file=script-file\n" ++
  "                 add the contents of script-file to the commands to be executed\n" ++
  "  --follow-symlinks\n" ++
  "                 follow symlinks when processing in place\n" ++
  "  -i[SUFFIX], --in-place[=SUFFIX]\n" ++
  "                 edit files in place (makes backup if SUFFIX supplied)\n" ++
  "  -l N, --line-length=N\n" ++
  "                 specify the desired line-wrap length for the \x60l' command\n" ++
  "  --posix\n" ++
  "                 disable all GNU extensions.\n" ++
  "  -E, -r, --regexp-extended\n" ++
  "                 use extended regular expressions in the script\n" ++
  "                 (for portability use POSIX -E).\n" ++
  "  -s, --separate\n" ++
  "                 consider files as separate rather than as a single,\n" ++
  "                 continuous long stream.\n" ++
  "      --sandbox\n" ++
  "                 operate in sandbox mode (disable e/r/w commands).\n" ++
  "  -u, --unbuffered\n" ++
  "                 load minimal amounts of data from the input files and flush\n" ++
  "                 the output buffers more often\n" ++
  "  -z, --null-data\n" ++
  "                 separate lines by NUL characters\n" ++
  "      --help     display this help and exit\n" ++
  "      --version  output version information and exit\n\n" ++
  "If no -e, --expression, -f, or --file option is given, then the first\n" ++
  "non-option argument is taken as the sed script to interpret.  All\n" ++
  "remaining arguments are names of input files; if no input files are\n" ++
  "specified, then the standard input is read.\n"

/-- The script that options or the first operand give, or a complaint with its status. -/
def editScript (call : Call) (options : Options) : Except (String × Nat) EditScript := do
  let given := options.chosen.filter fun entry => entry.1 = 'e' || entry.1 = 'f'
  let pieces := if given = [] then [('e', options.operands.headD "")] else given
  let extended := options.hasAny "Er"
  let step (state : EditScript × Nat × Bool) (piece : Char × String) :
      Except (String × Nat) (EditScript × Nat × Bool) := do
    let (script, count, isFirst) := state
    let (text, isFile) ← match piece with
      | ('f', name) =>
        match call.contents name with
        | .ok text => pure (text, true)
        | .error problem => throw ("couldn't open file " ++ name ++ ": " ++ problem, 4)
      | (_, text) => pure (text, false)
    let count := if isFile then count else count + 1
    let text := Octets.characters text.toList
    -- The end of a file ends its last line; a piece of a call has no such end.
    let text := if isFile && text.getLast? = some '\n' then text.dropLast else text
    match script.add extended isFirst text with
    | .ok script => return (script, count, false)
    | .error fault =>
      if fault.message.toList.take 15 = "character class".toList then throw (fault.message, 4)
      let read := text.take (text.length - fault.left.length)
      let place := if isFile then
          "file " ++ piece.2 ++ " line " ++ decimal (read.count '\n' + 1)
        else "-e expression #" ++ decimal count ++ ", char " ++ decimal read.length
      throw (place ++ ": " ++ fault.message, 1)
  let (script, count, _) ← pieces.foldlM step ({}, 0, true)
  if script.blocks ≠ [] then
    throw ("-e expression #" ++ decimal count ++ ", char 0: unmatched \x60\x7b'", 1)
  match script.missing? with
  | some label => throw ("can't find label for jump to \x60" ++ label ++ "'", 4)
  | none => return script

/-- Lines of a text with whether they are complete. -/
def editLines (separator : Char) (text : String) : List (List Char × Bool) :=
  let lines := Text.splitAt separator text.toList
  let whole := lines.dropLast.map fun line => (Octets.characters line, true)
  match lines.getLast? with
  | some (c :: rest) => whole ++ [(Octets.characters (c :: rest), false)]
  | _ => whole

/-- The texts to edit, and complaints about those that cannot be read. -/
def editSources (call : Call) (separator : Char) (inPlace : Bool) (operands : List String) :
    List EditSource × List (Nat × String) × Nat :=
  (orInput operands).foldl (fun (sources, said, status) operand =>
    match call.contents operand with
    | .ok text => (sources ++ [⟨operand, editLines separator text⟩], said, status)
    | .error problem =>
      if problem = PathTrouble.isDirectory.message then
        let message := if inPlace then "couldn't edit " ++ operand ++ ": not a regular file"
          else "read error on " ++ operand ++ ": " ++ problem
        (sources, said ++ [call.complaint message], 4)
      else (sources, said ++ [call.complaint ("can't read " ++ operand ++ ": " ++ problem)],
        max 2 status)) ([], [], 0)

/-- The files that a script writes. -/
def editTargets (script : EditScript) : List String :=
  (script.steps.filterMap fun step =>
    match step.act with
    | .file kind name => if kind = 'w' || kind = 'W' then some name else none
    | .substitute substitution => substitution.target
    | _ => none).eraseDups

/-- What was printed to a sink. -/
def printedTo (state : EditState) (sink : String) : List Char :=
  Octets.ofCharacters ((state.sinks.lookup sink).getD ([], true)).1.reverse

/-- The name of the copy that is kept of a file that is edited in place. -/
def backupName (operand suffix : String) : String :=
  let name := (operand.toList.reverse.takeWhile (· ≠ '/')).reverse
  let lead := operand.toList.take (operand.length - name.length)
  if suffix.toList.contains '*' then
    let made := suffix.toList.flatMap fun c => if c = '*' then name else [c]
    String.ofList (if made.contains '/' then made else lead ++ made)
  else operand ++ suffix

/-- Edits texts as a script says. -/
def edit (call : Call) (options : Options) : Deed :=
  let given := options.hasAny "ef"
  if !given && options.operands = [] then
    if options.has 'η' then call.gives editUsage else ⟨[(2, editUsage)], 1, call.files⟩
  else
    let operands := if given then options.operands else options.operands.drop 1
    match call.editScript options with
    | .error (message, status) => call.complains message status
    | .ok script =>
      let separator := separatorOf options
      let inPlace := options.has 'i'
      let width := ((options.value? 'l').bind fun text => Digits.toNat? 10 text.toList).getD 70
      let isSpecial (name : String) : Bool := name = "/dev/stdout" || name = "/dev/stderr"
      let setting : EditSetting :=
        ⟨script, separator, inPlace || options.has 's', inPlace, script.quiet || options.has 'n',
          width, fun name => (call.contents name).toOption⟩
      if inPlace && operands = [] then call.complains "no input files" 4
      else
        let (sources, said, status) := call.editSources separator inPlace operands
        let ranges := script.steps.zipIdx.filterMap fun (step, place) =>
          match step.first, step.second with
          | some (.line 0), some _ => some (place, none)
          | _, _ => none
        let first : EditState := { ranges, sources }
        let write (files : FileTree) (name : String) (text : List Char) : FileTree :=
          (call.writing files name text).getD files
        -- One text after the other, each with lines of its own.
        let separately (state : Option Nat × EditState × FileTree) (source : EditSource) :
            Option Nat × EditState × FileTree :=
          match state with
          | (some status, state, files) => (some status, state, files)
          | (none, state, files) =>
            let state := { state with
              number := 0, lines := [], sources := [source], name := source.name
              sinks := if inPlace then state.sinks.filter (·.1 ≠ "") else state.sinks }
            let (ended, state) := EditState.start setting state
            if inPlace && !state.isLost then
              let old := call.files.read? (call.path source.name)
              let files := match options.value? 'i' with
                | some "" | none => files
                | some suffix => write files (backupName source.name suffix)
                    ((old.getD []).map fun b => Char.ofNat b.toNat)
              (ended, state, write files source.name (printedTo state ""))
            else (ended, state, files)
        let (ended, state, files) := if setting.separate then
            sources.foldl separately (none, first, call.files)
          else
            let (ended, state) := EditState.start setting first
            (ended, state, call.files)
        let files := (editTargets script).foldl (fun files name =>
          if isSpecial name then files else write files name (printedTo state name)) files
        let lost := if state.isLost then
          [call.complaint "-e expression #1, char 0: no previous regular expression"] else []
        let output := (if inPlace then [] else printedTo state "") ++ printedTo state "/dev/stdout"
        ⟨said ++ lost ++ [(2, String.ofList (printedTo state "/dev/stderr")),
          (1, String.ofList output)], (ended.getD 0).max status, files⟩

end Call

end RenderSync.Shell
