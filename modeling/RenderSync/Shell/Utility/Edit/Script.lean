import RenderSync.Shell.Regex
import RenderSync.Shell.Utility.Basic

/-!
# Scripts that edit lines

What a script says about lines: steps with addresses in front of them that say where they apply.
Steps between braces and jumps between steps are all in one list, in which a place is a number.

`EditScript.add` reads the pieces in which a script is given, one after the other: a step that wants
a text may find it in the next piece.
-/

namespace RenderSync.Shell

/-! ## 1. Steps -/

/-- A place in the text that is edited. -/
inductive EditPlace where
  | line (number : Nat)
  | every (first distance : Nat)
  | last
  /-- A line with a match; of the last expression if there is none. -/
  | hit (regex : Option Regex) (folded : Bool)
deriving Inhabited

/-- Where a range ends. -/
inductive EditEnd where
  | place (place : EditPlace)
  | after (count : Nat)
  | multiple (factor : Nat)
deriving Inhabited

/-- How letters change on their way into a line. -/
inductive Casing where
  | kept
  | upper
  | lower
deriving DecidableEq, Repr, Inhabited

/-- A piece of what is put in the place of a match. -/
inductive EditPiece where
  | char (c : Char)
  | group (number : Nat)
  /-- From here on letters change, or only the next one does. -/
  | casing (casing : Casing) (once : Bool)
deriving Inhabited

/-- A replacement of matches. -/
structure Substitution where
  regex : Option Regex
  folded : Bool
  pieces : List EditPiece
  /-- Which match is the first one to be replaced. -/
  first : Nat
  all : Bool
  prints : Bool
  target : Option String
deriving Inhabited

/-- What a step does. -/
inductive EditAct where
  /-- Steps up to another place are left out where it does not apply. -/
  | block (past : Nat)
  /-- Goes on at a label, or at the end. -/
  | jump (kind : Char) (label : String)
  | mark (label : String)
  /-- Prints a text before, behind, or in the place of lines. -/
  | text (kind : Char) (text : List Char)
  /-- What a letter stands for that wants no more than a number. -/
  | letter (kind : Char) (number : Option Nat)
  /-- What a letter stands for that wants a file. -/
  | file (kind : Char) (name : String)
  | substitute (substitution : Substitution)
  | exchange (pairs : List (Char × Char))
deriving Inhabited

/-- A step and where it applies. -/
structure EditStep where
  first : Option EditPlace
  second : Option EditEnd
  negated : Bool
  act : EditAct
deriving Inhabited

/-- A script as far as it was read. -/
structure EditScript where
  steps : List EditStep := []
  /-- The blocks that are open, the inmost one first. -/
  blocks : List Nat := []
  /-- Nothing is printed but what steps print. -/
  quiet : Bool := false
  /-- The text of the last step goes on in the next piece. -/
  pending : Bool := false
deriving Inhabited

namespace EditScript

/-- What is wrong with a script, and what was still to be read then. -/
structure Fault where
  message : String
  left : List Char

/-! ## 2. Words of a script -/

/-- A blank within a line. -/
def isGap (c : Char) : Bool := isSpace c && c ≠ '\n'

/-- The text behind blanks; the ends of lines are blanks, too. -/
def skip (text : List Char) : List Char := text.dropWhile isGap

/-- The value of digits behind a backslash and a letter, and what follows them. -/
def coded? (text : List Char) : Option (Char × List Char) :=
  let digits (base most : Nat) (rest : List Char) : Option (Char × List Char) :=
    let found := (rest.take most).takeWhile fun c => (Digits.toNat? base [c]).isSome
    if found = [] then none
    else (Digits.toNat? base found).map fun n =>
      (Octets.characters [Char.ofNat (n % 256)] |>.headD ' ', rest.drop found.length)
  match text with
  | 'x' :: rest => digits 16 2 rest
  | 'd' :: rest => digits 10 3 rest
  | 'o' :: rest => digits 8 3 rest
  | 'c' :: c :: rest => some (Char.ofNat (c.toUpper.toNat ^^^ 64), rest)
  | 't' :: rest => some ('\t', rest)
  | 'f' :: rest => some ('\x0c', rest)
  | 'v' :: rest => some ('\x0b', rest)
  | 'a' :: rest => some ('\x07', rest)
  | 'r' :: rest => some ('\r', rest)
  | _ => none

/-- A text with the characters that are written as numbers; `fuel` bounds its length. -/
def decoded : (fuel : Nat) → List Char → List Char
  | 0, text => text
  | _, [] => []
  | fuel + 1, '\\' :: rest =>
    match coded? rest with
    | some (c, rest) => c :: decoded fuel rest
    | none =>
      match rest with
      | c :: rest => '\\' :: c :: decoded fuel rest
      | [] => ['\\']
  | fuel + 1, c :: rest => c :: decoded fuel rest

/-- Where a part of a pattern stands: outside of sets, right at the start of one, or in it. -/
inductive SetPlace where
  | outside
  | opening
  | inside
deriving DecidableEq, Repr

/-- The place behind a character. -/
def SetPlace.behind (place : SetPlace) (c : Char) : SetPlace :=
  match place with
  | outside => if c = '[' then opening else outside
  | opening => if c = '^' then opening else inside
  | inside => if c = ']' then outside else inside

/-- Text up to a separator, which a backslash or a set may protect, and what follows; there has to
be a separator before the end of the line. -/
def delimited (message : String) (separator : Char) (isPattern : Bool) :
    (place : SetPlace) → List Char → Except Fault (List Char × List Char)
  | _, [] => .error ⟨message, []⟩
  | _, ['\\'] => .error ⟨message, []⟩
  | place, '\\' :: c :: rest =>
    (delimited message separator isPattern (if place = .opening then .inside else place) rest).map
      fun (text, rest) =>
        (if c = 'n' && isPattern then '\n' :: text
          else if c = '\n' && isPattern then '\n' :: text
          else if c = separator && (isPattern || c ≠ '&') then c :: text
          else '\\' :: c :: text, rest)
  | place, c :: rest =>
    if c = separator && place = .outside then .ok ([], rest)
    else if c = '\n' then .error ⟨message, c :: rest⟩
    else
      (delimited message separator isPattern (if isPattern then place.behind c else .outside)
        rest).map fun (text, rest) => (c :: text, rest)

/-- Fails where a text is left. -/
def fails {α : Type} (message : String) (left : List Char) : Except Fault (α × List Char) :=
  .error ⟨message, left⟩

/-- A number and what follows it. -/
def number (text : List Char) : Option Nat × List Char :=
  let (digits, rest) := text.span Digits.isDecimal
  (Digits.toNat? 10 digits, rest)

/-- A word that ends with a blank, a semicolon or a brace. -/
def label (text : List Char) : String × List Char :=
  let (name, rest) := (skip text).span fun c => !isSpace c && c ≠ ';' && c ≠ '\x7d'
  (String.ofList name, rest)

/-- The name of a file, which takes the rest of the line. -/
def fileName (text : List Char) : Except Fault (String × List Char) :=
  let (name, rest) := (skip text).span (· ≠ '\n')
  if name = [] then fails "missing filename in r/R/w/W commands" rest
  else .ok (String.ofList (Octets.ofCharacters name), rest.drop 1)

/-- The end of a step. -/
def stepEnd (text : List Char) : Except Fault (Unit × List Char) :=
  match skip text with
  | [] => .ok ((), [])
  | c :: rest =>
    if c = '\n' || c = ';' then .ok ((), rest)
    else if c = '\x7d' || c = '#' then .ok ((), c :: rest)
    else fails "extra characters after command" rest

/-! ## 3. Places -/

/-- An expression between separators; nothing stands for the last one that was used. -/
def expression (extended byLine : Bool) (text left : List Char) : Except Fault (Option Regex) :=
  if text = [] then .ok none
  else
    let form := { Regex.editing extended with byLine }
    match Regex.read form (decoded text.length text) with
    | .ok regex => .ok (some regex)
    | .error trouble => .error ⟨trouble.message, left⟩

/-- Signs behind an expression in front of a step. -/
def placeFlags : List Char → Bool × Bool × List Char
  | 'I' :: rest => let (_, byLine, rest) := placeFlags rest; (true, byLine, rest)
  | 'M' :: rest => let (folded, _, rest) := placeFlags rest; (folded, true, rest)
  | rest => (false, false, rest)

/-- A place in front of a step, or how many lines there are from one. -/
def placeOrEnd? (extended : Bool) (text : List Char) : Except Fault (Option EditEnd × List Char) :=
  let hit (separator : Char) (rest : List Char) : Except Fault (Option EditEnd × List Char) := do
    let (pattern, rest) ← delimited "unterminated address regex" separator true .outside rest
    let (folded, byLine, rest) := placeFlags rest
    let regex ← expression extended byLine pattern (skip rest)
    return (some (.place (.hit regex folded)), skip rest)
  match text with
  | '/' :: rest => hit '/' rest
  | '\\' :: c :: rest => hit c rest
  | '$' :: rest => .ok (some (.place .last), skip rest)
  | '+' :: rest =>
    match number rest with
    | (some n, rest) => .ok (some (.after n), skip rest)
    | (none, _) => fails "expected number" rest
  | '~' :: rest =>
    match number rest with
    | (some n, rest) => .ok (some (.multiple n), skip rest)
    | (none, _) => fails "expected number" rest
  | _ =>
    match number text with
    | (none, _) => .ok (none, text)
    | (some n, rest) =>
      match skip rest with
      | '~' :: rest =>
        let (distance, rest) := number (skip rest)
        .ok (some (.place (.every n (distance.getD 0))), skip rest)
      | rest => .ok (some (.place (.line n)), rest)

/-- The first character counts as read. -/
def behindOne (text : List Char) : List Char := text.drop 1

/-- Where a step applies: its places, and whether it applies everywhere else. -/
def range (extended : Bool) (text : List Char) :
    Except Fault ((Option EditPlace × Option EditEnd × Bool) × List Char) := do
  let (first, rest) ← placeOrEnd? extended text
  let first ← match first with
    | none => pure none
    | some (.place place) => pure (some place)
    | some _ => throw ⟨"invalid usage of +N or ~N as first address", rest⟩
  let (second, rest) : Option EditEnd × List Char ← match first, rest with
    | some _, ',' :: rest =>
      match ← placeOrEnd? extended (skip rest) with
      | (some second, rest) => pure (some second, rest)
      | (none, rest) => throw ⟨"unexpected \x60,'", behindOne rest⟩
    | _, rest => pure (none, rest)
  let isHit : Bool := match second with
    | some (.place (.hit ..)) => true
    | _ => false
  let isZero : Bool := match first with
    | some (.line 0) => true
    | _ => false
  if isZero && !isHit then throw ⟨"invalid usage of line address 0", behindOne rest⟩
  match rest with
  | '!' :: rest =>
    match skip rest with
    | '!' :: rest => throw ⟨"multiple \x60!'s", rest⟩
    | rest => return ((first, second, true), rest)
  | rest => return ((first, second, false), rest)

/-! ## 4. Acts -/

/-- The text of a step as it is written over several lines, up to the end of the last one; `true`
says that it goes on in the next piece. -/
def textLines : List Char → List Char × Bool × List Char
  | [] => (['\n'], false, [])
  | ['\\'] => (['\n'], true, [])
  | '\n' :: rest => (['\n'], false, rest)
  | '\\' :: c :: rest => let (text, goesOn, rest) := textLines rest; (c :: text, goesOn, rest)
  | c :: rest => let (text, goesOn, rest) := textLines rest; (c :: text, goesOn, rest)

/-- The text of a step, with characters that are written as numbers. -/
def textOf (text : List Char) : List Char × Bool × List Char :=
  -- What a backslash protects on the way out is protected by another one on the way in.
  let (read, goesOn, rest) := textLines text
  let length := text.length - rest.length
  let (shown, _, _) := textLines (shaped (length + 1) (text.take length))
  (if goesOn then read.dropLast else shown, goesOn, rest)
where
  /-- Characters that are written as numbers, protected against being taken for anything else. -/
  shaped : Nat → List Char → List Char
    | 0, text => text
    | _, [] => []
    | fuel + 1, '\\' :: rest =>
      match coded? rest with
      | some (c, rest) => '\\' :: c :: shaped fuel rest
      | none =>
        match rest with
        | c :: rest => '\\' :: c :: shaped fuel rest
        | [] => ['\\']
    | fuel + 1, c :: rest => c :: shaped fuel rest

/-- The text behind the letter of a step that has one. -/
def stepText (text : List Char) : Except Fault ((List Char × Bool) × List Char) :=
  match skip text with
  | [] => fails "expected \\ after \x60a', \x60c' or \x60i'" []
  | ['\\'] => .ok (([], true), [])
  | '\\' :: '\n' :: [] => .ok (([], true), [])
  | '\\' :: '\n' :: rest =>
    let (text, goesOn, rest) := textOf rest
    .ok ((text, goesOn), rest)
  | '\\' :: rest =>
    -- On the same line a backslash only protects the blanks.
    let rest := match skip rest with
      | '\n' :: rest => rest
      | _ => rest
    let (text, goesOn, rest) := textOf rest
    .ok ((text, goesOn), rest)
  | rest =>
    let (text, goesOn, rest) := textOf rest
    .ok ((text, goesOn), rest)

/-- The pieces of a replacement; groups that there are not are faults. -/
def piecesOf (groups : Nat) : List Char → Except Nat (List EditPiece)
  | [] => .ok []
  | '\\' :: c :: rest =>
    let add (piece : EditPiece) : Except Nat (List EditPiece) :=
      (piecesOf groups rest).map (piece :: ·)
    match Digits.toNat? 10 [c] with
    | some n => if groups < n then .error n else add (.group n)
    | none =>
      match c with
      | 'U' => add (.casing .upper false)
      | 'L' => add (.casing .lower false)
      | 'E' => add (.casing .kept false)
      | 'u' => add (.casing .upper true)
      | 'l' => add (.casing .lower true)
      | 'n' => add (.char '\n')
      | c => add (.char c)
  | '&' :: rest => (piecesOf groups rest).map (.group 0 :: ·)
  | c :: rest => (piecesOf groups rest).map (.char c :: ·)

/-- What the signs behind a substitution ask for. -/
structure Signs where
  folded : Bool := false
  byLine : Bool := false
  all : Bool := false
  prints : Bool := false
  first : Option Nat := none
  target : Option String := none

/-- The signs behind a substitution; `fuel` bounds how many. -/
def signs : (fuel : Nat) → Signs → List Char → Except Fault (Signs × List Char)
  | 0, found, text => .ok (found, text)
  | fuel + 1, found, text =>
    match text with
    | [] => .ok (found, [])
    | c :: rest =>
      match c with
      | 'i' | 'I' => signs fuel { found with folded := true } rest
      | 'm' | 'M' => signs fuel { found with byLine := true } rest
      | 'e' => signs fuel found rest
      | 'p' =>
        if found.prints then fails "multiple \x60p' options to \x60s' command" rest
        else signs fuel { found with prints := true } rest
      | 'g' =>
        if found.all then fails "multiple \x60g' options to \x60s' command" rest
        else signs fuel { found with all := true } rest
      | 'w' => do
        let (name, rest) ← fileName rest
        return ({ found with target := some name }, rest)
      | '\n' | ';' => .ok (found, rest)
      | '\x7d' | '#' => .ok (found, c :: rest)
      | c =>
        if c = ' ' || c = '\t' || c = '\r' then signs fuel found rest
        else
          match number text with
          | (some n, left) =>
            if found.first.isSome then
              fails "multiple number options to \x60s' command" rest
            else if n = 0 then fails "number option to \x60s' command may not be zero" left
            else signs fuel { found with first := some n } left
          | (none, _) => fails "unknown option to \x60s'" rest

/-- A substitution behind its letter. -/
def substitution (extended : Bool) (text : List Char) : Except Fault (Substitution × List Char) :=
  let message := "unterminated \x60s' command"
  match text with
  | [] => fails message []
  | separator :: rest => do
    let (pattern, rest) ← delimited message separator true .outside rest
    let (replacement, rest) ← delimited message separator false .outside rest
    let (signs, rest) ← signs (rest.length + 1) {} rest
    let regex ← expression extended signs.byLine pattern rest
    let groups := (regex.map Regex.groupCount).getD 9
    let replacement := textOf.shaped (replacement.length + 1) replacement
    match piecesOf groups replacement with
    | .error n =>
      throw ⟨"invalid reference \\" ++ decimal n ++ " on \x60s' command's RHS", rest⟩
    | .ok pieces =>
      return (⟨regex, signs.folded, pieces, signs.first.getD 1, signs.all, signs.prints,
        signs.target⟩, rest)

/-- A text of an exchange with what is protected in it. -/
def exchanged : List Char → List Char
  | '\\' :: '\\' :: rest => '\\' :: exchanged rest
  | '\\' :: 'n' :: rest => '\n' :: exchanged rest
  | '\\' :: '\n' :: rest => '\n' :: exchanged rest
  | c :: rest => c :: exchanged rest
  | [] => []

/-- An exchange of characters behind its letter. -/
def exchange (text : List Char) : Except Fault ((List (Char × Char)) × List Char) :=
  let message := "unterminated \x60y' command"
  match text with
  | [] => fails message []
  | separator :: rest => do
    let (source, rest) ← delimited message separator false .outside rest
    let (target, rest) ← delimited message separator false .outside rest
    let shape (text : List Char) : List Char := exchanged (textOf.shaped (text.length + 1) text)
    let (source, target) := (shape source, shape target)
    if source.length ≠ target.length then
      throw ⟨"strings for \x60y' command are different lengths", rest⟩
    let (_, rest) ← stepEnd rest
    return (source.zip target, rest)

/-! ## 5. Scripts -/

/-- Adds a step. -/
def push (step : EditStep) (script : EditScript) : EditScript :=
  { script with steps := script.steps ++ [step] }

/-- The innermost block ends here. -/
def closeBlock (script : EditScript) : Option EditScript :=
  match script.blocks with
  | [] => none
  | place :: blocks =>
    some { script with
      blocks
      steps := script.steps.modify place fun step =>
        { step with act := .block script.steps.length } }

/-- Letters of steps that want at most a number. -/
def plainLetters : List Char := "=dDFgGhHnNpPzx".toList

/-- Letters of steps that may want a number. -/
def numberLetters : List Char := "qQlL".toList

/-- The act behind a letter; there are letters that read more than the step. -/
def act (extended : Bool) (single : Bool) (letter : Char) (rest : List Char) :
    Except Fault ((EditAct × Bool) × List Char) :=
  let plain (read : Except Fault (EditAct × List Char)) :
      Except Fault ((EditAct × Bool) × List Char) :=
    read.map fun (act, rest) => ((act, false), rest)
  if plainLetters.contains letter then
    plain ((stepEnd rest).map fun (_, rest) => (.letter letter none, rest))
  else if numberLetters.contains letter then
    if !single then fails "command only uses one address" rest
    else
      let (number, rest) := number (skip rest)
      plain ((stepEnd rest).map fun (_, rest) => (.letter letter number, rest))
  else
    match letter with
    | '\x7b' => .ok ((.block 0, false), rest)
    | 'a' | 'i' | 'c' =>
      (stepText rest).map fun ((text, goesOn), rest) => ((.text letter text, goesOn), rest)
    | 'b' | 't' | 'T' =>
      let (name, rest) := label rest
      .ok ((.jump letter name, false), rest)
    | 'r' | 'R' | 'w' | 'W' =>
      plain ((fileName rest).map fun (name, rest) => (.file letter name, rest))
    | 's' =>
      plain ((substitution extended rest).map fun (substitution, rest) =>
        (.substitute substitution, rest))
    | 'y' => plain ((exchange rest).map fun (pairs, rest) => (.exchange pairs, rest))
    | c => fails ("unknown command: \x60" ++ c.toString ++ "'") rest

/-- Adds the steps of a piece; `fuel` bounds how many. -/
def addSteps (extended : Bool) : (fuel : Nat) → EditScript → List Char → Except Fault EditScript
  | 0, script, _ => .ok script
  | fuel + 1, script, text => do
    match text.dropWhile fun c => isSpace c || c = ';' with
    | [] => return script
    | text =>
      let ((first, second, negated), rest) ← range extended text
      let free := first.isNone
      match rest with
      | [] => throw ⟨"missing command", []⟩
      | '#' :: rest =>
        if !free then throw ⟨"comments don't accept any addresses", rest⟩
        addSteps extended fuel script (rest.dropWhile (· ≠ '\n'))
      | ':' :: rest =>
        if !free then throw ⟨": doesn't want any addresses", rest⟩
        let (name, rest) := label rest
        if name = "" then throw ⟨"\":\" lacks a label", rest⟩
        addSteps extended fuel (script.push ⟨none, none, false, .mark name⟩) rest
      | '\x7d' :: rest =>
        if !free then throw ⟨"unexpected \x60\x7d'", rest⟩
        match script.closeBlock with
        | none => throw ⟨"unexpected \x60\x7d'", rest⟩
        | some script =>
          let (_, rest) ← stepEnd rest
          addSteps extended fuel script rest
      | 'v' :: rest =>
        let (name, rest) := label rest
        let newer := match (Text.splitAt '.' name.toList).map (Digits.toNat? 10) with
          | some major :: some minor :: _ => 4 < major || (major = 4 && 9 < minor)
          | [some major] => 4 < major
          | _ => false
        if newer then throw ⟨"expected newer version of sed", rest⟩
        addSteps extended fuel script rest
      | letter :: rest =>
        let ((act, pending), rest) ← act extended second.isNone letter rest
        let isBlock := letter = '\x7b'
        let blocks := if isBlock then script.steps.length :: script.blocks else script.blocks
        let script := script.push ⟨first, second, negated, act⟩
        addSteps extended fuel { script with blocks, pending } rest

/-- The text of the last step goes on in a new piece. -/
def extendText (text : List Char) (script : EditScript) : EditScript :=
  { script with
    steps := script.steps.modify (script.steps.length - 1) fun step =>
      match step.act with
      | .text kind old =>
        { step with act := .text kind (if old = [] then text else old ++ '\n' :: text) }
      | _ => step }

/-- Adds a piece of a script; `isFirst` says that it starts with the first line of all. -/
def add (extended isFirst : Bool) (script : EditScript) (text : List Char) :
    Except Fault EditScript :=
  let isQuiet := isFirst && (text = ['#', 'n'] || ['#', 'n', '\n'].isPrefixOf text)
  let script := { script with quiet := script.quiet || isQuiet }
  if script.pending then
    let (more, pending, rest) := textOf text
    addSteps extended (text.length + 1) { script.extendText more with pending } rest
  else addSteps extended (text.length + 1) script text

/-- Where a label is. -/
def find? (name : String) (script : EditScript) : Option Nat :=
  script.steps.findIdx? fun step =>
    match step.act with
    | .mark label => label = name
    | _ => false

/-- A label that is not there although a step jumps to it. -/
def missing? (script : EditScript) : Option String :=
  script.steps.findSome? fun step =>
    match step.act with
    | .jump _ label => if label ≠ "" && (script.find? label).isNone then some label else none
    | _ => none

end EditScript

end RenderSync.Shell
