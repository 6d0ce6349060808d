import RenderSync.Shell.Regex
import RenderSync.Shell.Utility.Records.Token

/-!
# Expressions for texts

How programs for records write expressions for texts, and what is done with matches: they are
replaced, or a text is taken apart where they are.
-/

namespace RenderSync.Shell.Records

/-! ## 1. Notation -/

/-- An octet with a meaning, as itself. -/
def asItself (inside : Bool) (c : Char) : List Char :=
  if inside then ['[', '.', c, '.', ']']
  else if "\\^$.[]|()*+?\x7b\x7d".toList.contains c then ['\\', c]
  else [c]

/-- An expression in the notation of other programs: a backslash stands for something within sets,
too, and behind it no letter means a set.  `first` says that a set has just been opened. -/
def plainNotation : (fuel : Nat) → (inside first : Bool) → List Char → List Char
  | 0, _, _, text => text
  | _, _, _, [] => []
  | fuel + 1, inside, first, c :: rest =>
    match c, rest with
    | '\\', [] => ['\\', '\\']
    | '\\', d :: after =>
      let (front, rest) := if d = '/' then (['/'], after) else escapedIn rest
      let meant := match front with
        | '\\' :: [e] => [e]
        | front => front
      meant.flatMap (asItself inside) ++ plainNotation fuel inside false rest
    | '[', ':' :: after =>
      if inside then
        let (name, rest) := after.span (· ≠ ']')
        '[' :: ':' :: name ++ rest.take 1 ++ plainNotation fuel true false (rest.drop 1)
      else '[' :: plainNotation fuel true true rest
    | '[', '^' :: rest =>
      if inside then '[' :: plainNotation fuel true false ('^' :: rest)
      else '[' :: '^' :: plainNotation fuel true true rest
    | '[', rest => '[' :: plainNotation fuel true (!inside) rest
    | ']', rest => ']' :: plainNotation fuel (inside && first) false rest
    | c, rest => c :: plainNotation fuel inside false rest

/-- The expression that a text writes; one that makes no sense matches itself. -/
def expression (text : List Char) : Regex :=
  match Regex.read (Regex.searching true) (plainNotation (2 * text.length) false false text) with
  | .ok regex => regex
  | .error _ => Regex.ofLiteral text

/-! ## 2. Replacing -/

/-- What is put in the place of a match. -/
def replacement (found : List Char) : List Char → List Char
  | '\\' :: '&' :: rest => '&' :: replacement found rest
  | '\\' :: '\\' :: rest => '\\' :: replacement found rest
  | '&' :: rest => found ++ replacement found rest
  | c :: rest => c :: replacement found rest
  | [] => []

/-- Replaces all matches and counts them.  No match without a character is looked for right behind
another match, as `behind` says. -/
def replaceAll (regex : Regex) (template : List Char) : (fuel : Nat) → (behind : Bool) →
    (before rest : List Char) → Nat × List Char
  | 0, _, _, rest => (0, rest)
  | fuel + 1, behind, before, rest =>
    let goOn (n : Nat) (front : List Char) : Nat × List Char :=
      match rest with
      | [] => (n, front)
      | c :: after =>
        let (more, text) := replaceAll regex template fuel false (c :: before) after
        (n + more, front ++ c :: text)
    match regex.matchAt? false ⟨before, rest, []⟩ with
    | none => goOn 0 []
    | some found =>
      if found.text = [] then
        if behind then goOn 0 [] else goOn 1 (replacement [] template)
      else
        let (more, text) := replaceAll regex template fuel true (found.text.reverse ++ before)
          found.after
        (1 + more, replacement found.text template ++ text)

/-- Replaces the first match, or all of them; how many there were. -/
def replaceMatches (all : Bool) (regex : Regex) (template text : List Char) : Nat × List Char :=
  if all then replaceAll regex template (text.length + 1) false [] text
  else
    match regex.find? false [] text with
    | none => (0, text)
    | some found => (1, found.before ++ replacement found.text template ++ found.after)

/-! ## 3. Taking apart -/

/-- What stands between the fields of a text. -/
inductive Separator where
  /-- Blanks, of which those at both ends do not count. -/
  | blanks
  /-- Nothing: every octet is a field. -/
  | nothing
  | octet (c : Char)
  /-- A match that has characters. -/
  | regex (regex : Regex)
deriving Inhabited

namespace Separator

/-- The separator that a text writes. -/
def ofText (text : String) : Separator :=
  match text.toList with
  | [] => .nothing
  | [' '] => .blanks
  | ['\\'] => .octet '\\'
  | [c] => .octet c
  | text => .regex (expression text)

/-- A blank between fields. -/
def isGap (c : Char) : Bool := c = ' ' || c = '\t' || c = '\n'

/-- The parts between matches; `fuel` bounds how many. -/
def between (regex : Regex) : (fuel : Nat) → (part before rest : List Char) → List (List Char)
  | 0, part, _, rest => [part.reverse ++ rest]
  | fuel + 1, part, before, rest =>
    match (regex.matchAt? false ⟨before, rest, []⟩).filter (·.text ≠ []), rest with
    | some found, _ =>
      part.reverse :: between regex fuel [] (found.text.reverse ++ before) found.after
    | none, [] => [part.reverse]
    | none, c :: after => between regex fuel (c :: part) (c :: before) after

/-- The words between blanks; `fuel` bounds how many. -/
def words : (fuel : Nat) → List Char → List (List Char)
  | 0, _ => []
  | fuel + 1, text =>
    match text.dropWhile isGap with
    | [] => []
    | text =>
      let (word, rest) := text.span fun c => !isGap c
      word :: words fuel rest

/-- The fields of a text; an empty text has none. -/
def fields (separator : Separator) (text : List Char) : List (List Char) :=
  if text = [] then []
  else
    match separator with
    | .blanks => words (text.length + 1) text
    | .nothing => text.map ([·])
    | .octet c => Text.splitAt c text
    | .regex inner => between inner (text.length + 1) [] [] text

end Separator

/-! ## 4. Records -/

/-- What ends a record. -/
inductive Ending where
  | octet (c : Char)
  | blankLines
  | regex (regex : Regex)
deriving Inhabited

/-- The first record of a text. -/
inductive Cut where
  | record (text rest : List Char)
  /-- It cannot be told yet where it ends. -/
  | more
  | finished

namespace Ending

/-- The end of records that a text writes. -/
def ofText (text : String) : Ending :=
  match text.toList with
  | [] => .blankLines
  | [c] => .octet c
  | text => .regex (expression text)

/-- The text up to an empty line, and what follows that; `none` if there is no empty line. -/
def paragraph? : List Char → Option (List Char × List Char)
  | '\n' :: '\n' :: rest => some ([], rest.dropWhile (· = '\n'))
  | c :: rest => (paragraph? rest).map fun (text, rest) => (c :: text, rest)
  | [] => none

/-- The first record of a text, which may go on unless it `isWhole`. -/
def cut (ending : Ending) (isWhole : Bool) (text : List Char) : Cut :=
  let last (text : List Char) : Cut :=
    if !isWhole then .more else if text = [] then .finished else .record text []
  match ending with
  | .octet c =>
    match text.span (· ≠ c) with
    | (record, _ :: rest) => .record record rest
    | (record, []) => last record
  | .blankLines =>
    let text := text.dropWhile (· = '\n')
    match paragraph? text with
    | some (record, rest) => .record record rest
    | none => last (if text.getLast? = some '\n' then text.dropLast else text)
  | .regex inner =>
    match (inner.find? false [] text).filter (·.text ≠ []) with
    | some found => if isWhole || found.after ≠ [] then .record found.before found.after else .more
    | none => last text

end Ending

end RenderSync.Shell.Records
