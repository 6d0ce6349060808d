import RenderSync.Json.Basic
import RenderSync.Text.Digits
import RenderSync.BinaryFloat.Shortest

/-!
# Writing JSON

`render` writes a value without blanks; `renderIndented` puts every member on a line of its own,
two blanks deeper than what holds it.  A string escapes the quote, the backslash and the control
characters below U+0020, by letter where there is one, and nothing else.

A double has the fewest digits that read back.  It is positional as long as its point falls
within sixteen digits, or fewer than five zeros behind the point precede them; whole numbers end
in `.0`.
-/

namespace RenderSync.Json

/-! ## 1. Strings -/

/-- One character of a string. -/
def escapeChar (c : Char) : List Char :=
  if c = '"' then ['\\', '"']
  else if c = '\\' then ['\\', '\\']
  else if c = '\x08' then ['\\', 'b']
  else if c = '\x0c' then ['\\', 'f']
  else if c = '\n' then ['\\', 'n']
  else if c = '\r' then ['\\', 'r']
  else if c = '\t' then ['\\', 't']
  else if c < ' ' then '\\' :: 'u' :: Digits.hex 4 c.toNat
  else [c]

/-- A string between its quotes. -/
def quote (s : String) : List Char := '"' :: s.toList.flatMap escapeChar ++ ['"']

/-! ## 2. Numbers -/

/-- Places a decimal point: `digits · 10 ^ exponent` as text. -/
def placePoint (digits : List Char) (exponent : Int) : List Char :=
  let places : Int := digits.length + exponent
  if 0 ≤ exponent && places ≤ 16 then
    digits ++ List.replicate exponent.toNat '0' ++ ['.', '0']
  else if 0 < places && places ≤ 16 then
    digits.take places.toNat ++ '.' :: digits.drop places.toNat
  else if -5 < places && places ≤ 0 then
    '0' :: '.' :: List.replicate (-places).toNat '0' ++ digits
  else
    let mantissa :=
      match digits with
      | [] => []
      | [d] => [d]
      | d :: more => d :: '.' :: more
    mantissa ++ 'e' :: Digits.ofInt (places - 1)

/-- A finite double as text. -/
def renderDouble (bits : Nat) : List Char :=
  let sign := if BinaryFloat.double.isNegative bits then ['-'] else []
  if BinaryFloat.double.magnitude bits = 0 then sign ++ ['0', '.', '0']
  else
    let (digits, exponent) := BinaryFloat.double.shortest (BinaryFloat.double.magnitude bits)
    sign ++ placePoint (Digits.ofNat digits) exponent

/-- A number as text; a double that is not finite has none and becomes `null`. -/
def renderNumber : Number → List Char
  | .int n => Digits.ofInt n
  | .double d => if d.isFinite then renderDouble d.pattern else ['n', 'u', 'l', 'l']

/-! ## 3. Values -/

mutual

/-- A value without blanks. -/
def renderChars : Json → List Char
  | .null => ['n', 'u', 'l', 'l']
  | .bool true => ['t', 'r', 'u', 'e']
  | .bool false => ['f', 'a', 'l', 's', 'e']
  | .number n => renderNumber n
  | .string s => quote s
  | .array items => '[' :: renderItems true items
  | .object fields => '{' :: renderFields true fields

/-- Items, separated by commas, and the closing bracket. -/
def renderItems (first : Bool) : List Json → List Char
  | [] => [']']
  | item :: rest =>
    (if first then [] else [',']) ++ renderChars item ++ renderItems false rest

/-- Fields, separated by commas, and the closing brace. -/
def renderFields (first : Bool) : List (String × Json) → List Char
  | [] => ['}']
  | (name, value) :: rest =>
    (if first then [] else [',']) ++ quote name ++ ':' :: renderChars value ++
      renderFields false rest

end

/-- A value without blanks, as a string. -/
def render (value : Json) : String := String.ofList (renderChars value)

/-- A line break and `depth` steps of indentation. -/
def newLine (depth : Nat) : List Char := '\n' :: List.replicate (2 * depth) ' '

mutual

/-- A value over several lines, inside `depth` brackets. -/
def indentChars (depth : Nat) : Json → List Char
  | .array [] => ['[', ']']
  | .array (item :: rest) =>
    '[' :: newLine (depth + 1) ++ indentChars (depth + 1) item ++ indentItems depth rest
  | .object [] => ['{', '}']
  | .object ((name, value) :: rest) =>
    '{' :: newLine (depth + 1) ++ quote name ++ ':' :: ' ' :: indentChars (depth + 1) value ++
      indentFields depth rest
  | .null => ['n', 'u', 'l', 'l']
  | .bool b => renderChars (.bool b)
  | .number n => renderNumber n
  | .string s => quote s

/-- The items behind the first, each on its line, and the closing bracket. -/
def indentItems (depth : Nat) : List Json → List Char
  | [] => newLine depth ++ [']']
  | item :: rest =>
    ',' :: newLine (depth + 1) ++ indentChars (depth + 1) item ++ indentItems depth rest

/-- The fields behind the first, each on its line, and the closing brace. -/
def indentFields (depth : Nat) : List (String × Json) → List Char
  | [] => newLine depth ++ ['}']
  | (name, value) :: rest =>
    ',' :: newLine (depth + 1) ++ quote name ++ ':' :: ' ' :: indentChars (depth + 1) value ++
      indentFields depth rest

end

/-- A value over several lines, as a string. -/
def renderIndented (value : Json) : String := String.ofList (indentChars 0 value)

end RenderSync.Json
