import RenderSync.Json.Basic
import RenderSync.Text.Digits
import RenderSync.Text.Utf8

/-!
# Reading JSON

Reading goes from left to right and stops at the first thing wrong; `Fault` says whether the
text broke the grammar or ended early.  Every reader takes octets, each as the character with its
number, and returns the rest: only the octets of a string that somebody looks at have to be UTF-8,
and whether they are shows at its end.

* `Decimal`: the number that digits and an exponent stand for;
* `readString`, `readNumber`, `readLiteral`: the leaves;
* `readValue`: a whole value, nested at most 127 deep, with its fields as they stand
  (`Entries.all`) or settled to one per name (`Entries.last`);
* `skipValue`: passes over a value that nobody looks at, to any depth, without asking whether
  numbers are in range or escapes form characters;
* `parse?`: a text that is one value.
-/

/-! ## 1. What numbers stand for

A number without fraction and exponent that fits sixty-four bits is an integer; every other one
is a double.  The double is not the nearest one to the text: the digits give a significand of at
most sixty-four bits, later digits only move the exponent or count for nothing, and the
significand is multiplied or divided by a power of ten with a rounding at each step. -/

namespace RenderSync.Json.Decimal

open BinaryFloat

/-- The bound that a significand stays below. -/
def significandBound : Nat := Nat.pow 2 64

/-- The significand that integer digits give, and how many of them found no room. -/
def integerPart (digits : List Char) : Nat × Nat :=
  digits.foldl
    (fun (significand, dropped) c =>
      let grown := significand * 10 + (Digits.value? c).getD 0
      if 0 < dropped || significandBound ≤ grown then (significand, dropped + 1)
      else (grown, 0))
    (0, 0)

/-- Adds fraction digits to a significand, up to the first without room; also how many. -/
def fractionPart (significand : Nat) : List Char → Nat × Nat
  | [] => (significand, 0)
  | c :: rest =>
    let grown := significand * 10 + (Digits.value? c).getD 0
    if significandBound ≤ grown then (significand, 0)
    else
      let (total, count) := fractionPart grown rest
      (total, count + 1)

/-- A pattern times `10 ^ exponent`, in steps of at most `10 ^ 308`; `none` when it grows
beyond all finite doubles. -/
def scale (pattern : Nat) (exponent : Int) : Option Nat :=
  if exponent < -308 then
    if pattern = 0 then some 0
    else scale (double.div pattern (double.ofDecimal 1 308)) (exponent + 308)
  else if exponent < 0 then
    some (double.div pattern (double.ofDecimal 1 exponent.natAbs))
  else if exponent ≤ 308 then
    let product := double.mul pattern (double.ofDecimal 1 exponent)
    if double.isFinite product then some product else none
  else if pattern = 0 then some 0
  else none
termination_by exponent.natAbs
decreasing_by omega

/-- The double of a significand and a power of ten. -/
def toDouble? (negative : Bool) (significand : Nat) (exponent : Int) : Option Number :=
  (scale (double.round significand 1) exponent).map fun bits =>
    .double (.ofPattern (double.signed negative bits))

/-- The value of an integer text: an integer, unless it is `-0` or does not fit. -/
def ofInteger? (negative : Bool) (digits : List Char) : Option Number :=
  match integerPart digits with
  | (significand, 0) =>
    if negative then
      if significand = 0 || Nat.pow 2 63 < significand then toDouble? true significand 0
      else some (.int (-significand))
    else some (.int significand)
  | (significand, dropped) => toDouble? negative significand dropped

/-- The value of a text with a fraction (possibly empty) and an exponent. -/
def ofParts? (negative : Bool) (digits fraction : List Char) (exponent : Int) : Option Number :=
  let (significand, dropped) := integerPart digits
  let (total, count) := fractionPart significand fraction
  toDouble? negative total (dropped - count + exponent)

end RenderSync.Json.Decimal

namespace RenderSync.Json

/-- What a reader has read and the octets left. -/
abbrev Reading (α : Type) := α × List Char

/-- The octets of a text, each as the character with its number. -/
def octetsOf (text : List Char) : List Char := (Utf8.encode text).map fun b => Char.ofNat b.toNat

/-! ## 2. Blanks, literals, strings -/

/-- The four blanks of JSON. -/
def isSpace (c : Char) : Bool := c = ' ' || c = '\n' || c = '\t' || c = '\r'

/-- Passes over blanks. -/
def skipSpace (text : List Char) : List Char := text.dropWhile isSpace

/-- Passes over the letters of a literal. -/
def readLiteral : List Char → List Char → Except Fault (List Char)
  | [], rest => .ok rest
  | _ :: _, [] => .error .truncated
  | want :: wants, c :: rest => if c = want then readLiteral wants rest else .error .malformed

/-- The number that four hexadecimal digits write. -/
def hex4? (a b c d : Char) : Option Nat := Digits.toNat? 16 [a, b, c, d]

/-- The character behind a one-letter escape. -/
def escaped? : Char → Option Char
  | '"' => some '"'
  | '\\' => some '\\'
  | '/' => some '/'
  | 'b' => some '\x08'
  | 'f' => some '\x0c'
  | 'n' => some '\n'
  | 'r' => some '\r'
  | 't' => some '\t'
  | _ => none

/-- The first half of a pair of units. -/
def isLeading (unit : Nat) : Bool := 0xD800 ≤ unit && unit ≤ 0xDBFF

/-- The second half of a pair of units. -/
def isTrailing (unit : Nat) : Bool := 0xDC00 ≤ unit && unit ≤ 0xDFFF

/-- The character that two units encode. -/
def pairChar (leading trailing : Nat) : Char :=
  Char.ofNat (0x10000 + (leading - 0xD800) * 0x400 + (trailing - 0xDC00))

/-- Four digits are missing: too few octets left, or something else in their place. -/
def shortHex (rest : List Char) : Fault := if 4 ≤ rest.length then .malformed else .truncated

/-- What is wrong when a leading unit is not followed by an escape. -/
def pairFault : List Char → Fault
  | [] => .truncated
  | ['\\'] => .truncated
  | '\\' :: 'u' :: rest => shortHex rest
  | _ => .malformed

/-- The string of the octets `seen`, last first. -/
def stringOf (seen : List Char) : Except Fault String :=
  match Utf8.decode? (seen.reverse.map fun c => c.toNat.toUInt8) with
  | some text => .ok (String.ofList text)
  | none => .error .malformed

/-- A string up to the closing quote; `seen` holds the octets before, last first. -/
def readChars (seen : List Char) : List Char → Except Fault (Reading String)
  | [] => .error .truncated
  | '"' :: rest => do .ok (← stringOf seen, rest)
  | '\\' :: 'u' :: a :: b :: c :: d :: rest =>
    match hex4? a b c d with
    | none => .error .malformed
    | some unit =>
      if isTrailing unit then .error .malformed
      else if isLeading unit then
        match rest with
        | '\\' :: 'u' :: e :: f :: g :: h :: rest' =>
          match hex4? e f g h with
          | none => .error .malformed
          | some second =>
            if isTrailing second then
              readChars ((octetsOf [pairChar unit second]).reverse ++ seen) rest'
            else .error .malformed
        | _ => .error (pairFault rest)
      else readChars ((octetsOf [Char.ofNat unit]).reverse ++ seen) rest
  | '\\' :: 'u' :: rest => .error (shortHex rest)
  | ['\\'] => .error .truncated
  | '\\' :: c :: rest =>
    match escaped? c with
    | some plain => readChars (plain :: seen) rest
    | none => .error .malformed
  | c :: rest => if c < ' ' then .error .malformed else readChars (c :: seen) rest

/-- A string, from behind its opening quote. -/
def readString (text : List Char) : Except Fault (Reading String) := readChars [] text

/-- Passes over a string from behind its opening quote; escapes need only be well written. -/
def skipString : List Char → Except Fault (List Char)
  | [] => .error .truncated
  | '"' :: rest => .ok rest
  | '\\' :: 'u' :: a :: b :: c :: d :: rest =>
    if (hex4? a b c d).isSome then skipString rest else .error .malformed
  | '\\' :: 'u' :: rest => .error (shortHex rest)
  | ['\\'] => .error .truncated
  | '\\' :: c :: rest => if (escaped? c).isSome then skipString rest else .error .malformed
  | c :: rest => if c < ' ' then .error .malformed else skipString rest

/-! ## 3. Numbers -/

/-- The digits in front, and the rest. -/
def spanDigits (text : List Char) : List Char × List Char := text.span Digits.isDecimal

/-- At least one digit, as an exponent or a fraction needs it. -/
def readDigits (text : List Char) : Except Fault (Reading (List Char)) :=
  match spanDigits text with
  | ([], []) => .error .truncated
  | ([], _ :: _) => .error .malformed
  | (digits, rest) => .ok (digits, rest)

/-- The digits of an integer: a zero stands alone. -/
def readInteger (text : List Char) : Except Fault (Reading (List Char)) :=
  match spanDigits text with
  | ([], []) => .error .truncated
  | ([], _ :: _) => .error .malformed
  | ('0' :: _ :: _, _) => .error .malformed
  | (digits, rest) => .ok (digits, rest)

/-- An exponent from behind its letter. -/
def readExponent : List Char → Except Fault (Reading Int)
  | '+' :: text => do
    let (digits, rest) ← readDigits text
    .ok ((Digits.toNat digits : Nat), rest)
  | '-' :: text => do
    let (digits, rest) ← readDigits text
    .ok (-(Digits.toNat digits : Nat), rest)
  | text => do
    let (digits, rest) ← readDigits text
    .ok ((Digits.toNat digits : Nat), rest)

/-- A number that its digits put out of range is malformed. -/
def inRange (number : Option Number) (rest : List Char) : Except Fault (Reading Number) :=
  match number with
  | some n => .ok (n, rest)
  | none => .error .malformed

/-- What follows the integer digits of a number. -/
def readNumberEnd (negative : Bool) (digits : List Char) : List Char → Except Fault (Reading Number)
  | '.' :: text => do
    let (fraction, rest) ← readDigits text
    match rest with
    | 'e' :: more | 'E' :: more => do
      let (exponent, rest) ← readExponent more
      inRange (Decimal.ofParts? negative digits fraction exponent) rest
    | _ => inRange (Decimal.ofParts? negative digits fraction 0) rest
  | 'e' :: text | 'E' :: text => do
    let (exponent, rest) ← readExponent text
    inRange (Decimal.ofParts? negative digits [] exponent) rest
  | rest => inRange (Decimal.ofInteger? negative digits) rest

/-- A number, which starts with `-` or a digit. -/
def readNumber : List Char → Except Fault (Reading Number)
  | '-' :: text => do
    let (digits, rest) ← readInteger text
    readNumberEnd true digits rest
  | text => do
    let (digits, rest) ← readInteger text
    readNumberEnd false digits rest

/-- Passes over a number; where a digit is missing, the text is malformed even at its end. -/
def skipNumber (text : List Char) : Except Fault (List Char) :=
  let unsigned := match text with | '-' :: rest => rest | _ => text
  let exponent (rest : List Char) : Except Fault (List Char) :=
    let digits := match rest with | '+' :: more => more | '-' :: more => more | _ => rest
    match spanDigits digits with
    | ([], _) => .error .malformed
    | (_, rest) => .ok rest
  match spanDigits unsigned with
  | ([], _) => .error .malformed
  | ('0' :: _ :: _, _) => .error .malformed
  | (_, '.' :: more) =>
    match spanDigits more with
    | ([], _) => .error .malformed
    | (_, 'e' :: rest) | (_, 'E' :: rest) => exponent rest
    | (_, rest) => .ok rest
  | (_, 'e' :: rest) | (_, 'E' :: rest) => exponent rest
  | (_, rest) => .ok rest

/-! ## 4. Values -/

/-- How deep a value may be nested, the limit itself excluded. -/
def depthLimit : Nat := 128

/-- How the entries of an object become its fields. -/
inductive Entries where
  /-- As they stand, a repeated name included. -/
  | all
  /-- Sorted, the last entry of a name. -/
  | last
deriving DecidableEq

/-- The fields of an object. -/
def Entries.settle : Entries → List (String × Json) → List (String × Json)
  | .all, entries => entries
  | .last, entries => Fields.ofEntries entries

/-- Passes over the colon behind a name. -/
def readColon (text : List Char) : Except Fault (List Char) :=
  match skipSpace text with
  | ':' :: rest => .ok rest
  | [] => .error .truncated
  | _ => .error .malformed

/-- What stands between two members of an array or object. -/
inductive Gap where
  /-- The closing bracket is next and still unread. -/
  | close
  /-- Another member is next. -/
  | member
deriving DecidableEq

/-- Looks for the next item of an array: none after `]`, a comma before all but the first. -/
def nextItem (first : Bool) (text : List Char) : Except Fault (Reading Gap) :=
  match skipSpace text with
  | [] => .error .truncated
  | ']' :: rest => .ok (.close, ']' :: rest)
  | ',' :: rest =>
    if first then .ok (.member, ',' :: rest)
    else
      match skipSpace rest with
      | [] => .error .truncated
      | ']' :: _ => .error .malformed
      | rest => .ok (.member, rest)
  | rest => if first then .ok (.member, rest) else .error .malformed

/-- Looks for the next name of an object and passes over its opening quote. -/
def nextName (first : Bool) (text : List Char) : Except Fault (Reading Gap) :=
  match skipSpace text with
  | [] => .error .truncated
  | '}' :: rest => .ok (.close, '}' :: rest)
  | ',' :: rest =>
    if first then .error .malformed
    else
      match skipSpace rest with
      | [] => .error .truncated
      | '"' :: rest => .ok (.member, rest)
      | _ => .error .malformed
  | '"' :: rest => if first then .ok (.member, rest) else .error .malformed
  | _ => .error .malformed

mutual

/-- A value.  `fuel` bounds the calls, `depth` how many brackets may still open. -/
def readValueFuel (entries : Entries) : (fuel depth : Nat) → List Char → Except Fault (Reading Json)
  | 0, _, _ => .error .malformed
  | fuel + 1, depth, text =>
    match skipSpace text with
    | [] => .error .truncated
    | 'n' :: rest => do .ok (.null, ← readLiteral ['u', 'l', 'l'] rest)
    | 't' :: rest => do .ok (.bool true, ← readLiteral ['r', 'u', 'e'] rest)
    | 'f' :: rest => do .ok (.bool false, ← readLiteral ['a', 'l', 's', 'e'] rest)
    | '"' :: rest => do
      let (s, rest) ← readString rest
      .ok (.string s, rest)
    | '[' :: rest =>
      if depth ≤ 1 then .error .malformed
      else do
        let (items, rest) ← readItemsFuel entries fuel (depth - 1) true [] rest
        .ok (.array items, rest)
    | '{' :: rest =>
      if depth ≤ 1 then .error .malformed
      else do
        let (members, rest) ← readMembersFuel entries fuel (depth - 1) true [] rest
        .ok (.object (entries.settle members), rest)
    | c :: rest =>
      if c = '-' || Digits.isDecimal c then do
        let (n, rest) ← readNumber (c :: rest)
        .ok (.number n, rest)
      else .error .malformed

/-- The items of an array and its closing bracket; `seen` holds those before, last first. -/
def readItemsFuel (entries : Entries) : (fuel depth : Nat) → (first : Bool) → (seen : List Json) →
    List Char → Except Fault (Reading (List Json))
  | 0, _, _, _, _ => .error .malformed
  | fuel + 1, depth, first, seen, text => do
    match ← nextItem first text with
    | (.close, rest) => .ok (seen.reverse, rest.drop 1)
    | (.member, rest) =>
      let (item, rest) ← readValueFuel entries fuel depth rest
      readItemsFuel entries fuel depth false (item :: seen) rest

/-- The members of an object and its closing bracket; `seen` holds those before, last first. -/
def readMembersFuel (entries : Entries) : (fuel depth : Nat) → (first : Bool) →
    (seen : List (String × Json)) → List Char → Except Fault (Reading (List (String × Json)))
  | 0, _, _, _, _ => .error .malformed
  | fuel + 1, depth, first, seen, text => do
    match ← nextName first text with
    | (.close, rest) => .ok (seen.reverse, rest.drop 1)
    | (.member, rest) =>
      let (name, rest) ← readString rest
      let rest ← readColon rest
      let (value, rest) ← readValueFuel entries fuel depth rest
      readMembersFuel entries fuel depth false ((name, value) :: seen) rest

end

/-- Fuel that suffices for `text`: every call passes over a character or answers. -/
def fuelFor (text : List Char) : Nat := 2 * text.length + 2

/-- A value with at most `depth - 1` brackets open at once. -/
def readValue (entries : Entries) (depth : Nat) (text : List Char) : Except Fault (Reading Json) :=
  readValueFuel entries (fuelFor text) depth text

/-- Nothing but blanks is left. -/
def expectEnd (text : List Char) : Except Fault Unit :=
  match skipSpace text with
  | [] => .ok ()
  | _ => .error .malformed

/-- A text that is one value, each name of an object once. -/
def parse (text : List Char) : Except Fault Json := do
  let (value, rest) ← readValue .last depthLimit (octetsOf text)
  expectEnd rest
  .ok value

/-- `parse` without the reason. -/
def parse? (text : List Char) : Option Json := (parse text).toOption

/-! ## 5. Passing over values -/

/-- Passes over a value and what encloses it: `open_` lists the brackets still open, innermost
first, `true` for an object.  `inValue` says that a value comes next. -/
def skipFuel : (fuel : Nat) → (opened : List Bool) → (inValue : Bool) → List Char →
    Except Fault (List Char)
  | 0, _, _, _ => .error .malformed
  | _ + 1, [], false, text => .ok text
  | fuel + 1, isObject :: outer, false, text =>
    match skipSpace text with
    | [] => .error .truncated
    | ',' :: rest =>
      if isObject then do
        match skipSpace rest with
        | [] => .error .truncated
        | '"' :: rest =>
          let rest ← readColon (← skipString rest)
          skipFuel fuel (isObject :: outer) true rest
        | _ => .error .malformed
      else skipFuel fuel (isObject :: outer) true rest
    | ']' :: rest => if isObject then .error .malformed else skipFuel fuel outer false rest
    | '}' :: rest => if isObject then skipFuel fuel outer false rest else .error .malformed
    | _ => .error .malformed
  | fuel + 1, opened, true, text =>
    match skipSpace text with
    | [] => .error .truncated
    | 'n' :: rest => do skipFuel fuel opened false (← readLiteral ['u', 'l', 'l'] rest)
    | 't' :: rest => do skipFuel fuel opened false (← readLiteral ['r', 'u', 'e'] rest)
    | 'f' :: rest => do skipFuel fuel opened false (← readLiteral ['a', 'l', 's', 'e'] rest)
    | '"' :: rest => do skipFuel fuel opened false (← skipString rest)
    | '[' :: rest =>
      match skipSpace rest with
      | [] => .error .truncated
      | ']' :: rest => skipFuel fuel opened false rest
      | rest => skipFuel fuel (false :: opened) true rest
    | '{' :: rest =>
      match skipSpace rest with
      | [] => .error .truncated
      | '}' :: rest => skipFuel fuel opened false rest
      | '"' :: rest => do
        let rest ← readColon (← skipString rest)
        skipFuel fuel (true :: opened) true rest
      | _ => .error .malformed
    | c :: rest =>
      if c = '-' || Digits.isDecimal c then do
        skipFuel fuel opened false (← skipNumber (c :: rest))
      else .error .malformed

/-- Passes over one value. -/
def skipValue (text : List Char) : Except Fault (List Char) :=
  skipFuel (fuelFor text) [] true text

end RenderSync.Json
