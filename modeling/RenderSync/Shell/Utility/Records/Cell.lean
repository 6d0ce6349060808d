import RenderSync.BinaryFloat.Functions
import RenderSync.Shell.Format
import RenderSync.Shell.Utility.Records.Syntax
import RenderSync.Shell.Utility.Records.Token

/-!
# Cells

What a variable, a field or an element holds: a number, a text, or a text that came in and counts as
a number if it looks like one.  Numbers are doubles.
-/

namespace RenderSync.Shell.Records

/-- The numbers of programs for records. -/
abbrev double : BinaryFloat.Format := BinaryFloat.double

/-- What a place holds. -/
inductive Cell where
  | nothing
  | number (bits : Nat)
  | text (text : String)
  /-- A text that came in. -/
  | found (text : String)
deriving DecidableEq, Repr, Inhabited

/-! ## 1. Numbers in texts -/

/-- The pattern of a text that starts with a hexadecimal number. -/
def hexadecimalIn? : List Char → Option Nat
  | '0' :: x :: c :: rest =>
    if (x = 'x' || x = 'X') && isDigitOf 16 c then
      let digits := (c :: rest).takeWhile (isDigitOf 16)
      (Digits.toNat? 16 digits).map fun n => double.round n 1
    else none
  | _ => none

/-- The number in front of a text; zero if there is none. -/
def leadingNumber (text : List Char) : Nat :=
  let text := text.dropWhile isSpace
  let (negative, body) : Bool × List Char := match text with
    | '-' :: body => (true, body)
    | '+' :: body => (false, body)
    | body => (false, body)
  let starts (word : String) : Bool := word.toList.isPrefixOf (Text.lowerAscii (body.take 3))
  double.signed negative <|
    match hexadecimalIn? body with
    | some bits => bits
    | none =>
      if starts "inf" then double.infinity
      else if starts "nan" then double.negate double.nothing
      else (numberPart body).1

/-- The number that a text is, blanks around it apart. -/
def wholeNumber? (text : List Char) : Option Nat :=
  let text := ((text.dropWhile isSpace).reverse.dropWhile isSpace).reverse
  let body := if text.head?.any fun c => c = '-' || c = '+' then text.drop 1 else text
  let isPart (c : Char) : Bool := Digits.isDecimal c || c = '.'
  if body.head?.any isPart && body.getLast?.any isPart && body.any Digits.isDecimal then
    let rest := match hexadecimalIn? body with
      | some _ => (body.drop 2).dropWhile (isDigitOf 16)
      | none => (numberPart body).2
    if rest = [] then some (leadingNumber text) else none
  else none

/-! ## 2. Whole numbers -/

/-- The whole part of a number, brought into words of sixty-four bits with a sign. -/
def toInteger (bits : Nat) : Int :=
  let half : Int := (Nat.pow 2 63 : Nat)
  if double.isNaN bits then -half else double.saturate (-half) (half - 1) bits

/-- The whole part of a number to be printed: large ones have no sign. -/
def toShown (bits : Nat) : Int :=
  let half : Int := (Nat.pow 2 63 : Nat)
  if double.isNaN bits then -half else double.saturate (-half) (2 * half - 1) bits

/-- The whole part of a number as a word without a sign. -/
def toWord (bits : Nat) : Nat := (toShown bits % (Nat.pow 2 64 : Nat)).toNat

/-! ## 3. Formats -/

/-- Why a format cannot be used. -/
inductive FormatFault where
  | tooFew
  | unknown (number : Nat)
deriving DecidableEq, Repr

/-- What a format makes of cells; `shown` gives the text of a number, and `used` counts cells that
were used.  `fuel` bounds the length of the format. -/
def formatted (shown : Cell → String) (value : Cell → Nat) :
    (fuel : Nat) → (used : Nat) → List Cell → List Char → Except FormatFault (List Char)
  | 0, _, _, _ => .ok []
  | _, _, _, [] => .ok []
  | fuel + 1, used, cells, '%' :: '%' :: rest =>
    (formatted shown value fuel used cells rest).map ('%' :: ·)
  | fuel + 1, used, cells, '%' :: rest =>
    let (flags, rest) := rest.span "-+ #0".toList.contains
    -- A width or a precision, which may be the next cell.
    let measure (cells : List Cell) (rest : List Char) :
        Except FormatFault (Option Int × List Cell × List Char) :=
      match rest, cells with
      | '*' :: _, [] => .error .tooFew
      | '*' :: rest, cell :: cells => .ok (some (toInteger (value cell)), cells, rest)
      | rest, cells =>
        let (digits, rest) := rest.span Digits.isDecimal
        .ok ((Digits.toNat? 10 digits).map Int.ofNat, cells, rest)
    match measure cells rest with
    | .error fault => .error fault
    | .ok (width, cells, rest) =>
      let flags := if width.any (· < 0) then '-' :: flags else flags
      let precise : Except FormatFault (Option Int × List Cell × List Char) := match rest with
        | '.' :: rest => (measure cells rest).map fun (n, rest) => (some (n.getD 0), rest)
        | rest => .ok (none, cells, rest)
      match precise with
      | .error fault => .error fault
      | .ok (precision, cells, rest) =>
        let precision := (precision.filter (0 ≤ ·)).map Int.toNat
        match rest.dropWhile "hlLqjzt".toList.contains, cells with
        | [], _ => .error (.unknown (used + 1))
        | _ :: _, [] => .error .tooFew
        | letter :: rest, cell :: cells =>
          let directive : Format.Directive := ⟨flags, (width.getD 0).natAbs, precision, letter⟩
          let put (text : List Char) : Except FormatFault (List Char) :=
            (formatted shown value fuel (used + 1) cells rest).map (text ++ ·)
          match letter with
          | 's' =>
            let text := (shown cell).toList
            put (directive.pad (match precision with
              | some n => text.take n
              | none => text))
          | 'c' =>
            put (directive.pad [match cell with
              | .number bits => Char.ofNat ((toInteger bits % 256).toNat)
              | cell => (shown cell).toList.headD '\x00'])
          | 'd' | 'i' => put (directive.whole (toShown (value cell)))
          | 'o' | 'x' | 'X' | 'u' => put (directive.natural (toWord (value cell)))
          | 'e' | 'E' | 'f' | 'F' | 'g' | 'G' => put (directive.real (value cell))
          | _ => .error (.unknown (used + 1))
  | fuel + 1, used, cells, c :: rest => (formatted shown value fuel used cells rest).map (c :: ·)

namespace Cell

/-- The number that a cell stands for. -/
def toNumber : Cell → Nat
  | nothing => 0
  | number bits => bits
  | text words | found words => leadingNumber words.toList

/-- A number as text: whole numbers with all of their digits, others by a format. -/
def numberText (format : String) (bits : Nat) : String :=
  let limit : Int := (Nat.pow 2 64 : Nat)
  let half : Int := (Nat.pow 2 63 : Nat)
  match if double.isWhole bits then double.truncate? bits else none with
  | some n =>
    if -half ≤ n && n < limit then signedDecimal n
    else if n = limit then signedDecimal (limit - 1)
    else byFormat
  | none => byFormat
where
  /-- By the format. -/
  byFormat : String :=
    match formatted (fun _ => "") toNumber format.length 0 [.number bits] format.toList with
    | .ok shown => String.ofList shown
    | .error _ => ""

/-- The text that a cell stands for. -/
def toText (format : String) : Cell → String
  | nothing => ""
  | number bits => numberText format bits
  | text words | found words => words

/-- The number that a cell is, if it is one. -/
def number? : Cell → Option Nat
  | nothing => some 0
  | number bits => some bits
  | text _ => none
  | found words => wholeNumber? words.toList

/-- The cell holds as a condition. -/
def holds : Cell → Bool
  | nothing => false
  | number bits => !double.isZero bits
  | text words => words ≠ ""
  | found words =>
    match wholeNumber? words.toList with
    | some bits => !double.isZero bits
    | none => words ≠ ""

/-- A whole number. -/
def ofInt (n : Int) : Cell := .number (double.ofInt n)

/-- One or zero. -/
def ofBool (holds : Bool) : Cell := ofInt (if holds then 1 else 0)

end Cell

/-! ## 4. Operations -/

namespace Operator

/-- Works out an operation. -/
def apply : Operator → Nat → Nat → Nat
  | add, a, b => double.sum a b
  | subtract, a, b => double.difference a b
  | multiply, a, b => double.product a b
  | divide, a, b => double.ratio a b
  | remainder, a, b => double.remainder a b
  | power, a, b => double.power a b

end Operator

namespace Relation

/-- A relation holds if two things compare like that. -/
def accepts : Relation → Ordering → Bool
  | less, .lt | lessEqual, .lt | lessEqual, .eq | equal, .eq | unequal, .lt | unequal, .gt
  | greaterEqual, .eq | greaterEqual, .gt | greater, .gt => true
  | _, _ => false

/-- Compares two cells: as numbers if both are, and else as texts. -/
def holds (relation : Relation) (format : String) (a b : Cell) : Bool :=
  match a.number?, b.number? with
  | some n, some m =>
    if double.isNaN n || double.isNaN m then relation = .unequal
    else relation.accepts (compare (double.rank n) (double.rank m))
  | _, _ =>
    let (s, t) := (a.toText format, b.toText format)
    relation.accepts (if s = t then .eq else if s < t then .lt else .gt)

end Relation

end RenderSync.Shell.Records
