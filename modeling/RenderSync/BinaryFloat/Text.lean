import RenderSync.BinaryFloat.Words
import RenderSync.Text.Blank
import RenderSync.Text.Digits

/-!
# Numbers written by users

A number is an optional sign, then digits with an optional point among or around them and an
optional exponent, or one of the words for infinity and for what is not a number, in letters of
either case.  The value is the one nearest to what is written.
-/

namespace RenderSync.BinaryFloat

/-- Exponents beyond this decide the value by their sign alone. -/
def exponentLimit : Nat := 100000

/-- The exponent that a text writes behind its `e`: nothing, or an optional sign and digits. -/
def exponent? : List Char → Option Int
  | [] => some 0
  | e :: rest =>
    if e = 'e' || e = 'E' then
      let (negative, digits) : Bool × List Char := match rest with
        | '-' :: digits => (true, digits)
        | '+' :: digits => (false, digits)
        | digits => (false, digits)
      if digits ≠ [] && digits.all Digits.isDecimal then
        let size := min (Digits.toNat digits) exponentLimit
        some (if negative then -(size : Int) else size)
      else none
    else none

/-- The pattern of a number without a sign. -/
def Format.unsigned? (f : Format) (text : List Char) : Option Nat :=
  let (whole, rest) := text.span Digits.isDecimal
  let (fraction, rest) : List Char × List Char := match rest with
    | '.' :: rest => rest.span Digits.isDecimal
    | rest => ([], rest)
  if whole = [] && fraction = [] then none
  else (exponent? rest).map fun exponent =>
    f.ofDecimal (Digits.toNat (whole ++ fraction)) (exponent - fraction.length)

/-- The pattern of a word that stands for a number. -/
def Format.word? (f : Format) (text : List Char) : Option Nat :=
  match String.ofList (Text.lowerAscii text) with
  | "inf" | "infinity" => some f.infinity
  | "nan" => some (f.infinity + Nat.pow 2 (f.fractionBits - 1))
  | _ => none

/-- The pattern of the number that a text writes. -/
def Format.ofText? (f : Format) (text : List Char) : Option Nat :=
  let (negative, body) : Bool × List Char := match text with
    | '-' :: body => (true, body)
    | '+' :: body => (false, body)
    | body => (false, body)
  ((f.word? body).orElse fun _ => f.unsigned? body).map (f.signed negative)

/-- The single that a text writes. -/
def Single.ofText? (text : String) : Option Single :=
  (single.ofText? text.toList).map Single.ofPattern

end RenderSync.BinaryFloat
