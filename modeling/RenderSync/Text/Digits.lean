/-!
# Digits

Natural numbers in a base from two to sixteen, as characters.
-/

namespace RenderSync.Digits

/-- The character of a digit, small letters above nine. -/
def digitChar (d : Nat) : Char := if d < 10 then Char.ofNat (48 + d) else Char.ofNat (87 + d)

/-- The value of a digit in any base up to sixteen. -/
def value? (c : Char) : Option Nat :=
  if '0' ≤ c ∧ c ≤ '9' then some (c.toNat - 48)
  else if 'a' ≤ c ∧ c ≤ 'f' then some (c.toNat - 87)
  else if 'A' ≤ c ∧ c ≤ 'F' then some (c.toNat - 55)
  else none

/-- A decimal digit. -/
def isDecimal (c : Char) : Bool := '0' ≤ c && c ≤ '9'

/-- The decimal digits of `n`, none in front that could be left out. -/
def ofNat (n : Nat) : List Char :=
  if n < 10 then [digitChar n] else ofNat (n / 10) ++ [digitChar (n % 10)]
termination_by n
decreasing_by omega

/-- The decimal digits of an integer, `-` in front of a negative one. -/
def ofInt : Int → List Char
  | .ofNat n => ofNat n
  | .negSucc n => '-' :: ofNat (n + 1)

/-- The number that decimal digits write, other characters counting as zero. -/
def toNat (digits : List Char) : Nat :=
  digits.foldl (fun n c => n * 10 + (value? c).getD 0) 0

/-- The number that `text` writes in `base`: digits only, and at least one. -/
def toNat? (base : Nat) : List Char → Option Nat
  | [] => none
  | c :: rest =>
    (c :: rest).foldl
      (fun sum c => do
        let n ← sum
        let d ← value? c
        if d < base then some (n * base + d) else none)
      (some 0)

/-- `width` hexadecimal digits of `n`, the least significant last. -/
def hex (width n : Nat) : List Char :=
  match width with
  | 0 => []
  | width + 1 => hex width (n / 16) ++ [digitChar (n % 16)]

/-- The bytes that pairs of hexadecimal digits stand for. -/
def toBytes : List Char → List UInt8
  | high :: low :: rest => ((toNat? 16 [high, low]).getD 0).toUInt8 :: toBytes rest
  | _ => []

end RenderSync.Digits
