/-!
# Binary floating point

The interchange formats of one sign bit, some exponent bits and some fraction bits, as bit
patterns in `Nat`.  A finite pattern is `± mantissa · 2 ^ exponent`, exactly; `Format.round`
gives the pattern nearest to a quotient of natural numbers, a tie going to the even mantissa
and everything too large to infinity.  No machine arithmetic is involved, so every operation
below is a statement about integers.
-/

namespace RenderSync.BinaryFloat

/-! ## 1. Formats and their values -/

/-- A format, by the widths of its fields. -/
structure Format where
  fractionBits : Nat
  exponentBits : Nat
deriving DecidableEq, Repr

/-- Thirty-two bits. -/
def single : Format := ⟨23, 8⟩

/-- Sixty-four bits. -/
def double : Format := ⟨52, 11⟩

namespace Format

/-- The exponent of the last place of the smallest numbers: `-149` and `-1074`. -/
def leastExponent (f : Format) : Int := 2 - Nat.pow 2 (f.exponentBits - 1) - f.fractionBits

/-- The pattern of positive infinity. -/
def infinity (f : Format) : Nat := (Nat.pow 2 f.exponentBits - 1) * Nat.pow 2 f.fractionBits

/-- The sign bit alone: the pattern of negative zero. -/
def signBit (f : Format) : Nat := Nat.pow 2 (f.exponentBits + f.fractionBits)

/-- `pattern` with the sign that `negative` says. -/
def signed (f : Format) (negative : Bool) (pattern : Nat) : Nat :=
  if negative then f.signBit + pattern else pattern

/-- Whether the sign bit is set. -/
def isNegative (f : Format) (bits : Nat) : Bool := f.signBit ≤ bits

/-- The pattern without its sign. -/
def magnitude (f : Format) (bits : Nat) : Nat := bits % f.signBit

/-- Not a number. -/
def isNaN (f : Format) (bits : Nat) : Bool := f.infinity < f.magnitude bits

/-- Either infinity. -/
def isInfinite (f : Format) (bits : Nat) : Bool := f.magnitude bits == f.infinity

/-- Neither infinite nor not a number. -/
def isFinite (f : Format) (bits : Nat) : Bool := f.magnitude bits < f.infinity

/-- Mantissa and exponent of a finite pattern: its magnitude is `mantissa · 2 ^ exponent`. -/
def parts (f : Format) (bits : Nat) : Nat × Int :=
  let fraction := f.magnitude bits % Nat.pow 2 f.fractionBits
  let biased := f.magnitude bits / Nat.pow 2 f.fractionBits
  if biased = 0 then (fraction, f.leastExponent)
  else (Nat.pow 2 f.fractionBits + fraction, f.leastExponent + (biased - 1 : Nat))

/-- The magnitude of a finite pattern as a quotient of natural numbers. -/
def quotient (f : Format) (bits : Nat) : Nat × Nat :=
  match f.parts bits with
  | (m, .ofNat e) => (m * Nat.pow 2 e, 1)
  | (m, .negSucc e) => (m, Nat.pow 2 (e + 1))

/-! ## 2. Rounding -/

/-- Whether `2 ^ e ≤ num / den`. -/
def reaches (num den : Nat) (e : Int) : Bool :=
  match e with
  | .ofNat e => den * Nat.pow 2 e ≤ num
  | .negSucc e => den ≤ num * Nat.pow 2 (e + 1)

/-- `num / den` to the nearest integer, a tie to the even one. -/
def nearestEven (num den : Nat) : Nat :=
  let q := num / den
  let r := num % den
  if 2 * r < den then q else if den < 2 * r then q + 1 else q + q % 2

/-- The pattern nearest to `num / den`, for a positive `den`.

The last place of the answer has exponent `last`: `fractionBits` below the leading bit, but
never below the least one.  A mantissa that rounds up to the next power of two carries into
the exponent field by plain addition. -/
def round (f : Format) (num den : Nat) : Nat :=
  if num = 0 then 0
  else
    let guess : Int := (num.log2 : Int) - den.log2
    let leading := if reaches num den guess then guess else guess - 1
    let last := max (leading - f.fractionBits) f.leastExponent
    let mantissa :=
      match last with
      | .ofNat e => nearestEven num (den * Nat.pow 2 e)
      | .negSucc e => nearestEven (num * Nat.pow 2 (e + 1)) den
    min f.infinity ((last - f.leastExponent).toNat * Nat.pow 2 f.fractionBits + mantissa)

/-- The pattern nearest to `coefficient · 10 ^ exponent`.  Beyond four hundred places either
way the answer is infinity or zero in every format here, so no larger power is formed. -/
def ofDecimal (f : Format) (coefficient : Nat) (exponent : Int) : Nat :=
  if coefficient = 0 then 0
  else
    let top : Int := exponent + (coefficient.log2 / 3 + 1 : Nat)
    if 800 < exponent then f.infinity
    else if top < -400 then 0
    else
      match exponent with
      | .ofNat e => f.round (coefficient * Nat.pow 10 e) 1
      | .negSucc e => f.round coefficient (Nat.pow 10 (e + 1))

/-! ## 3. Arithmetic and comparison -/

/-- The product of two positive patterns. -/
def mul (f : Format) (a b : Nat) : Nat :=
  if f.isFinite a && f.isFinite b then
    f.round ((f.quotient a).1 * (f.quotient b).1) ((f.quotient a).2 * (f.quotient b).2)
  else f.infinity

/-- The quotient of two positive finite patterns. -/
def div (f : Format) (a b : Nat) : Nat :=
  f.round ((f.quotient a).1 * (f.quotient b).2) ((f.quotient a).2 * (f.quotient b).1)

/-- Where a pattern stands on the number line; both zeros stand at zero. -/
def rank (f : Format) (bits : Nat) : Int :=
  if f.isNegative bits then -(f.magnitude bits : Int) else f.magnitude bits

/-- `a ≤ b`, which nothing that is not a number satisfies. -/
def le (f : Format) (a b : Nat) : Bool :=
  !f.isNaN a && !f.isNaN b && f.rank a ≤ f.rank b

/-- `a < b`, which nothing that is not a number satisfies. -/
def lt (f : Format) (a b : Nat) : Bool :=
  !f.isNaN a && !f.isNaN b && f.rank a < f.rank b

/-- The integer part, toward zero; infinities and NaN have none. -/
def truncate? (f : Format) (bits : Nat) : Option Int :=
  if f.isFinite bits then
    let n : Int := ((f.quotient bits).1 / (f.quotient bits).2 : Nat)
    some (if f.isNegative bits then -n else n)
  else none

/-- The integer part brought into `low … high`; zero for NaN. -/
def saturate (f : Format) (low high : Int) (bits : Nat) : Int :=
  match f.truncate? bits with
  | some n => max low (min high n)
  | none => if f.isNaN bits then 0 else if f.isNegative bits then low else high

/-- The pattern of `g` nearest to a pattern of `f`. -/
def convert (f g : Format) (bits : Nat) : Nat :=
  g.signed (f.isNegative bits)
    (if f.isNaN bits then g.infinity + Nat.pow 2 (g.fractionBits - 1)
     else if f.isInfinite bits then g.infinity
     else g.round (f.quotient bits).1 (f.quotient bits).2)

end Format

end RenderSync.BinaryFloat
