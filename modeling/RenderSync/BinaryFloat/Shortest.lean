import RenderSync.BinaryFloat.Basic

/-!
# The fewest digits that read back

For a positive finite pattern, the decimal `digits · 10 ^ exponent` with the fewest digits among
all decimals that round to it, and of those the nearest.  A decimal rounds to the pattern when it
lies between the midpoints to its two neighbours, the midpoints themselves included when the
mantissa is even.

If a point of a decimal grid lies in that interval, so does one of the pattern's two neighbours
on the grid; so for one digit, two digits and so on it is enough to look at those.
-/

namespace RenderSync.BinaryFloat

/-- A positive number `count · 2 ^ exponent`, in quarters of the last place. -/
structure Quarters where
  low : Nat
  value : Nat
  high : Nat
  exponent : Int
  closed : Bool

namespace Quarters

/-- The pattern and its midpoints.  Below a power of two the neighbours are half as far. -/
def ofBits (f : Format) (bits : Nat) : Quarters :=
  let (m, e) := f.parts bits
  let narrow := m == Nat.pow 2 f.fractionBits && f.leastExponent < e
  ⟨if narrow then 4 * m - 1 else 4 * m - 2, 4 * m, 4 * m + 2, e - 2, m % 2 == 0⟩

/-- Both sides of the comparison of `a · 10 ^ k` with `b · 2 ^ e`, as natural numbers. -/
def sides (a : Nat) (k : Int) (b : Nat) (e : Int) : Nat × Nat :=
  (a * Nat.pow 10 k.toNat * Nat.pow 2 (-e).toNat, b * Nat.pow 10 (-k).toNat * Nat.pow 2 e.toNat)

/-- Whether `c · 10 ^ k` rounds to the pattern. -/
def holds (q : Quarters) (c : Nat) (k : Int) : Bool :=
  let (cl, l) := sides c k q.low q.exponent
  let (ch, h) := sides c k q.high q.exponent
  if q.closed then l ≤ cl && ch ≤ h else l < cl && ch < h

/-- The greatest `c` with `c · 10 ^ k` at most the value. -/
def floorOn (q : Quarters) (k : Int) : Nat :=
  let (unit, v) := sides 1 k q.value q.exponent
  v / unit

/-- How many digits stand in front of the decimal point, negative for zeros behind it. -/
def places (q : Quarters) : Int :=
  let guess : Int := ((q.value.log2 : Int) + q.exponent) * 30103 / 100000
  if q.floorOn guess = 0 then guess
  else if q.floorOn (guess + 1) = 0 then guess + 1
  else guess + 2

/-- Of the value's two neighbours on the grid `10 ^ k`, the one to take. -/
def pick (q : Quarters) (k : Int) : Option Nat :=
  let c := q.floorOn k
  let (below, above) := (0 < c && q.holds c k, q.holds (c + 1) k)
  if below && above then
    let (twice, v) := sides (2 * c + 1) k (2 * q.value) q.exponent
    some (if v < twice then c else if twice < v then c + 1 else c + c % 2)
  else if below then some c
  else if above then some (c + 1)
  else none

/-- The first grid with a decimal that rounds to the pattern, from `digits` digits on. -/
def search (q : Quarters) : (fuel digits : Nat) → Nat × Int
  | 0, digits => (q.floorOn (q.places - digits), q.places - digits)
  | fuel + 1, digits =>
    match q.pick (q.places - digits) with
    | some c => (c, q.places - digits)
    | none => search q fuel (digits + 1)

end Quarters

/-- Moves zeros at the end of the digits into the exponent. -/
def stripZeros (digits : Nat) (exponent : Int) : Nat × Int :=
  if digits = 0 then (0, 0)
  else if digits % 10 = 0 then stripZeros (digits / 10) (exponent + 1)
  else (digits, exponent)
termination_by digits
decreasing_by omega

/-- The shortest decimal of a positive finite pattern; seventeen digits suffice for both
formats. -/
def Format.shortest (f : Format) (bits : Nat) : Nat × Int :=
  let (digits, exponent) := (Quarters.ofBits f bits).search 16 1
  stripZeros digits exponent

end RenderSync.BinaryFloat
