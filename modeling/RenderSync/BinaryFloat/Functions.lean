import RenderSync.BinaryFloat.Basic

/-!
# Arithmetic and functions

Sums, products, quotients, remainders and roots of patterns of either sign, infinities and what is
no number included.  Every one of them is the pattern nearest to the exact result, so it is worked
out as a quotient of integers and rounded once.

Exponentials, logarithms and angles have no exact values, so they are worked out as integers that
count parts of a power of two, with many more places than a pattern has, and rounded at the end.
The series are cut where their terms vanish: `fuel` bounds how many terms there are.
-/

namespace RenderSync.BinaryFloat.Format

/-! ## 1. Values -/

/-- What an operation without a result gives: no number, with the sign set. -/
def nothing (f : Format) : Nat := f.signed true (f.infinity + Nat.pow 2 (f.fractionBits - 1))

/-- The pattern nearest to `num / den`, for a positive `den`. -/
def ofQuotient (f : Format) (num : Int) (den : Nat) : Nat :=
  f.signed (num < 0) (f.round num.natAbs den)

/-- The pattern nearest to an integer. -/
def ofInt (f : Format) (n : Int) : Nat := f.ofQuotient n 1

/-- A finite pattern as a quotient. -/
def toQuotient (f : Format) (bits : Nat) : Int × Nat :=
  let (num, den) := f.quotient bits
  (if f.isNegative bits then -(num : Int) else num, den)

/-- It is zero, with either sign. -/
def isZero (f : Format) (bits : Nat) : Bool := f.magnitude bits = 0

/-- The same magnitude with the other sign. -/
def negate (f : Format) (bits : Nat) : Nat :=
  f.signed (!f.isNegative bits) (f.magnitude bits)

/-- Neither a fraction nor infinite. -/
def isWhole (f : Format) (bits : Nat) : Bool :=
  f.isFinite bits && (f.quotient bits).1 % (f.quotient bits).2 = 0

/-- The part in front of the point. -/
def whole (f : Format) (bits : Nat) : Nat :=
  match f.truncate? bits with
  | some n => f.signed (f.isNegative bits) (f.round n.natAbs 1)
  | none => bits

/-! ## 2. Arithmetic -/

/-- The sum. -/
def sum (f : Format) (a b : Nat) : Nat :=
  if f.isNaN a then a
  else if f.isNaN b then b
  else if f.isInfinite a then
    (if f.isInfinite b && f.isNegative a ≠ f.isNegative b then f.nothing else a)
  else if f.isInfinite b then b
  else if f.isZero a then (if f.isZero b && f.isNegative a ≠ f.isNegative b then 0 else b)
  else if f.isZero b then a
  else
    let (n, d) := f.toQuotient a
    let (m, e) := f.toQuotient b
    f.ofQuotient (n * e + m * d) (d * e)

/-- The difference. -/
def difference (f : Format) (a b : Nat) : Nat :=
  if f.isNaN b then b else f.sum a (f.negate b)

/-- The product. -/
def product (f : Format) (a b : Nat) : Nat :=
  let negative := f.isNegative a ≠ f.isNegative b
  if f.isNaN a then a
  else if f.isNaN b then b
  else if f.isInfinite a || f.isInfinite b then
    (if f.isZero a || f.isZero b then f.nothing else f.signed negative f.infinity)
  else f.signed negative (f.mul (f.magnitude a) (f.magnitude b))

/-- The quotient; what is divided by zero is infinite. -/
def ratio (f : Format) (a b : Nat) : Nat :=
  let negative := f.isNegative a ≠ f.isNegative b
  if f.isNaN a then a
  else if f.isNaN b then b
  else if f.isInfinite a then
    (if f.isInfinite b then f.nothing else f.signed negative f.infinity)
  else if f.isInfinite b then f.signed negative 0
  else if f.isZero b then
    (if f.isZero a then f.nothing else f.signed negative f.infinity)
  else f.signed negative (f.div (f.magnitude a) (f.magnitude b))

/-- The remainder of a division that leaves out the fraction; it has the sign of `a`. -/
def remainder (f : Format) (a b : Nat) : Nat :=
  if f.isNaN a then a
  else if f.isNaN b then b
  else if f.isInfinite a || f.isZero b then f.nothing
  else if f.isInfinite b then a
  else
    let (n, d) := f.quotient a
    let (m, e) := f.quotient b
    f.signed (f.isNegative a) (f.round (n * e % (m * d)) (d * e))

/-- The root of a square. -/
def root (f : Format) (a : Nat) : Nat :=
  if f.isNaN a || f.isZero a then a
  else if f.isNegative a then f.nothing
  else if f.isInfinite a then a
  else
    -- Twice as many places as a mantissa has, and a last one that tells whether there is a rest.
    let (n, d) := f.quotient a
    let places := 2 * f.fractionBits + 2 * d.log2 + 4
    let scaled := n * Nat.pow 4 places / d
    let r := Nat.sqrt scaled
    let exact := r * r = scaled && n * Nat.pow 4 places % d = 0
    f.round (2 * r + if exact then 0 else 1) (2 * Nat.pow 2 places)

end RenderSync.BinaryFloat.Format

namespace RenderSync.BinaryFloat

/-! ## 3. Many places

A number `x` stands for `x / 2 ^ places`. -/

namespace Places

/-- One. -/
def one (places : Nat) : Int := (Nat.pow 2 places : Nat)

/-- The product of two numbers. -/
def mul (places : Nat) (a b : Int) : Int := a * b / one places

/-- The quotient of two numbers. -/
def div (places : Nat) (a b : Int) : Int := a * one places / b

/-- The terms of an exponential from the `n`-th one on. -/
def exponentialFrom (places : Nat) (x : Int) : (fuel : Nat) → (n : Nat) → (term : Int) → Int
  | 0, _, _ => 0
  | fuel + 1, n, term =>
    if term = 0 then 0
    else term + exponentialFrom places x fuel (n + 1) (mul places term x / ((n + 1 : Nat) : Int))

/-- The exponential of a number that is not far from zero. -/
def exponential (places : Nat) (x : Int) : Int :=
  exponentialFrom places x (places + 8) 0 (one places)

/-- The terms of an area, whose signs change if `alternates`, from that with the divisor `n` on. -/
def areaFrom (places : Nat) (alternates : Bool) (square : Int) :
    (fuel : Nat) → (n : Nat) → (power : Int) → Int
  | 0, _, _ => 0
  | fuel + 1, n, power =>
    if power = 0 then 0
    else
      let rest := areaFrom places alternates square fuel (n + 2) (mul places power square)
      power / (n : Int) + if alternates then -rest else rest

/-- The logarithm of a number between one half and two. -/
def logarithm (places : Nat) (x : Int) : Int :=
  let z := div places (x - one places) (x + one places)
  2 * areaFrom places false (mul places z z) (places + 8) 1 z

/-- The logarithm of two. -/
def logarithmOfTwo (places : Nat) : Int := logarithm places (2 * one places)

/-- The root of a number. -/
def root (places : Nat) (x : Int) : Int := (Nat.sqrt (x * one places).toNat : Nat)

/-- The angle with a tangent between zero and one; it is halved until the series is short. -/
def angle (places : Nat) : (halvings : Nat) → (tangent : Int) → Int
  | 0, z => areaFrom places true (mul places z z) (places + 8) 1 z
  | halvings + 1, z =>
    let hypotenuse := root places (one places + mul places z z)
    2 * angle places halvings (div places z (one places + hypotenuse))

/-- Half a turn. -/
def halfTurn (places : Nat) : Int := 4 * angle places 4 (one places)

/-- The terms of a wave from the one behind the power `n` on. -/
def waveFrom (places : Nat) (square : Int) : (fuel : Nat) → (n : Nat) → (term : Int) → Int
  | 0, _, _ => 0
  | fuel + 1, n, term =>
    if term = 0 then 0
    else
      term - waveFrom places square fuel (n + 2)
        (mul places term square / (((n + 1) * (n + 2) : Nat) : Int))

/-- Sine and cosine of an angle that is not far from zero. -/
def waves (places : Nat) (x : Int) : Int × Int :=
  let square := mul places x x
  (waveFrom places square (places + 8) 1 x, waveFrom places square (places + 8) 0 (one places))

end Places

/-! ## 4. Functions -/

namespace Format

/-- How many places are enough for results. -/
def ample (f : Format) : Nat := 4 * f.fractionBits + 64

/-- The pattern nearest to a number with many places, times a power of two. -/
def ofPlaces (f : Format) (places : Nat) (x : Int) (power : Int) : Nat :=
  match power with
  | .ofNat n => f.ofQuotient (x * (Nat.pow 2 n : Nat)) (Nat.pow 2 places)
  | .negSucc n => f.ofQuotient x (Nat.pow 2 (places + n + 1))

/-- A finite pattern with many places. -/
def toPlaces (f : Format) (places : Nat) (bits : Nat) : Int :=
  let (num, den) := f.toQuotient bits
  num * Places.one places / (den : Int)

/-- The exponential of a number with many places. -/
def exponentialOf (f : Format) (places : Nat) (x : Int) : Nat :=
  let two := Places.logarithmOfTwo places
  let power := x / two
  let most : Int := (Nat.pow 2 f.exponentBits : Nat)
  if most < power then f.infinity
  else if power < -most then 0
  else f.ofPlaces places (Places.exponential places (x - power * two)) power

/-- The exponential. -/
def exponential (f : Format) (bits : Nat) : Nat :=
  if f.isNaN bits then bits
  else if f.isInfinite bits then (if f.isNegative bits then 0 else bits)
  else f.exponentialOf f.ample (f.toPlaces f.ample bits)

/-- The logarithm of a positive finite pattern, with many places. -/
def logarithmPlaces (f : Format) (places : Nat) (bits : Nat) : Int :=
  let (num, den) := f.quotient bits
  let power : Int := (num.log2 : Int) - den.log2
  let scaled : Int := match power with
    | .ofNat n => ((num * Nat.pow 2 places / (den * Nat.pow 2 n) : Nat) : Int)
    | .negSucc n => ((num * Nat.pow 2 (places + n + 1) / den : Nat) : Int)
  Places.logarithm places scaled + power * Places.logarithmOfTwo places

/-- The logarithm. -/
def logarithm (f : Format) (bits : Nat) : Nat :=
  if f.isNaN bits then bits
  else if f.isZero bits then f.signed true f.infinity
  else if f.isNegative bits then f.nothing
  else if f.isInfinite bits then bits
  else f.ofPlaces f.ample (f.logarithmPlaces f.ample bits) 0

/-- A power with a natural exponent. -/
def naturalPower (f : Format) (bits : Nat) (n : Nat) : Nat :=
  let (num, den) := f.quotient bits
  f.signed (f.isNegative bits && n % 2 = 1) (f.round (Nat.pow num n) (Nat.pow den n))

/-- A power. -/
def power (f : Format) (a b : Nat) : Nat :=
  let one := f.round 1 1
  let isOdd := match f.truncate? b with
    | some n => f.isWhole b && n % 2 = 1
    | none => false
  if f.isZero b || a = one then one
  else if f.isNaN a then a
  else if f.isNaN b then b
  else
    let negative := f.isNegative a && isOdd
    let size := f.magnitude a
    let vanishes : Bool := f.isNegative b
    if f.isZero a then f.signed negative (if vanishes then f.infinity else 0)
    else if f.isInfinite a then f.signed negative (if vanishes then 0 else f.infinity)
    else if f.isInfinite b then
      if size = one then one
      else if f.lt size one = vanishes then f.infinity
      else 0
    else if f.isNegative a && !f.isWhole b then f.nothing
    else
      match f.truncate? b with
      | some n =>
        if f.isWhole b && n.natAbs ≤ 256 then
          if vanishes then
            let (num, den) := f.quotient a
            f.signed negative (f.round (Nat.pow den n.natAbs) (Nat.pow num n.natAbs))
          else f.naturalPower a n.natAbs
        else
          let places := 2 * f.ample
          let (num, den) := f.toQuotient b
          f.signed negative (f.exponentialOf places
            (f.logarithmPlaces places size * num / (den : Int)))
      | none => f.nothing

/-- Sine and cosine. -/
def waves (f : Format) (bits : Nat) : Nat × Nat :=
  if !f.isFinite bits then (f.nothing, f.nothing)
  else
    let places := f.ample + ((f.quotient bits).1.log2 - (f.quotient bits).2.log2)
    let x := f.toPlaces places bits
    let quarter := Places.halfTurn places / 2
    let turns := (2 * x + quarter) / (2 * quarter)
    let (sine, cosine) := Places.waves places (x - turns * quarter)
    let (sine, cosine) : Int × Int := match turns % 4 with
      | 0 => (sine, cosine)
      | 1 => (cosine, -sine)
      | 2 => (-sine, -cosine)
      | _ => (-cosine, sine)
    (f.ofPlaces places sine 0, f.ofPlaces places cosine 0)

/-- The sine. -/
def sine (f : Format) (bits : Nat) : Nat :=
  if f.isZero bits then bits else (f.waves bits).1

/-- The cosine. -/
def cosine (f : Format) (bits : Nat) : Nat := (f.waves bits).2

/-- The angle at which the point with these coordinates lies. -/
def angle (f : Format) (y x : Nat) : Nat :=
  if f.isNaN y then y
  else if f.isNaN x then x
  else
    let places := f.ample
    let one := Places.one places
    let half := Places.halfTurn places
    let quarter := half / 2
    -- The angle of the magnitudes, in the first quarter.
    let first : Int :=
      if f.isZero y then 0
      else if f.isZero x then quarter
      else if f.isInfinite y && f.isInfinite x then quarter / 2
      else if f.isInfinite y then quarter
      else if f.isInfinite x then 0
      else
        let (n, d) := f.quotient y
        let (m, e) := f.quotient x
        if n * e ≤ m * d then
          Places.angle places 3 (((n * e : Nat) : Int) * one / ((m * d : Nat) : Int))
        else quarter - Places.angle places 3 (((m * d : Nat) : Int) * one / ((n * e : Nat) : Int))
    f.signed (f.isNegative y)
      (f.round (if f.isNegative x then half - first else first).toNat (Nat.pow 2 places))

end Format

end RenderSync.BinaryFloat
