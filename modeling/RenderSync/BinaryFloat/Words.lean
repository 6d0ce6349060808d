import RenderSync.BinaryFloat.Basic

/-!
# Doubles and singles as words

The two formats in use, with their patterns as machine words.
-/

namespace RenderSync.BinaryFloat

/-- A double by its pattern. -/
structure Double where
  bits : UInt64
deriving DecidableEq, Repr, Inhabited

/-- A single by its pattern. -/
structure Single where
  bits : UInt32
deriving DecidableEq, Repr, Inhabited

namespace Double

/-- The double with a pattern. -/
def ofPattern (pattern : Nat) : Double := ⟨pattern.toUInt64⟩

/-- The pattern. -/
def pattern (d : Double) : Nat := d.bits.toNat

/-- The double nearest to an integer. -/
def ofInt (n : Int) : Double := ofPattern (double.signed (n < 0) (double.round n.natAbs 1))

/-- Neither infinite nor not a number. -/
def isFinite (d : Double) : Bool := double.isFinite d.pattern

/-- The single nearest to a double. -/
def toSingle (d : Double) : Single := ⟨(double.convert single d.pattern).toUInt32⟩

end Double

namespace Single

/-- The single with a pattern. -/
def ofPattern (pattern : Nat) : Single := ⟨pattern.toUInt32⟩

/-- The pattern. -/
def pattern (s : Single) : Nat := s.bits.toNat

/-- Positive zero. -/
def zero : Single := ⟨0⟩

/-- The single nearest to a natural number. -/
def ofNat (n : Nat) : Single := ofPattern (single.round n 1)

/-- The single nearest to an integer. -/
def ofInt (n : Int) : Single := ofPattern (single.signed (n < 0) (single.round n.natAbs 1))

/-- Not a number. -/
def isNaN (s : Single) : Bool := single.isNaN s.pattern

/-- `a ≤ b`; false as soon as one is not a number. -/
def le (a b : Single) : Bool := single.le a.pattern b.pattern

/-- `a < b`; false as soon as one is not a number. -/
def lt (a b : Single) : Bool := single.lt a.pattern b.pattern

/-- The bound that `s` has passed, or else `s`: what is not a number stays as it is. -/
def clamp (s low high : Single) : Single :=
  if s.lt low then low else if high.lt s then high else s

/-- The integer part brought into the signed words of thirty-two bits; zero for NaN. -/
def toInt32 (s : Single) : Int := single.saturate (-2147483648) 2147483647 s.pattern

/-- The integer part brought into the unsigned words of thirty-two bits; zero for NaN. -/
def toWord32 (s : Single) : Int := single.saturate 0 4294967295 s.pattern

end Single

end RenderSync.BinaryFloat
