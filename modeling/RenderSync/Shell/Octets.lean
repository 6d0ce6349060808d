import RenderSync.Text.Utf8

/-!
# Texts of the shell

The shell knows octets, not characters: the length of a text is its number of octets, and a
pattern for one character matches one octet.  So inside the shell every text is a string whose
characters are octets, each with a code below 256.  `Octets.ofString` and `Octets.toString` lead in
and out; what is no UTF-8 is lost only on the way out.

Programs that know characters look at `characters`, in which an octet that belongs to none stands
for itself, out of the way of all characters; `ofCharacters` leads back.
-/

namespace RenderSync.Shell.Octets

/-- The text of octets. -/
def ofBytes (bytes : List UInt8) : String := String.ofList (bytes.map fun b => Char.ofNat b.toNat)

/-- The octets of a text. -/
def toBytes (text : String) : List UInt8 := text.toList.map fun c => c.toNat.toUInt8

/-- A string from outside. -/
def ofString (s : String) : String := ofBytes (Utf8.ofString s)

/-- A string for the outside. -/
def toString (text : String) : String := Utf8.toStringLossy (toBytes text)

/-- Where the octets stand that belong to no character. -/
def strayBase : Nat := 0x10FF00

/-- The characters of octets; an octet that belongs to none stands for itself. -/
def characters (text : List Char) : List Char :=
  if text.all (· < '\x80') then text else go text
where
  /-- The characters one by one. -/
  go : List Char → List Char
    | [] => []
    | c :: rest =>
      match Utf8.next c.toNat.toUInt8 ((rest.take 3).map fun c => c.toNat.toUInt8) with
      | (some found, n) => found :: go (rest.drop n)
      | (none, _) => Char.ofNat (strayBase + c.toNat) :: go rest
  termination_by text => text.length
  decreasing_by all_goals simp +arith

/-- The octets of a character. -/
def ofCharacter (c : Char) : List Char :=
  if c < '\x80' then [c]
  else if strayBase ≤ c.toNat then [Char.ofNat (c.toNat - strayBase)]
  else (ofString c.toString).toList

/-- The octets of characters. -/
def ofCharacters (text : List Char) : List Char :=
  if text.all (· < '\x80') then text else text.flatMap ofCharacter

/-- The octet belongs to no character. -/
def isStray (c : Char) : Bool := strayBase ≤ c.toNat

end RenderSync.Shell.Octets
