/-!
# UTF-8

Octets to characters and back.  A text is well formed when its octets split into the
characters that encode it; `decode?` gives those characters, `decodeLossy` puts U+FFFD for
every maximal run of octets that starts a character and cannot be completed.

The second octet decides which three- and four-octet characters exist: after `E0` it is at
least `A0`, after `ED` at most `9F` (no surrogates), after `F0` at least `90`, after `F4` at
most `8F` (nothing above U+10FFFF).
-/

namespace RenderSync.Utf8

/-! ## 1. One character -/

/-- A continuation octet, `80` to `BF`. -/
def isTail (b : UInt8) : Bool := 0x80 ≤ b && b ≤ 0xBF

/-- The six payload bits of a continuation octet. -/
def tailBits (b : UInt8) : Nat := b.toNat % 64

/-- The second octets that may follow the lead octet `lead`. -/
def secondFits (lead second : UInt8) : Bool :=
  if lead == 0xE0 then 0xA0 ≤ second && second ≤ 0xBF
  else if lead == 0xED then 0x80 ≤ second && second ≤ 0x9F
  else if lead == 0xF0 then 0x90 ≤ second && second ≤ 0xBF
  else if lead == 0xF4 then 0x80 ≤ second && second ≤ 0x8F
  else isTail second

/-- How many octets follow the lead octet, or `none` where no character starts. -/
def tailCount? (lead : UInt8) : Option Nat :=
  if lead < 0x80 then some 0
  else if 0xC2 ≤ lead && lead ≤ 0xDF then some 1
  else if 0xE0 ≤ lead && lead ≤ 0xEF then some 2
  else if 0xF0 ≤ lead && lead ≤ 0xF4 then some 3
  else none

/-- The character that starts with `lead` and how many of the octets after it belong to it;
`none` for a lead octet without its tail, with the number of octets spoilt along with it. -/
def next (lead : UInt8) (rest : List UInt8) : Option Char × Nat :=
  match tailCount? lead, rest with
  | some 0, _ => (some (Char.ofNat lead.toNat), 0)
  | some 1, b :: _ =>
    if secondFits lead b then (some (Char.ofNat (lead.toNat % 32 * 64 + tailBits b)), 1)
    else (none, 0)
  | some 2, [b] => if secondFits lead b then (none, 1) else (none, 0)
  | some 2, b :: c :: _ =>
    if secondFits lead b then
      if isTail c then
        (some (Char.ofNat ((lead.toNat % 16 * 64 + tailBits b) * 64 + tailBits c)), 2)
      else (none, 1)
    else (none, 0)
  | some 3, [b] => if secondFits lead b then (none, 1) else (none, 0)
  | some 3, [b, c] =>
    if secondFits lead b then if isTail c then (none, 2) else (none, 1) else (none, 0)
  | some 3, b :: c :: d :: _ =>
    if secondFits lead b then
      if isTail c then
        if isTail d then
          (some (Char.ofNat
            (((lead.toNat % 8 * 64 + tailBits b) * 64 + tailBits c) * 64 + tailBits d)), 3)
        else (none, 2)
      else (none, 1)
    else (none, 0)
  | _, _ => (none, 0)

/-! ## 2. Texts -/

/-- The characters of `octets` in order, `none` where octets are spoilt. -/
def scan : List UInt8 → List (Option Char)
  | [] => []
  | lead :: rest => (next lead rest).1 :: scan (rest.drop (next lead rest).2)
termination_by octets => octets.length
decreasing_by simp only [List.length_drop, List.length_cons]; omega

/-- The characters of a well-formed text. -/
def decode? (octets : List UInt8) : Option (List Char) := (scan octets).mapM id

/-- The characters of any octets, spoilt ones read as U+FFFD. -/
def decodeLossy (octets : List UInt8) : List Char := (scan octets).map (·.getD '\uFFFD')

/-- The octets of one character. -/
def encodeChar (c : Char) : List UInt8 :=
  let n := c.toNat
  if n < 0x80 then [n.toUInt8]
  else if n < 0x800 then [(0xC0 + n / 64).toUInt8, (0x80 + n % 64).toUInt8]
  else if n < 0x10000 then
    [(0xE0 + n / 4096).toUInt8, (0x80 + n / 64 % 64).toUInt8, (0x80 + n % 64).toUInt8]
  else
    [(0xF0 + n / 262144).toUInt8, (0x80 + n / 4096 % 64).toUInt8,
      (0x80 + n / 64 % 64).toUInt8, (0x80 + n % 64).toUInt8]

/-- The octets of a text. -/
def encode (text : List Char) : List UInt8 := text.flatMap encodeChar

/-- The octets of a string. -/
def ofString (s : String) : List UInt8 := encode s.toList

/-- The string of well-formed octets. -/
def toString? (octets : List UInt8) : Option String := (decode? octets).map String.ofList

/-- The string of any octets, spoilt ones read as U+FFFD. -/
def toStringLossy (octets : List UInt8) : String := String.ofList (decodeLossy octets)

/-- How many octets `text` takes. -/
def size (text : List Char) : Nat := (encode text).length

end RenderSync.Utf8
