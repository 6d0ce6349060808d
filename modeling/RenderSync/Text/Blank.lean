/-!
# Blanks

The characters with the Unicode property White_Space, and the functions that cut them off.
-/

namespace RenderSync.Text

/-- The property White_Space: nine ranges, from tab to the ideographic space. -/
def isBlank (c : Char) : Bool :=
  let n := c.toNat
  (9 ≤ n && n ≤ 13) || n == 0x20 || n == 0x85 || n == 0xA0 || n == 0x1680 ||
    (0x2000 ≤ n && n ≤ 0x200A) || n == 0x2028 || n == 0x2029 || n == 0x202F || n == 0x205F ||
    n == 0x3000

/-- Cuts blanks at the front. -/
def trimStart (text : List Char) : List Char := text.dropWhile isBlank

/-- Cuts blanks at the end. -/
def trimEnd (text : List Char) : List Char := (trimStart text.reverse).reverse

/-- Cuts blanks at both ends. -/
def trim (text : List Char) : List Char := trimEnd (trimStart text)

/-- A text without a single character that is not blank. -/
def isAllBlank (text : List Char) : Bool := text.all isBlank

/-- Splits at every `separator`: one piece more than there are separators. -/
def splitAt (separator : Char) : List Char → List (List Char)
  | [] => [[]]
  | c :: rest =>
    if c = separator then [] :: splitAt separator rest
    else
      match splitAt separator rest with
      | [] => [[c]]
      | piece :: pieces => (c :: piece) :: pieces

/-- ASCII capitals to small letters, all else kept. -/
def lowerAscii (text : List Char) : List Char :=
  text.map fun c => if 'A' ≤ c ∧ c ≤ 'Z' then Char.ofNat (c.toNat + 32) else c

end RenderSync.Text
