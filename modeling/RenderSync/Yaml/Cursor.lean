import RenderSync.Text.Digits

/-!
# Places in a YAML text

The character classes of the format, and a cursor that keeps count of octets, lines and columns;
a column is a character.  Of the five line breaks, three are read as `\n`; the separators U+2028
and U+2029 stay as they are.
-/

namespace RenderSync.Yaml

/-- A line break. -/
def isBreak (c : Char) : Bool :=
  c = '\n' || c = '\r' || c = '\x85' || c = '\u2028' || c = '\u2029'

/-- A blank or a tab. -/
def isBlank (c : Char) : Bool := c = ' ' || c = '\t'

/-- The text ends here, or a blank or break follows. -/
def isSeparated : List Char → Bool
  | [] => true
  | c :: _ => isBlank c || isBreak c

/-- The line ends here. -/
def isLineEnd : List Char → Bool
  | [] => true
  | c :: _ => isBreak c

/-- A character of names: anchors, directives and handles. -/
def isWord (c : Char) : Bool :=
  Digits.isDecimal c || ('A' ≤ c && c ≤ 'Z') || ('a' ≤ c && c ≤ 'z') || c = '_' || c = '-'

/-- A character that a text may hold at all. -/
def isAllowed (c : Char) : Bool :=
  let n := c.toNat
  n == 0x09 || n == 0x0A || n == 0x0D || (0x20 ≤ n && n ≤ 0x7E) || n == 0x85 ||
    (0xA0 ≤ n && n ≤ 0xD7FF) || (0xE000 ≤ n && n ≤ 0xFFFD) || 0x10000 ≤ n

/-- A place in a text and what follows it. -/
structure Cursor where
  rest : List Char
  /-- How many octets came before. -/
  index : Nat
  line : Nat
  column : Nat
deriving Repr, Inhabited

namespace Cursor

/-- The start of a text. -/
def start (text : List Char) : Cursor := ⟨text, 0, 0, 0⟩

/-- The next character is `c`. -/
def sees (at_ : Cursor) (c : Char) : Bool := at_.rest.head? = some c

/-- Passes over `n` characters that are no breaks. -/
def skipMany (at_ : Cursor) (n : Nat) : Cursor where
  rest := at_.rest.drop n
  index := (at_.rest.take n).foldl (fun index c => index + c.utf8Size) at_.index
  line := at_.line
  column := at_.column + n

/-- Passes over a character that is no break. -/
def skip (at_ : Cursor) : Cursor := at_.skipMany 1

/-- Passes over a line break and gives the text it counts as; nothing at the end. -/
def line? (at_ : Cursor) : List Char × Cursor :=
  match at_.rest with
  | '\r' :: '\n' :: rest => (['\n'], ⟨rest, at_.index + 2, at_.line + 1, 0⟩)
  | '\r' :: rest => (['\n'], ⟨rest, at_.index + 1, at_.line + 1, 0⟩)
  | '\n' :: rest => (['\n'], ⟨rest, at_.index + 1, at_.line + 1, 0⟩)
  | '\x85' :: rest => (['\n'], ⟨rest, at_.index + 2, at_.line + 1, 0⟩)
  | '\u2028' :: rest => (['\u2028'], ⟨rest, at_.index + 3, at_.line + 1, 0⟩)
  | '\u2029' :: rest => (['\u2029'], ⟨rest, at_.index + 3, at_.line + 1, 0⟩)
  | _ => ([], at_)

/-- Passes over all characters of a class, none of them a break. -/
def skipWhile (p : Char → Bool) (at_ : Cursor) : Cursor :=
  at_.skipMany (at_.rest.takeWhile p).length

/-- Three equal marks at the start of a line, and then a separation. -/
def seesMark (at_ : Cursor) (c : Char) : Bool :=
  match at_.column, at_.rest with
  | 0, a :: b :: d :: rest => a = c && b = c && d = c && isSeparated rest
  | _, _ => false

/-- A mark between documents. -/
def seesDocumentMark (at_ : Cursor) : Bool := at_.seesMark '-' || at_.seesMark '.'

end Cursor

end RenderSync.Yaml
