import RenderSync.Yaml.Core

/-!
# Writing YAML scalars

A string is written so that it reads back as a string.  It is plain if nothing about it could be
taken for something else, quoted once if it looks like a number, a truth value or null, or starts
like a mark; strings with `\n` become literal blocks; what only escapes can express is quoted
twice.  Lines are never folded.
-/

namespace RenderSync.Yaml

/-! ## 1. What a string looks like -/

/-- A string that a plain scalar would not keep a string. -/
def isAmbiguous (text : List Char) : Bool :=
  text = [] || isNull text || (bool? text).isSome || (natBelow? (Nat.pow 2 128) text).isSome ||
    isNegativeInteger (Nat.pow 2 127) text || (!hasSpareZero text && isReal text) ||
    hasSpareZero text

/-- A character that needs no escape. -/
def isPrintable (c : Char) : Bool :=
  let n := c.toNat
  n == 0x0A || (0x20 ≤ n && n ≤ 0x7E) || (0xA0 ≤ n && n ≤ 0xD7FF) ||
    (0xE000 ≤ n && n ≤ 0xFFFD && n != 0xFEFF) || 0x10000 ≤ n

/-- A mark that no plain scalar starts with. -/
def startsAsMark (c : Char) (rest : List Char) : Bool :=
  "#,[]\x7b\x7d&*!|>'\"%@".toList.contains c || c = '\x60' ||
    ((c = '?' || c = ':' || c = '-') && isSeparated rest)

/-- A colon or a hash, behind the first character, that would end a plain scalar. -/
def endsEarly : (previous : Char) → List Char → Bool
  | _, [] => false
  | previous, c :: rest =>
    (c = ':' && isSeparated rest) || (c = '#' && (isBlank previous || isBreak previous)) ||
      endsEarly c rest

/-- Looks like a mark between documents. -/
def startsAsDocument (text : List Char) : Bool :=
  text.take 3 = ['-', '-', '-'] || text.take 3 = ['.', '.', '.']

/-- Some character with `p` is followed by one with `q`. -/
def hasPair (p q : Char → Bool) : List Char → Bool
  | a :: b :: rest => (p a && q b) || hasPair p q (b :: rest)
  | _ => false

/-- What matters about a string for the way it is written. -/
structure Look where
  text : List Char

namespace Look

/-- A character that only an escape can express. -/
def special (look : Look) : Bool := look.text.any fun c => !isPrintable c

/-- A blank right before a break, which no unescaped form keeps. -/
def blankBeforeBreak (look : Look) : Bool := hasPair (· = ' ') isBreak look.text

/-- A blank right behind a break, which only blocks keep. -/
def blankBehindBreak (look : Look) : Bool := hasPair isBreak (· = ' ') look.text

/-- Several lines. -/
def multiline (look : Look) : Bool := look.text.any isBreak

/-- A blank or break at an end. -/
def looseEnds (look : Look) : Bool :=
  look.text.head?.any (fun c => c = ' ' || isBreak c) ||
    look.text.getLast?.any (fun c => c = ' ' || isBreak c)

/-- Something that a plain scalar outside brackets cannot hold. -/
def marked (look : Look) : Bool :=
  startsAsDocument look.text ||
    match look.text with
    | [] => false
    | c :: rest => startsAsMark c rest || endsEarly c rest

/-- May be plain. -/
def plain (look : Look) : Bool :=
  !look.text.isEmpty && !look.looseEnds && !look.blankBehindBreak && !look.blankBeforeBreak &&
    !look.special && !look.multiline && !look.marked

/-- May be quoted once. -/
def singleQuoted (look : Look) : Bool :=
  !look.blankBehindBreak && !look.blankBeforeBreak && !look.special

/-- May be a block. -/
def block (look : Look) : Bool :=
  !look.text.isEmpty && look.text.getLast? ≠ some ' ' && !look.blankBeforeBreak && !look.special

end Look

/-- How a string is written. -/
def styleOf (text : List Char) : Style :=
  let look : Look := ⟨text⟩
  if text.contains '\n' then if look.block then .literal else .doubleQuoted
  else if !isAmbiguous text && look.plain then .plain
  else if look.singleQuoted then .singleQuoted
  else .doubleQuoted

/-! ## 2. Forms -/

/-- A break and the indentation of the next line. -/
def blanks (n : Nat) : List Char := List.replicate n ' '

/-- A single-quoted string.  A break `\n` at the start of a run of breaks is written twice, and
the line behind a run is indented. -/
def singleBody (indent : Nat) : (inBreaks : Bool) → List Char → List Char
  | inBreaks, [] => if inBreaks then blanks indent else []
  | inBreaks, c :: rest =>
    if isBreak c then
      (if !inBreaks && c = '\n' then ['\n', '\n'] else [c]) ++ singleBody indent true rest
    else
      (if inBreaks && c ≠ ' ' then blanks indent else []) ++
        (if c = '\'' then ['\'', '\''] else [c]) ++
        singleBody indent (inBreaks && c = ' ') rest

/-- The escape of a character between double quotes. -/
def escape (c : Char) : List Char :=
  match c with
  | '\x00' => ['\\', '0']
  | '\x07' => ['\\', 'a']
  | '\x08' => ['\\', 'b']
  | '\t' => ['\\', 't']
  | '\n' => ['\\', 'n']
  | '\x0b' => ['\\', 'v']
  | '\x0c' => ['\\', 'f']
  | '\r' => ['\\', 'r']
  | '\x1b' => ['\\', 'e']
  | '"' => ['\\', '"']
  | '\\' => ['\\', '\\']
  | '\x85' => ['\\', 'N']
  | '\xa0' => ['\\', '_']
  | '\u2028' => ['\\', 'L']
  | '\u2029' => ['\\', 'P']
  | c =>
    let upper (digits : List Char) : List Char :=
      digits.map fun c => if 'a' ≤ c ∧ c ≤ 'f' then Char.ofNat (c.toNat - 32) else c
    if c.toNat ≤ 0xFF then '\\' :: 'x' :: upper (Digits.hex 2 c.toNat)
    else if c.toNat ≤ 0xFFFF then '\\' :: 'u' :: upper (Digits.hex 4 c.toNat)
    else '\\' :: 'U' :: upper (Digits.hex 8 c.toNat)

/-- A character between double quotes. -/
def doubleChar (c : Char) : List Char :=
  if !isPrintable c || isBreak c || c = '"' || c = '\\' then escape c else [c]

/-- The lines of a literal block; the first character of every line is behind the
indentation. -/
def literalBody (indent : Nat) : (lineStart : Bool) → List Char → List Char
  | _, [] => []
  | lineStart, c :: rest =>
    if isBreak c then c :: literalBody indent true rest
    else (if lineStart then blanks indent else []) ++ c :: literalBody indent false rest

/-- What the header of a block says: an indentation when the first line does not show it, and
what becomes of the breaks at the end. -/
def literalHeader (text : List Char) : List Char :=
  let hint := if text.head?.any (fun c => c = ' ' || isBreak c) then ['2'] else []
  match text.reverse with
  | [] => hint ++ ['-']
  | c :: rest =>
    if !isBreak c then hint ++ ['-']
    else
      match rest with
      | [] => hint ++ ['+']
      | d :: _ => if isBreak d then hint ++ ['+'] else hint

/-- A string as the value of a field, behind the colon, with the break at its end; further lines
are indented by `indent`. -/
def writeText (indent : Nat) (text : List Char) : List Char :=
  match styleOf text with
  | .plain => ' ' :: text ++ ['\n']
  | .singleQuoted => ' ' :: '\'' :: singleBody indent false text ++ ['\'', '\n']
  | .doubleQuoted => ' ' :: '"' :: text.flatMap doubleChar ++ ['"', '\n']
  | .literal | .folded =>
    let body := literalBody indent true text
    ' ' :: '|' :: literalHeader text ++ '\n' :: body ++
      (if text.getLast?.any isBreak then [] else ['\n'])

end RenderSync.Yaml
