import RenderSync.Shell.Octets
import RenderSync.Text.Digits

/-!
# Texts as a script would write them

Ways to write a text so that a shell that reads it gets the text again: between single quotes,
between double ones, with backslashes, or with codes for octets that cannot be seen.
-/

namespace RenderSync.Shell.Quoting

/-- An octet that cannot be seen, so that it is written as a code. -/
def isHidden (c : Char) : Bool := c < ' ' || c = '\x7f'

/-- A text has to be written with codes. -/
def needsCodes (text : String) : Bool :=
  text.toList.any isHidden || (Octets.characters text.toList).any Octets.isStray

/-- An octet as a code. -/
def code (c : Char) : List Char :=
  let n := c.toNat
  match n with
  | 7 => "\\a".toList
  | 8 => "\\b".toList
  | 9 => "\\t".toList
  | 10 => "\\n".toList
  | 11 => "\\v".toList
  | 12 => "\\f".toList
  | 13 => "\\r".toList
  | 27 => "\\E".toList
  | n => ['\\', Digits.digitChar (n / 64 % 8), Digits.digitChar (n / 8 % 8),
      Digits.digitChar (n % 8)]

/-- A text with codes. -/
def coded (text : String) : String :=
  let octets := (Octets.characters text.toList).flatMap fun c =>
    if c = '\\' then "\\\\".toList
    else if c = '\'' then "\\'".toList
    else if isHidden c then code c
    else if Octets.isStray c then (Octets.ofCharacter c).flatMap code
    else Octets.ofCharacter c
  "$'" ++ String.ofList octets ++ "'"

/-- A text between single quotes. -/
def single (text : String) : String :=
  "'" ++ String.ofList (text.toList.flatMap fun c =>
    if c = '\'' then "'\\''".toList else [c]) ++ "'"

/-- A text between double quotes. -/
def double (text : String) : String :=
  "\"" ++ String.ofList (text.toList.flatMap fun c =>
    if "\"$\x60\\".toList.contains c then ['\\', c] else [c]) ++ "\""

/-- A text with backslashes in front of what means something. -/
def backslashed (text : String) : String :=
  String.ofList (text.toList.zipIdx.flatMap fun (c, n) =>
    if " !\"$&'()*,;<>?[\\]^\x60\x7b|\x7d".toList.contains c || n = 0 && (c = '#' || c = '~') then
      ['\\', c]
    else [c])

/-- A text as an argument, in as few signs as possible. -/
def brief (text : String) : String :=
  if text = "" then "''" else if needsCodes text then coded text else backslashed text

/-- A text as an argument, between quotes in any case. -/
def whole (text : String) : String := if needsCodes text then coded text else single text

/-- A text as the value of a variable. -/
def value (text : String) : String := if needsCodes text then coded text else double text

/-- A text as an argument, between quotes if it needs them. -/
def asNeeded (text : String) : String :=
  let means (c : Char) : Bool := " \t\n\"'\\|&;()<>!\x7b\x7d*[?]^$\x60".toList.contains c
  if text = "" then "''"
  else if needsCodes text then coded text
  else if text.toList.any means || text.toList.head?.any (fun c => c = '#' || c = '~') then
    single text
  else text

end RenderSync.Shell.Quoting
