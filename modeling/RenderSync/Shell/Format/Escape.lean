import RenderSync.Shell.Octets
import RenderSync.Text.Digits

/-!
# Backslashes

What a backslash and the text behind it stand for where texts are printed, and where a script says
so: letters for octets that cannot be seen, and octets and characters by their codes.
-/

namespace RenderSync.Shell

/-- A digit of a base up to sixteen. -/
def isDigitOf (base : Nat) (c : Char) : Bool := (Digits.toNat? base [c]).isSome

namespace Format

/-- The number of the octal digits in front, `most` at most, and what follows. -/
def octal (most : Nat) (text : List Char) : Nat × List Char :=
  let digits := (text.take most).takeWhile (isDigitOf 8)
  ((Digits.toNat? 8 digits).getD 0, text.drop digits.length)

/-- Letters that stand for another octet behind a backslash. -/
def escapes : List (Char × Char) :=
  [('a', '\x07'), ('b', '\x08'), ('e', '\x1b'), ('f', '\x0c'), ('n', '\n'), ('r', '\r'),
    ('t', '\t'), ('v', '\x0b'), ('\\', '\\')]

/-- The octet that a backslash and the text behind it stand for, and what follows; a backslash
that means nothing stands for itself. -/
def escape (text : List Char) : Char × List Char :=
  match text with
  | [] => ('\\', [])
  | c :: rest =>
    match escapes.lookup c with
    | some d => (d, rest)
    | none =>
      if isDigitOf 8 c then
        let (n, rest) := octal 3 text
        (Char.ofNat (n % 256), rest)
      else ('\\', text)

/-- The octets of the hexadecimal code in front, which has at most `most` digits. -/
def hexadecimal? (most : Nat) (isCharacter : Bool) (text : List Char) :
    Option (List Char × List Char) :=
  let digits := (text.take most).takeWhile (isDigitOf 16)
  (Digits.toNat? 16 digits).map fun n =>
    (if isCharacter then (Octets.ofString (Char.ofNat n).toString).toList else [Char.ofNat n],
      text.drop digits.length)

/-- The same as `escape`, where codes may be hexadecimal if `codes` says so. -/
def escapeWith (codes : Bool) (text : List Char) : List Char × List Char :=
  let simple : List Char × List Char := let (c, rest) := escape text; ([c], rest)
  if !codes then simple
  else
    let coded (most : Nat) (isCharacter : Bool) (rest : List Char) : List Char × List Char :=
      (hexadecimal? most isCharacter rest).getD simple
    match text with
    | 'x' :: rest => coded 2 false rest
    | 'u' :: rest => coded 4 true rest
    | 'U' :: rest => coded 8 true rest
    | 'E' :: rest => (['\x1b'], rest)
    | '"' :: rest => (['"'], rest)
    | _ => simple

/-- A text with its backslashes taken as such.  The flag says that one of them ends all
printing. -/
def unescapeFuel (codes : Bool) : (fuel : Nat) → List Char → List Char × Bool
  | 0, _ | _, [] => ([], false)
  | fuel + 1, c :: rest =>
    let goOn (front : List Char) (rest : List Char) : List Char × Bool :=
      let (text, ends) := unescapeFuel codes fuel rest
      (front ++ text, ends)
    match c, rest with
    | '\\', 'c' :: _ => ([], true)
    | '\\', '0' :: rest =>
      let (n, rest) := octal 3 rest
      goOn [Char.ofNat (n % 256)] rest
    | '\\', rest =>
      let (front, rest) := escapeWith codes rest
      goOn front rest
    | _, _ => goOn [c] rest

/-- `unescapeFuel` with as much fuel as there is text. -/
def unescapeWith (codes : Bool) (text : String) : List Char × Bool :=
  unescapeFuel codes text.length text.toList

/-- A text with its backslashes taken as such, where codes are octal. -/
def unescape (text : String) : List Char × Bool := unescapeWith false text

/-- A text of a script with its backslashes taken as such, up to the quote that closes it, and what
follows; `fuel` bounds its length. -/
def quotedFuel : (fuel : Nat) → List Char → Option (List Char × List Char)
  | 0, _ | _, [] => none
  | fuel + 1, c :: rest =>
    let goOn (front rest : List Char) : Option (List Char × List Char) :=
      (quotedFuel fuel rest).map fun (text, rest) => (front ++ text, rest)
    match c, rest with
    | '\'', _ => some ([], rest)
    | '\\', '\'' :: rest => goOn ['\''] rest
    | '\\', '?' :: rest => goOn ['?'] rest
    | '\\', 'c' :: d :: rest => goOn [Char.ofNat (d.toUpper.toNat ^^^ 64)] rest
    | '\\', rest =>
      let (front, rest) := escapeWith true rest
      goOn front rest
    | _, _ => goOn [c] rest

end Format

end RenderSync.Shell
