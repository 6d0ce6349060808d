import RenderSync.BinaryFloat.Text
import RenderSync.Shell.Arithmetic
import RenderSync.Shell.Format.Escape

/-!
# Printing by a format

A format is text with directives: a percent sign, flags, a width, a precision and a letter that
says what is made of the next argument.  A format is used again as long as arguments are left that
it takes; an argument that is missing is empty or zero.

`fill` does one round; `printed` is the whole.  A number that cannot be read is complained about
and counts as far as it can be read.  Programs that print differ in a few directives and in how
they complain: a `Style` says what there is, and complaints come as what is wrong.
-/

namespace RenderSync.Shell.Format

/-- What a program that prints by a format knows beyond the rest. -/
structure Style where
  /-- Codes behind a backslash may be hexadecimal. -/
  codes : Bool
  /-- A backslash with `c` in a format ends it. -/
  cuts : Bool
  /-- Letters for the size of a number may stand in front of a directive. -/
  sizes : Bool
  /-- How `%q` quotes. -/
  quote : Option (String → String)

/-- A program that knows nothing beyond the rest. -/
def plain : Style := ⟨false, false, false, none⟩

/-- What is wrong with a format or an argument. -/
inductive Complaint where
  | notNumeric (text : String)
  /-- Only a part of it is a number. -/
  | partly (text : String)
  | outOfRange (text : String)
  /-- A directive up to its letter, which makes no sense. -/
  | unknown (directive : String)
  /-- A directive without a letter. -/
  | unfinished (directive : String)
deriving DecidableEq, Repr, Inhabited

/-- A complaint in the words of the shell. -/
def Complaint.message : Complaint → String
  | notNumeric text => text ++ ": expected numeric value"
  | partly text => text ++ ": not completely converted"
  | outOfRange text => text ++ ": Numerical result out of range"
  | unknown directive => directive ++ ": invalid directive"
  | unfinished _ => "missing format character"

/-! ## 1. Words -/

/-- What is printed of words with a blank between them and the end of a line behind them, unless
the first of them says that there is to be none. -/
def echo (words : List String) : List Char :=
  let (words, ending) : List String × List Char := match words with
    | "-n" :: words => (words, [])
    | words => (words, ['\n'])
  let (text, ends) := unescape (" ".intercalate words)
  if ends then text else text ++ ending

/-- What is printed of words where options in front say whether backslashes mean something, and that
there is to be no end of a line. -/
def echoWithOptions (words : List String) : List Char :=
  let isOption (word : String) : Bool :=
    match word.toList with
    | '-' :: letters => letters ≠ [] && letters.all fun c => c = 'n' || c = 'e' || c = 'E'
    | _ => false
  let (options, words) := words.span isOption
  let letters := options.flatMap String.toList
  let escapes := (letters.filter fun c => c = 'e' || c = 'E').getLast? = some 'e'
  let text := " ".intercalate words
  let (shown, ends) := if escapes then unescapeWith true text else (text.toList, false)
  if letters.contains 'n' || ends then shown else shown ++ ['\n']

/-! ## 2. Arguments -/

/-- A number of an argument, and the complaint about it. -/
abbrev Read (α : Type) := α × Option Complaint

/-- The complaint about an argument of which `rest` could not be read. -/
def unread (text : String) (rest : List Char) (outOfRange : Bool) : Option Complaint :=
  if rest = text.toList && rest ≠ [] then some (.notNumeric text)
  else if rest ≠ [] then some (.partly text)
  else if outOfRange then some (.outOfRange text)
  else none

/-- The code of the octet behind a quote. -/
def quotedCode? (text : String) : Option Nat :=
  match text.toList with
  | '\'' :: rest | '"' :: rest => some ((rest.head?.map Char.toNat).getD 0)
  | _ => none

/-- The whole number of an argument. -/
def signed (text : String) : Read Int :=
  match quotedCode? text with
  | some code => (code, none)
  | none =>
    match prefixInt true text.toList with
    | none => (0, unread text text.toList false)
    | some (n, rest) => (clamp n, unread text rest (clamp n ≠ n))

/-- The number without a sign of an argument, which wraps around if it has one. -/
def unsigned (text : String) : Read Nat :=
  match quotedCode? text with
  | some code => (code, none)
  | none =>
    let size : Int := (Nat.pow 2 64 : Nat)
    match prefixInt true text.toList with
    | none => (0, unread text text.toList false)
    | some (n, rest) =>
      let tooLarge := size ≤ n || n ≤ -size
      ((if tooLarge then size - 1 else n % size).toNat, unread text rest tooLarge)

/-- The number with a fraction of an argument, as a double. -/
def fractional (text : String) : Read Nat :=
  let double := BinaryFloat.double
  match quotedCode? text with
  | some code => (double.round code 1, none)
  | none =>
    let body := text.toList.dropWhile isSpace
    let lengths := (List.range (body.length + 1)).reverse
    match lengths.findSome? fun n => (double.ofText? (body.take n)).map (·, n) with
    | some (bits, n) => (bits, unread text (body.drop n) false)
    | none => (0, unread text text.toList false)

/-! ## 3. Directives -/

/-- A directive. -/
structure Directive where
  flags : List Char
  width : Nat
  precision : Option Nat
  letter : Char
deriving DecidableEq, Repr

namespace Directive

/-- A flag is there. -/
def has (directive : Directive) (flag : Char) : Bool := directive.flags.contains flag

/-- A text brought to the width with blanks. -/
def pad (directive : Directive) (text : List Char) : List Char :=
  let blanks := List.replicate (directive.width - text.length) ' '
  if directive.has '-' then text ++ blanks else blanks ++ text

/-- A number brought to the width: a sign in front and digits, with zeros between them if the
directive says so. -/
def padNumber (directive : Directive) (zeros : Bool) (sign digits : List Char) : List Char :=
  if zeros && directive.has '0' && !directive.has '-' then
    sign ++ List.replicate (directive.width - sign.length - digits.length) '0' ++ digits
  else directive.pad (sign ++ digits)

/-- The sign in front of a number. -/
def sign (directive : Directive) (negative : Bool) : List Char :=
  if negative then ['-']
  else if directive.has '+' then ['+']
  else if directive.has ' ' then [' ']
  else []

/-- Digits with zeros in front of them, as many as the precision asks for; zero has no digit if
there is to be none. -/
def precise (directive : Directive) (digits : List Char) : List Char :=
  match directive.precision with
  | none => digits
  | some 0 => if digits = ['0'] then [] else digits
  | some n => List.replicate (n - digits.length) '0' ++ digits

/-- A whole number. -/
def whole (directive : Directive) (n : Int) : List Char :=
  directive.padNumber directive.precision.isNone (directive.sign (n < 0))
    (directive.precise (Digits.ofNat n.natAbs))

/-- The digits of a number in a base. -/
def digitsIn (base : Nat) : (fuel : Nat) → Nat → List Char
  | 0, _ => []
  | fuel + 1, n =>
    (if n < base then [] else digitsIn base fuel (n / base)) ++ [Digits.digitChar (n % base)]

/-- A text in capitals. -/
def capitals (text : List Char) : List Char := text.map Char.toUpper

/-- A number without a sign, in the base that the letter says. -/
def natural (directive : Directive) (n : Nat) : List Char :=
  let base := match directive.letter with
    | 'o' => 8
    | 'u' => 10
    | _ => 16
  let digits := directive.precise (digitsIn base 64 n)
  let digits := if base = 8 && directive.has '#' && digits.head? ≠ some '0' then '0' :: digits
    else digits
  let mark := if base = 16 && directive.has '#' && n ≠ 0 then ['0', 'x'] else []
  let shown (text : List Char) := if directive.letter = 'X' then capitals text else text
  directive.padNumber directive.precision.isNone (shown mark) (shown digits)

/-- The digits of `n` with a point in front of the last `places` of them. -/
def withPoint (always : Bool) (places n : Nat) : List Char :=
  let digits := Digits.ofNat n
  let digits := List.replicate (places + 1 - digits.length) '0' ++ digits
  let point := if places = 0 && !always then [] else ['.']
  digits.take (digits.length - places) ++ point ++ digits.drop (digits.length - places)

/-- `places` digits behind the point. -/
def fixed (always : Bool) (places num den : Nat) : List Char :=
  withPoint always places (BinaryFloat.Format.nearestEven (num * Nat.pow 10 places) den)

/-- How often ten has to be multiplied to reach one. -/
def lift (den : Nat) : (fuel : Nat) → Nat → Nat
  | 0, _ => 0
  | fuel + 1, num => if den ≤ num then 0 else lift den fuel (num * 10) + 1

/-- The mantissa with `places` digits behind its first one, and the power of ten. -/
def scientific (places num den : Nat) : Nat × Int :=
  if num = 0 then (0, 0)
  else
    let power : Int := if den ≤ num then ((Digits.ofNat (num / den)).length - 1 : Nat)
      else -(lift den 400 num : Int)
    let scaled := match (places : Int) - power with
      | .ofNat k => BinaryFloat.Format.nearestEven (num * Nat.pow 10 k) den
      | .negSucc k => BinaryFloat.Format.nearestEven num (den * Nat.pow 10 (k + 1))
    if scaled = Nat.pow 10 (places + 1) then (scaled / 10, power + 1) else (scaled, power)

/-- The power of ten behind a mantissa. -/
def exponent (power : Int) : List Char :=
  let digits := Digits.ofNat power.natAbs
  'e' :: (if power < 0 then '-' else '+') :: List.replicate (2 - digits.length) '0' ++ digits

/-- A text without the zeros at the end of its fraction. -/
def withoutZeros (text : List Char) : List Char :=
  if text.contains '.' then
    match text.reverse.dropWhile (· = '0') with
    | '.' :: rest => rest.reverse
    | rest => rest.reverse
  else text

/-- A number with a fraction. -/
def real (directive : Directive) (bits : Nat) : List Char :=
  let double := BinaryFloat.double
  let shown (text : List Char) := if directive.letter.isUpper then capitals text else text
  let sign := directive.sign (double.isNegative bits)
  if !double.isFinite bits then
    directive.pad (sign ++ shown (if double.isNaN bits then "nan".toList else "inf".toList))
  else
    let (num, den) := double.quotient bits
    let places := directive.precision.getD 6
    let always := directive.has '#'
    let text := match directive.letter.toLower with
      | 'f' => fixed always places num den
      | 'e' =>
        let (mantissa, power) := scientific places num den
        withPoint always places mantissa ++ exponent power
      | _ =>
        let places := max 1 places - 1
        let (mantissa, power) := scientific places num den
        let cut (text : List Char) := if always then text else withoutZeros text
        if -4 ≤ power && power ≤ (places : Int) then
          cut (fixed always ((places : Int) - power).toNat num den)
        else cut (withPoint always places mantissa) ++ exponent power
    directive.padNumber true sign (shown text)

end Directive

/-! ## 4. Formats -/

/-- What was printed so far, and the arguments that are left. -/
structure Printing where
  output : List Char
  complaints : List Complaint
  arguments : List String
  /-- Nothing more is printed. -/
  ends : Bool
  /-- Why printing cannot go on. -/
  failure : Option Complaint
deriving Repr, Inhabited

namespace Printing

/-- Prints. -/
def put (text : List Char) (printing : Printing) : Printing :=
  { printing with output := printing.output ++ text }

/-- The next argument. -/
def next (printing : Printing) : Option String × Printing :=
  (printing.arguments.head?, { printing with arguments := printing.arguments.tail })

/-- What is read of the next argument, with a complaint if there is reason for one. -/
def number {α : Type} (zero : α) (read : String → Read α) (printing : Printing) : α × Printing :=
  match printing.next with
  | (none, printing) => (zero, printing)
  | (some text, printing) =>
    let (n, complaint) := read text
    (n, { printing with complaints := printing.complaints ++ complaint.toList })

/-- Prints the next argument as a directive says. -/
def direct (style : Style) (directive : Directive) (printing : Printing) : Printing :=
  let cut (text : List Char) : List Char :=
    match directive.precision with
    | some n => text.take n
    | none => text
  match directive.letter with
  | 's' =>
    let (text, printing) := printing.next
    printing.put (directive.pad (cut (text.getD "").toList))
  | 'b' =>
    let (text, printing) := printing.next
    let (text, ends) := unescapeWith style.codes (text.getD "")
    { printing.put (directive.pad (cut text)) with ends }
  | 'q' =>
    let (text, printing) := printing.next
    printing.put (directive.pad (cut ((style.quote.getD id) (text.getD "")).toList))
  | 'c' =>
    let (text, printing) := printing.next
    printing.put (directive.pad [((text.getD "").toList.head?).getD '\x00'])
  | 'd' | 'i' =>
    let (n, printing) := printing.number 0 signed
    printing.put (directive.whole n)
  | 'o' | 'u' | 'x' | 'X' =>
    let (n, printing) := printing.number 0 unsigned
    printing.put (directive.natural n)
  | _ =>
    let (bits, printing) := printing.number 0 fractional
    printing.put (directive.real bits)

end Printing

/-- A width or a precision: digits, or a star for the next argument. -/
def measure (text : List Char) (printing : Printing) : Option Int × List Char × Printing :=
  match text with
  | '*' :: rest =>
    let (n, printing) := printing.number 0 signed
    (some n, rest, printing)
  | _ =>
    let (digits, rest) := text.span Digits.isDecimal
    ((Digits.toNat? 10 digits).map Int.ofNat, rest, printing)

/-- The directive behind a percent sign, and what follows. -/
def directive? (style : Style) (text : List Char) (printing : Printing) :
    Except Complaint (Directive × List Char × Printing) :=
  let (flags, rest) := text.span fun c => "#-+ 0'".toList.contains c
  let (width, rest, printing) := measure rest printing
  let flags := if width.any (· < 0) then '-' :: flags else flags
  let (precision, rest, printing) : Option Int × List Char × Printing := match rest with
    | '.' :: rest =>
      let (n, rest, printing) := measure rest printing
      (some (n.getD 0), rest, printing)
    | _ => (none, rest, printing)
  let rest := if style.sizes then rest.dropWhile "hlLjtz".toList.contains else rest
  let shown (left : List Char) : String :=
    String.ofList ('%' :: text.take (text.length - left.length))
  match rest with
  | [] => .error (.unfinished (shown []))
  | letter :: rest =>
    if "bcsdiouxXeEfFgG".toList.contains letter || (letter = 'q' && style.quote.isSome) then
      .ok (⟨flags, (width.getD 0).natAbs, (precision.filter (0 ≤ ·)).map Int.toNat, letter⟩, rest,
        printing)
    else .error (.unknown (shown rest))

/-- Uses a format once. -/
def fill (style : Style) : (fuel : Nat) → List Char → Printing → Printing
  | 0, _, printing | _, [], printing => printing
  | fuel + 1, c :: rest, printing =>
    match c, rest with
    | '\\', rest =>
      if style.cuts && rest.head? = some 'c' then { printing with ends := true }
      else
        let (front, rest) := escapeWith style.codes rest
        fill style fuel rest (printing.put front)
    | '%', '%' :: rest => fill style fuel rest (printing.put ['%'])
    | '%', rest =>
      match directive? style rest printing with
      | .error complaint => { printing with failure := some complaint, ends := true }
      | .ok (directive, rest, printing) =>
        let printing := printing.direct style directive
        if printing.ends then printing else fill style fuel rest printing
    | _, _ => fill style fuel rest (printing.put [c])

/-- Uses a format as long as arguments are left that it takes. -/
def fillAll (style : Style) (format : List Char) : (fuel : Nat) → Printing → Printing
  | 0, printing => printing
  | fuel + 1, printing =>
    let after := fill style format.length format printing
    if after.ends || after.arguments = [] || after.arguments.length = printing.arguments.length then
      after
    else fillAll style format fuel after

/-- What a format makes of arguments in a style. -/
def printedWith (style : Style) (format : String) (arguments : List String) : Printing :=
  fillAll style format.toList (arguments.length + 1) ⟨[], [], arguments, false, none⟩

/-- What a format makes of arguments. -/
def printed (format : String) (arguments : List String) : Printing :=
  printedWith plain format arguments

end RenderSync.Shell.Format
