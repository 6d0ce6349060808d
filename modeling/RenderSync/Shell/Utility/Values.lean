import RenderSync.Shell.Condition
import RenderSync.Shell.Format
import RenderSync.Shell.Regex
import RenderSync.Shell.Utility.Lines

/-!
# Utilities for values

Utilities that print what they make of their arguments.
-/

namespace RenderSync.Shell.Call

/-! ## 1. Texts -/

/-- Prints words; backslashes mean something only if an option says so. -/
def echoWords (call : Call) : Deed :=
  call.gives (String.ofList (Format.echoWithOptions call.arguments))

/-- How the utility prints by a format. -/
def printStyle : Format.Style := ⟨true, true, true, some fun text =>
  if text ≠ "" && text.toList.all isBare then text else inQuotes text⟩

/-- A complaint in the words of utilities. -/
def printProblem : Format.Complaint → String
  | .notNumeric text => curly text ++ ": expected a numeric value"
  | .partly text => curly text ++ ": value not completely converted"
  | .outOfRange text => curly text ++ ": Numerical result out of range"
  | .unknown directive | .unfinished directive => directive ++ ": invalid conversion specification"

/-- Prints by a format. -/
def printFormatted (call : Call) : Deed :=
  let arguments := if call.arguments.head? = some "--" then call.arguments.tail else call.arguments
  match arguments with
  | [] => call.misused "missing operand" 1
  | format :: arguments =>
    let printing := Format.printedWith printStyle format arguments
    let complaints := printing.complaints ++ printing.failure.toList
    let excess := match printing.arguments with
      | word :: _ =>
        if printing.ends then []
        else [call.complaint ("warning: ignoring excess arguments, starting with " ++ curly word)]
      | [] => []
    ⟨(1, String.ofList printing.output) ::
        complaints.map (fun complaint => call.complaint (printProblem complaint)) ++ excess,
      if complaints = [] then 0 else 1, call.files⟩

/-- A path without slashes at its end. -/
def withoutSlashes (path : List Char) : List Char :=
  (path.reverse.dropWhile (· = '/')).reverse

/-- The last name of a path, without an ending. -/
def bareName (path ending : String) : String :=
  let whole := withoutSlashes path.toList
  let name := (whole.reverse.takeWhile (· ≠ '/')).reverse
  let ending := ending.toList
  let name := if ending.isSuffixOf name && ending.length < name.length then
    name.take (name.length - ending.length) else name
  String.ofList (if path ≠ "" && whole = [] then ['/'] else name)

/-- What ends what is printed. -/
def endingOf (options : Options) : String := if options.has 'z' then "\x00" else "\n"

/-- The last names of paths. -/
def baseName (call : Call) (options : Options) : Deed :=
  let ending := endingOf options
  match options.operands, options.hasAny "as" with
  | [], _ => call.misused "missing operand" 1
  | operands, true =>
    call.gives (String.join (operands.map fun path =>
      bareName path ((options.value? 's').getD "") ++ ending))
  | [path], false => call.gives (bareName path "" ++ ending)
  | [path, suffix], false => call.gives (bareName path suffix ++ ending)
  | _ :: _ :: extra :: _, false => call.misused ("extra operand " ++ curly extra) 1

/-- What is in front of the last name of paths. -/
def directoryName (call : Call) (options : Options) : Deed :=
  if options.operands = [] then call.misused "missing operand" 1
  else
    call.gives (String.join (options.operands.map fun path =>
      let whole := withoutSlashes path.toList
      let above := withoutSlashes (whole.reverse.dropWhile (· ≠ '/')).reverse
      let shown := if above ≠ [] then above
        else if path.toList.head? = some '/' then ['/']
        else ['.']
      String.ofList shown ++ endingOf options))

/-- The values of variables of the environment, or all of it. -/
def printEnvironment (call : Call) (options : Options) : Deed :=
  let ending := if options.has '0' then "\x00" else "\n"
  if options.operands = [] then
    let line : String × String → String := fun (name, value) => name ++ "=" ++ value ++ ending
    call.gives (String.join (call.environment.map line))
  else
    let values := options.operands.map fun name => call.environment.lookup name
    { call.gives (String.join ((values.filterMap id).map (· ++ ending))) with
      status := if values.all Option.isSome then 0 else 1 }

/-! ## 2. Numbers -/

/-- A whole number as it is written. -/
def whole? (text : String) : Option Int :=
  match text.toList with
  | '-' :: digits => (Digits.toNat? 10 digits).map fun n => -(n : Int)
  | digits => (Digits.toNat? 10 digits).map Int.ofNat

/-- A decimal number as it is written: the number without its point, and the digits behind it. -/
structure Decimal where
  digits : Int
  places : Nat
  /-- How many places it takes as it is written. -/
  width : Nat
deriving Repr, Inhabited

namespace Decimal

/-- The digits that the number has with more places. -/
def digitsWith (number : Decimal) (places : Nat) : Int :=
  number.digits * Nat.pow 10 (places - number.places)

/-- A decimal number as it is written. -/
def ofText? (text : String) : Option Decimal := do
  let body := text.toList.dropWhile fun c => isSpace c || c = '+'
  let (negative, rest) : Bool × List Char := match body with
    | '-' :: rest => (true, rest)
    | rest => (false, rest)
  let signed (n : Nat) : Int := if negative then -(n : Int) else n
  match rest with
  | '0' :: 'x' :: digits | '0' :: 'X' :: digits =>
    return ⟨signed (← Digits.toNat? 16 digits), 0, body.length⟩
  | _ =>
    let (whole, rest) := rest.span Digits.isDecimal
    let (fraction, rest) : List Char × List Char := match rest with
      | '.' :: rest => rest.span Digits.isDecimal
      | rest => ([], rest)
    let digits ← Digits.toNat? 10 (whole ++ fraction)
    match rest with
    | [] => return ⟨signed digits, fraction.length, body.length⟩
    | 'e' :: power | 'E' :: power =>
      let power ← whole? (String.ofList (power.dropWhile (· = '+')))
      let shifted := power - fraction.length
      if 0 ≤ shifted then
        let n := signed (digits * Nat.pow 10 shifted.toNat)
        return ⟨n, 0, (Digits.ofInt n).length⟩
      else return ⟨signed digits, (-shifted).toNat, body.length⟩
    | _ => none

/-- A number without its point as it is shown. -/
def shown (places : Nat) (n : Int) : List Char :=
  (if n < 0 then ['-'] else []) ++ Format.Directive.withPoint false places n.natAbs

end Decimal

/-- The directive of a format for numbers. -/
def sequenceFormat (format : String) : Except String Unit :=
  let directives := ((format.replace "%%" "").toList.filter (· = '%')).length
  let bare := (format.replace "%%" "").toList.dropWhile (· ≠ '%')
  let letters := (bare.drop 1).dropWhile fun c =>
    "#-+ 0'".toList.contains c || Digits.isDecimal c || c = '.' || c = 'L'
  if directives = 0 then .error ("format " ++ curly format ++ " has no % directive")
  else
    match letters with
    | [] => .error ("format " ++ curly format ++ " ends in %")
    | c :: _ =>
      if !"efgaEFGA".toList.contains c then
        .error ("format " ++ curly format ++ " has unknown %" ++ c.toString ++ " directive")
      else if directives > 1 then
        .error ("format " ++ curly format ++ " has too many % directives")
      else .ok ()

/-- The numbers from one to another in steps. -/
def sequence (call : Call) : Deed :=
  let isNumber (word : String) : Bool :=
    match word.toList with
    | '-' :: c :: _ => Digits.isDecimal c || c = '.'
    | _ => false
  let (early, late) := call.arguments.span fun word => !isNumber word
  let grammar : Grammar := ⟨"w", "fs", "", [("equal-width", 'w'), ("format", 'f'),
    ("separator", 's')], true⟩
  let begun : Bool := match grammar.split early with
    | .ok options => options.operands ≠ []
    | .error _ => false
  let arguments := if late = [] || begun || early.contains "--" then call.arguments
    else early ++ "--" :: late
  { call with arguments }.withGrammar grammar 1 fun options =>
    let run (first step last : Decimal) : Deed :=
      let places := max first.places step.places
      let most := max places last.places
      let a := first.digitsWith most
      let d := step.digitsWith most
      let z := last.digitsWith most
      if d = 0 then
        call.misused ("invalid Zero increment value: " ++ curly (options.operands[1]?.getD "0")) 1
      else
        let count := ((z - a).fdiv d + 1).toNat
        let cut (n : Int) : Int := n / Nat.pow 10 (most - places)
        let widthOf (number : Decimal) (isLast : Bool) : Nat :=
          let width := number.width + places - number.places
          if number.places = 0 && places > 0 then width + 1
          else if isLast && number.places > 0 && places = 0 then width - 1
          else width
        let width := if options.has 'w' then max (widthOf first false) (widthOf last true) else 0
        let shown (n : Int) : List Char :=
          let text := Decimal.shown places (cut n)
          let zeros := List.replicate (width - text.length) '0'
          match text with
          | '-' :: digits => '-' :: zeros ++ digits
          | digits => zeros ++ digits
        let line (n : Int) : String :=
          match options.value? 'f' with
          | some format => String.ofList
              (Format.printed format [String.ofList (Decimal.shown most n)]).output
          | none => String.ofList (shown n)
        let lines := (List.range count).map fun k => line (a + d * Int.ofNat k)
        let separator := (options.value? 's').getD "\n"
        call.gives (if lines = [] then "" else separator.intercalate lines ++ "\n")
    let one : Decimal := ⟨1, 0, 1⟩
    match options.operands.find? fun text => (Decimal.ofText? text).isNone with
    | some bad => call.misused ("invalid floating point argument: " ++ curly bad) 1
    | none =>
      match (options.value? 'f').map sequenceFormat with
      | some (.error message) => call.complains message 1
      | _ =>
        match options.operands.filterMap Decimal.ofText? with
        | [] => call.misused "missing operand" 1
        | [last] => run one one last
        | [first, last] => run first one last
        | [first, step, last] => run first step last
        | _ => call.misused ("extra operand " ++ curly (options.operands[3]?.getD "")) 1

/-- The prime factors of a number that are at least `least`; `fuel` bounds the search. -/
def primeFactors : (fuel least n : Nat) → List Nat
  | 0, _, n => if n < 2 then [] else [n]
  | fuel + 1, least, n =>
    if n < 2 then []
    else if n < least * least then [n]
    else if n % least = 0 then least :: primeFactors fuel least (n / least)
    else primeFactors fuel (if least = 2 then 3 else least + 2) n

/-- The prime factors of numbers. -/
def factors (call : Call) (options : Options) : Deed :=
  let words := if options.operands = [] then
      ((Text.splitAt ' ' (call.input.toList.map fun c => if isSpace c then ' ' else c)).filter
        (· ≠ [])).map String.ofList
    else options.operands
  words.foldl (fun deed word =>
    match Digits.toNat? 10 (word.toList.dropWhile fun c => c = ' ' || c = '+') with
    | some n =>
      let found := primeFactors (2 * Nat.sqrt n + 200) 2 n
      let text := decimal n ++ ":" ++ String.join (found.map fun p => " " ++ decimal p) ++ "\n"
      { deed with said := deed.said ++ [(1, text)] }
    | none =>
      { deed with
        said := deed.said ++ [call.complaint (curly word ++ " is not a valid positive integer")]
        status := 1 }) (call.answers 0)

/-- An operator of a calculation, and how loosely it binds. -/
def calculation? (sign : String) : Option Nat :=
  match sign with
  | ":" => some 1
  | "*" | "/" | "%" => some 2
  | "+" | "-" => some 3
  | "<" | "<=" | "=" | "==" | "!=" | ">=" | ">" => some 4
  | "&" => some 5
  | "|" => some 6
  | _ => none

/-- A value that counts as nothing. -/
def isNothing (value : String) : Bool := value = "" || whole? value = some 0

/-- What an expression matches at the start of a text: its group, or else how many characters. -/
def matched (text pattern : String) : Except String String :=
  match Regex.ofText? false (Octets.characters pattern.toList) with
  | none => .error "Invalid regular expression"
  | some regex =>
    let grouped := (pattern.replace "\\(" "").length < pattern.length
    match regex.matchAt? false ⟨[], Octets.characters text.toList, []⟩ with
    | none => .ok (if grouped then "" else "0")
    | some found =>
      .ok (if grouped then
          String.ofList (Octets.ofCharacters ((found.groups.lookup 1).getD []))
        else decimal found.text.length)

/-- What an operator of a calculation gives. -/
def calculate (sign a b : String) : Except String String :=
  let truth (holds : Bool) : Except String String := .ok (if holds then "1" else "0")
  let compared (holds : Ordering → Bool) : Except String String :=
    match whole? a, whole? b with
    | some m, some n => truth (holds (compare m n))
    | _, _ => truth (holds (compare a b))
  let numbers (make : Int → Int → Except String Int) : Except String String :=
    match whole? a, whole? b with
    | some m, some n => (make m n).map fun n => String.ofList (Digits.ofInt n)
    | _, _ => .error "non-integer argument"
  let divided (make : Int → Int → Int) : Except String String :=
    numbers fun m n => if n = 0 then .error "division by zero" else .ok (make m n)
  match sign with
  | ":" => matched a b
  | "|" => .ok (if !isNothing a then a else if !isNothing b then b else "0")
  | "&" => .ok (if isNothing a || isNothing b then "0" else a)
  | "<" => compared (· == .lt)
  | "<=" => compared (· != .gt)
  | "=" | "==" => compared (· == .eq)
  | "!=" => compared (· != .eq)
  | ">=" => compared (· != .lt)
  | ">" => compared (· == .gt)
  | "+" => numbers fun m n => .ok (m + n)
  | "-" => numbers fun m n => .ok (m - n)
  | "*" => numbers fun m n => .ok (m * n)
  | "/" => divided Int.tdiv
  | _ => divided Int.tmod

/-- A part of a text; places count from one. -/
def part (text first length : String) : String :=
  match whole? first, whole? length with
  | some (.ofNat (first + 1)), some (.ofNat length) =>
    let found := ((Octets.characters text.toList).drop first).take length
    String.ofList (Octets.ofCharacters found)
  | _, _ => ""

mutual

/-- The value that operators binding no looser than `bound` make of words, and the words left. -/
def valueOf : (fuel : Nat) → (bound : Nat) → List String → Except String (String × List String)
  | 0, _, _ => .error "syntax error"
  | fuel + 1, 0, words =>
    match words with
    | "(" :: rest => do
      let (value, rest) ← valueOf fuel 6 rest
      match rest with
      | ")" :: rest => return (value, rest)
      | last :: _ => throw ("syntax error: expecting ')' instead of " ++ curly last)
      | [] => throw ("syntax error: expecting ')' after " ++ curly value)
    | "match" :: text :: pattern :: rest => (matched text pattern).map (·, rest)
    | "length" :: text :: rest =>
      return (decimal (Octets.characters text.toList).length, rest)
    | "index" :: text :: among :: rest =>
      let among := Octets.characters among.toList
      let found := (Octets.characters text.toList).findIdx? among.contains
      return (decimal ((found.map (· + 1)).getD 0), rest)
    | "substr" :: text :: first :: length :: rest => return (part text first length, rest)
    | "+" :: text :: rest => return (text, rest)
    | ["length"] | ["index"] | ["substr"] | ["match"] | ["+"] =>
      throw ("syntax error: missing argument after " ++ curly (words.headD ""))
    | text :: rest =>
      if text = ")" then throw "syntax error: unexpected ')'" else return (text, rest)
    | [] => throw "syntax error: missing argument"
  | fuel + 1, bound + 1, words => do
    let (first, rest) ← valueOf fuel bound words
    chainOf fuel (bound + 1) first rest

/-- Operators of one level from left to right. -/
def chainOf : (fuel : Nat) → (bound : Nat) → String → List String →
    Except String (String × List String)
  | 0, _, _, _ => .error "syntax error"
  | fuel + 1, bound, first, words =>
    match words with
    | sign :: rest =>
      if calculation? sign = some bound then do
        if rest = [] then throw ("syntax error: missing argument after " ++ curly sign)
        let (second, rest) ← valueOf fuel (bound - 1) rest
        let value ← calculate sign first second
        chainOf fuel bound value rest
      else return (first, words)
    | [] => return (first, words)

end

/-- Prints the value of a calculation; the status says whether it is anything. -/
def evaluate (call : Call) : Deed :=
  if call.arguments = [] then call.misused "missing operand" 2
  else
    match valueOf (8 * call.arguments.length + 16) 6 call.arguments with
    | .error message => call.complains message 2
    | .ok (value, []) =>
      { call.gives (value ++ "\n") with status := if isNothing value then 1 else 0 }
    | .ok (_, word :: _) => call.complains ("syntax error: unexpected argument " ++ curly word) 2

/-! ## 3. Conditions -/

/-- Decides a condition; `bracket` says that it ends with a closing one. -/
def decideCondition (bracket : Bool) (call : Call) : Deed :=
  if bracket && call.arguments.getLast? ≠ some "]" then call.complains ("missing " ++ curly "]") 2
  else
    let words := if bracket then call.arguments.dropLast else call.arguments
    match Condition.holds { here := call.here, files := call.files } words with
    | .ok holds => call.answers (if holds then 0 else 1)
    | .error message => call.complains message 2

/-! ## 4. The system -/

/-- Says what the system is. -/
def systemName (call : Call) (options : Options) : Deed :=
  match options.operands with
  | extra :: _ => call.misused ("extra operand " ++ curly extra) 1
  | [] =>
    let all := options.has 'a'
    let parts := [('s', "Linux"), ('n', "localhost"), ('r', "6.8.0"), ('v', "#1 SMP"),
      ('m', "x86_64"), ('p', "x86_64"), ('i', "x86_64"), ('o', "GNU/Linux")]
    let chosen := parts.filter fun entry =>
      options.has entry.1 || (all && entry.1 ≠ 'p' && entry.1 ≠ 'i') ||
        (options.chosen = [] && entry.1 = 's')
    call.gives (" ".intercalate (chosen.map Prod.snd) ++ "\n")

/-- Says who a user is; there is one. -/
def identity (call : Call) (options : Options) : Deed :=
  match options.operands.find? fun name => name ≠ "root" && name ≠ "0" with
  | some name => call.complains (curly name ++ ": no such user") 1
  | none =>
    let one := if options.has 'n' then "root" else "0"
    call.gives ((if options.hasAny "ugG" then one
      else "uid=0(root) gid=0(root) groups=0(root)") ++ "\n")

/-- The paths of programs. -/
def whichPrograms (isProgram : FileTree → Path → Bool) (call : Call) (options : Options) : Deed :=
  let directories := Text.splitAt ':' ((call.environment.lookup "PATH").getD "").toList
  let found (name : String) : List String :=
    if name.toList.contains '/' then
      if isProgram call.files (call.path name) then [name] else []
    else
      (directories.map fun directory =>
        (if directory = [] then "." else String.ofList directory) ++ "/" ++ name).filter fun path =>
          isProgram call.files (call.path path)
  let results := options.operands.map found
  let shown := results.flatMap fun paths => if options.has 'a' then paths else paths.take 1
  { call.gives (if options.has 's' then "" else String.join (shown.map (· ++ "\n"))) with
    status := if results = [] || results.contains [] then 1 else 0 }

/-! ## 5. Options of other programs -/

/-- A word in quotes, quotes in it apart. -/
def optionQuoted (text : String) : String := "'" ++ text.replace "'" "'\\''" ++ "'"

/-- The grammar that a text such as `ab:c::` writes. -/
def grammarOf (letters : List Char) (names : List (List Char)) : Grammar :=
  let rec split : List Char → (plain valued attached : List Char) → Grammar
    | c :: ':' :: ':' :: rest, plain, valued, attached => split rest plain valued (c :: attached)
    | c :: ':' :: rest, plain, valued, attached => split rest plain (c :: valued) attached
    | c :: rest, plain, valued, attached => split rest (c :: plain) valued attached
    | [], plain, valued, attached =>
      ⟨String.ofList plain, String.ofList valued, String.ofList attached, [], false⟩
  let grammar := split (letters.filter (· ≠ '+')) [] [] []
  names.zipIdx.foldl (fun grammar (name, n) =>
    -- Long names stand for letters that nobody can type.
    let letter := Char.ofNat (0x2000 + n)
    let bare := name.takeWhile (· ≠ ':')
    let grammar := { grammar with long := grammar.long ++ [(String.ofList bare, letter)] }
    match name.length - bare.length with
    | 0 => { grammar with plain := grammar.plain ++ letter.toString }
    | 1 => { grammar with valued := grammar.valued ++ letter.toString }
    | _ => { grammar with attached := grammar.attached ++ letter.toString }) grammar

/-- Puts the options of other programs in order. -/
def arrangeOptions (call : Call) : Deed :=
  let own : Grammar := ⟨"quTa", "olns", "", [("options", 'o'), ("longoptions", 'l'), ("name", 'n'),
    ("quiet", 'q'), ("unquoted", 'u'), ("test", 'T'), ("alternative", 'a'), ("shell", 's')], true⟩
  match own.split call.arguments with
  | .error message => call.misused message 2
  | .ok options =>
    if options.has 'T' then call.answers 4
    else
      match options.value? 'o', options.operands with
      | none, [] => call.misused "missing optstring argument" 2
      | given, operands =>
        let letters := given.getD (operands.headD "")
        let words := if given.isSome then operands else operands.tail
        let isOld := given.isNone && options.chosen = []
        let names := (options.values 'l').flatMap fun text =>
          (Text.splitAt ',' text.toList).filter (· ≠ [])
        let grammar := grammarOf letters.toList names
        let grammar := { grammar with stops := letters.toList.head? = some '+' }
        let quote (text : String) : String :=
          if isOld || options.has 'u' then text else optionQuoted text
        let name := (options.value? 'n').getD "getopt"
        let valued := grammar.valued.toList ++ grammar.attached.toList
        let shown (chosen : List (Char × String)) (operands : List String) : String :=
          String.join (chosen.map fun (letter, value) =>
            let option := match grammar.long.find? (·.2 = letter) with
              | some (name, _) => " --" ++ name
              | none => " -" ++ letter.toString
            option ++ if valued.contains letter then " " ++ quote value else "") ++
          " --" ++ String.join (operands.map fun word => " " ++ quote word) ++ "\n"
        match grammar.split words with
        | .ok found => call.gives (shown found.chosen found.operands)
        | .error message =>
          -- What is wrong is left out, and the rest is put in order all the same.
          let rec salvage : (fuel : Nat) → List String → Options
            | 0, _ | _, [] => ⟨[], []⟩
            | fuel + 1, word :: rest =>
              let others := salvage fuel rest
              match grammar.split [word] with
              | .ok found => ⟨found.chosen ++ others.chosen, found.operands ++ others.operands⟩
              | .error _ => others
          let found := salvage (words.length + 1) words
          ⟨(if options.has 'q' then [] else [(2, name ++ ": " ++ message ++ "\n")]) ++
            [(1, shown found.chosen found.operands)], 1, call.files⟩

end RenderSync.Shell.Call
