import RenderSync.BinaryFloat.Text
import RenderSync.Shell.Format.Escape
import RenderSync.Shell.Utility.Basic

/-!
# Tokens of programs for records

A slash starts an expression for texts unless something stands in front of it that can be divided.
A name with a bracket right behind it is that of a function.
-/

namespace RenderSync.Shell.Records

/-- A token. -/
inductive Token where
  | number (bits : Nat)
  | text (text : String)
  | regex (text : List Char)
  | name (name : String)
  /-- A name with a bracket right behind it. -/
  | callee (name : String)
  | keyword (name : String)
  | builtin (name : String)
  | sign (text : String)
  | newline
deriving DecidableEq, Repr, Inhabited

/-- A token and its line. -/
structure Lexeme where
  token : Token
  line : Nat
deriving DecidableEq, Repr, Inhabited

namespace Token

/-- The token as it is shown in complaints. -/
def shown : Token → String
  | number _ => "number"
  | text word | sign word | name word | callee word | keyword word | builtin word => word
  | regex body => "/" ++ String.ofList body ++ "/"
  | newline => "end of line"

/-- Words with a meaning of their own. -/
def keywords : List String :=
  ["BEGIN", "END", "function", "func", "if", "else", "while", "for", "do", "break", "continue",
    "next", "nextfile", "exit", "return", "delete", "in", "getline", "print", "printf"]

/-- Functions that are always there. -/
def builtins : List String :=
  ["length", "index", "substr", "split", "sub", "gsub", "match", "sprintf", "sin", "cos", "atan2",
    "exp", "log", "sqrt", "int", "rand", "srand", "tolower", "toupper", "system", "close", "fflush",
    "systime", "strftime", "mktime"]

/-- Signs, longer ones first. -/
def signs : List String :=
  ["&&", "||", "++", "--", "+=", "-=", "*=", "/=", "%=", "^=", "==", "!=", "<=", ">=", ">>", "!~",
    "\x7b", "\x7d", "(", ")", "[", "]", ";", ",", "+", "-", "*", "/", "%", "^", "<", ">", "=", "!",
    "~", "?", ":", "|", "$"]

/-- Something can be divided that ends with this token. -/
def isDividable : Token → Bool
  | number _ | text _ | regex _ | name _ => true
  | builtin word => word = "length"
  | sign word => [")", "]", "$", "++", "--"].contains word
  | keyword _ | callee _ | newline => false

end Token

/-- The octet that a backslash and the text behind it stand for within a text, and what follows. -/
def escapedIn (text : List Char) : List Char × List Char :=
  match text with
  | [] => (['\\'], [])
  | c :: rest =>
    match [('"', '"'), ('\\', '\\'), ('a', '\x07'), ('b', '\x08'), ('f', '\x0c'), ('n', '\n'),
        ('r', '\r'), ('t', '\t'), ('v', '\x0b')].lookup c with
    | some d => ([d], rest)
    | none =>
      if isDigitOf 8 c then
        let (n, rest) := Format.octal 3 text
        ([Char.ofNat (n % 256)], rest)
      else if c = 'x' && rest.head?.any (isDigitOf 16) then
        match Format.hexadecimal? 2 false rest with
        | some (front, rest) => (front, rest)
        | none => (['\\', c], rest)
      else (['\\', c], rest)

/-- A text with what its backslashes stand for; `fuel` bounds its length. -/
def unescaped : (fuel : Nat) → List Char → List Char
  | 0, text => text
  | _, [] => []
  | fuel + 1, '\\' :: rest =>
    let (front, rest) := escapedIn rest
    front ++ unescaped fuel rest
  | fuel + 1, c :: rest => c :: unescaped fuel rest

/-- The text up to its closing quote, and what follows it; ends of lines behind backslashes are left
out. -/
def quotedPart : (fuel : Nat) → List Char → Option (List Char × List Char)
  | 0, _ => none
  | _, [] => none
  | fuel + 1, c :: rest =>
    let add (front rest : List Char) : Option (List Char × List Char) :=
      (quotedPart fuel rest).map fun (text, rest) => (front ++ text, rest)
    match c, rest with
    | '"', rest => some ([], rest)
    | '\n', _ => none
    | '\\', '\n' :: rest => add [] rest
    | '\\', d :: rest => add ['\\', d] rest
    | c, rest => add [c] rest

/-- The text up to the closing slash, and what follows it; a slash within a set is no closing
one. -/
def regexPart : (fuel : Nat) → (inside : Bool) → List Char → Option (List Char × List Char)
  | 0, _, _ => none
  | _, _, [] => none
  | fuel + 1, inside, c :: rest =>
    let add (inside : Bool) (front rest : List Char) : Option (List Char × List Char) :=
      (regexPart fuel inside rest).map fun (text, rest) => (front ++ text, rest)
    match c, rest with
    | '/', rest => if inside then add inside ['/'] rest else some ([], rest)
    | '\n', _ => none
    | '\\', d :: rest => add inside ['\\', d] rest
    | '[', '^' :: ']' :: rest => if inside then add true ['['] ('^' :: ']' :: rest)
        else add true ['[', '^', ']'] rest
    | '[', ']' :: rest => if inside then add false ['[', ']'] rest else add true ['[', ']'] rest
    | '[', rest => add true ['['] rest
    | ']', rest => add false [']'] rest
    | c, rest => add inside [c] rest

/-- The number in front of a text, and what follows; nothing else is a number. -/
def numberPart (text : List Char) : Nat × List Char :=
  let (whole, rest) := text.span Digits.isDecimal
  let (fraction, rest) : List Char × List Char := match rest with
    | '.' :: rest => let (digits, rest) := rest.span Digits.isDecimal; ('.' :: digits, rest)
    | rest => ([], rest)
  if !(whole ++ fraction).any Digits.isDecimal then (0, text)
  else
    let (power, rest) : List Char × List Char := match rest with
      | e :: after =>
        if e = 'e' || e = 'E' then
          let (sign, digits) : List Char × List Char := match after with
            | '-' :: digits => (['-'], digits)
            | '+' :: digits => ([], digits)
            | digits => ([], digits)
          let (digits, after) := digits.span Digits.isDecimal
          if digits = [] then ([], rest) else ('e' :: sign ++ digits, after)
        else ([], rest)
      | [] => ([], rest)
    ((BinaryFloat.double.unsigned? (whole ++ fraction ++ power)).getD 0, rest)

/-- Takes a program apart; `before` is the last token, and `fuel` bounds the length. -/
def tokens : (fuel : Nat) → (line : Nat) → (before : Option Token) → List Char →
    Except String (List Lexeme)
  | 0, _, _, _ => .ok []
  | _, _, _, [] => .ok []
  | fuel + 1, line, before, c :: rest =>
    let add (token : Token) (rest : List Char) : Except String (List Lexeme) :=
      (tokens fuel line (some token) rest).map (⟨token, line⟩ :: ·)
    let complain (message : String) : Except String (List Lexeme) :=
      .error ("line " ++ decimal line ++ ": " ++ message)
    if c = '\n' then
      (tokens fuel (line + 1) (some .newline) rest).map (⟨.newline, line⟩ :: ·)
    else if c = ' ' || c = '\t' || c = '\r' then tokens fuel line before rest
    else if c = '\\' && rest.head? = some '\n' then tokens fuel (line + 1) before (rest.drop 1)
    else if c = '#' then tokens fuel line before (rest.dropWhile (· ≠ '\n'))
    else if c = '"' then
      match quotedPart (rest.length + 1) rest with
      | some (text, rest) => add (.text (String.ofList (unescaped text.length text))) rest
      | none =>
        complain ("runaway string constant \"" ++ String.ofList (rest.takeWhile (· ≠ '\n')) ++
          " ...")
    else if c = '/' && !before.any Token.isDividable then
      match regexPart (rest.length + 1) false rest with
      | some (text, rest) => add (.regex text) rest
      | none => complain ("runaway regular expression /" ++
          String.ofList (rest.takeWhile (· ≠ '\n')) ++ " ...")
    else if Digits.isDecimal c || (c = '.' && rest.head?.any Digits.isDecimal) then
      let (bits, rest) := numberPart (c :: rest)
      add (.number bits) rest
    else if startsName c then
      let (name, rest) := (c :: rest).span fun d => startsName d || Digits.isDecimal d
      let name := String.ofList name
      let token : Token :=
        if Token.keywords.contains name then .keyword name
        else if Token.builtins.contains name then .builtin name
        else if rest.head? = some '(' then .callee name
        else .name name
      add token rest
    else
      match Token.signs.find? fun sign => sign.toList.isPrefixOf (c :: rest) with
      | some sign => add (.sign sign) ((c :: rest).drop sign.length)
      | none => complain ("unexpected character '" ++ c.toString ++ "'")

end RenderSync.Shell.Records
