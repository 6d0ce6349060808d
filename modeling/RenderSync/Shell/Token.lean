import RenderSync.Shell.Format.Escape
import RenderSync.Shell.Syntax

/-!
# Tokens

What scripts are made of before words are put together to commands, and what is left of a script
that is being read.  `Reader` carries the text that is left; a token may be put back, and the
documents of `<<` are taken when the line that asks for them ends.
-/

namespace RenderSync.Shell

/-! ## 1. Characters and tokens -/

/-- A word, a keyword, an operator, or the start of a redirection. -/
inductive Token where
  | word (word : Word)
  | keyword (name : String)
  | operator (text : String)
  | redirect (descriptor : Nat) (text : String)
  | newline
  | finish
deriving Inhabited

namespace Token

/-- How a complaint calls a token. -/
def shown : Token → String
  | .word _ => "word"
  | .keyword name => "\"" ++ name ++ "\""
  | .operator text => "\"" ++ text ++ "\""
  | .redirect .. => "redirection"
  | .newline => "newline"
  | .finish => "end of file"

/-- The token is the operator. -/
def isOperator (token : Token) (text : String) : Bool :=
  match token with
  | .operator found => found == text
  | _ => false

/-- The token is the end of a line. -/
def isNewline : Token → Bool
  | .newline => true
  | _ => false

/-- The token is the keyword. -/
def isKeyword (token : Token) (name : String) : Bool :=
  match token with
  | .keyword found => found == name
  | _ => false

/-- Operators that end a case. -/
def caseEnds : List String := [";;", ";&", ";;&"]

/-- The token ends a list of statements. -/
def endsList : Token → Bool
  | .finish => true
  | .operator text => text == ")" || caseEnds.contains text
  | .keyword name =>
    ["do", "done", "then", "else", "elif", "fi", "esac", "\x7d"].contains name
  | _ => false

end Token

/-- A document that the line asks for: its place, what ends it, and how it is to be taken. -/
structure Awaited where
  place : Nat
  ending : List Char
  /-- Nothing is put into it. -/
  verbatim : Bool
  /-- Tabs in front of its lines do not count. -/
  untabbed : Bool
deriving Inhabited

/-- How scripts are read. -/
structure Manner where
  /-- There is more than a plain shell knows. -/
  isRich : Bool
  /-- Patterns may have groups. -/
  groups : Bool
  /-- Words that stand for others where a command starts. -/
  aliases : List (String × String)
deriving DecidableEq, Repr, Inhabited

/-- What a plain shell reads. -/
def Manner.plain : Manner := ⟨false, false, []⟩

/-- What is left of a script. -/
structure Source where
  rest : List Char
  line : Nat
  /-- The documents so far, with those of other lines. -/
  documents : List Word
  awaited : List Awaited
  putBack : Option Token
  manner : Manner
  /-- Words that stand for what is just being read, and how much is left behind it. -/
  replaced : List (String × Nat)
deriving Inhabited

/-- A script that cannot be read: the line and the complaint. -/
structure SyntaxFault where
  line : Nat
  message : String
deriving DecidableEq, Repr, Inhabited

/-- Reads from a script. -/
abbrev Reader := StateT Source (Except SyntaxFault)

/-- The shell that reads knows more than the plain one. -/
def isRich : Reader Bool := return (← get).manner.isRich

/-- The text is wrong here. -/
def complain {α : Type} (message : String) : Reader α := do
  let s ← get
  throw ⟨s.line, if s.manner.isRich then "syntax error: " ++ message
    else "Syntax error: " ++ message⟩

/-- A token as it is written. -/
def Token.text : Token → String
  | .word found => (plain? found).getD ""
  | .keyword name => name
  | .operator text => text
  | .redirect _ text => text
  | .newline => "newline"
  | .finish => ""

/-- Some other token should have come. -/
def unexpected {α : Type} (token : Token) : Reader α := do
  let s ← get
  if s.manner.isRich then
    throw ⟨s.line, match token with
      | .finish => "syntax error: unexpected end of file"
      | token => "syntax error near unexpected token \x60" ++ token.text ++ "'"⟩
  else complain (token.shown ++ " unexpected")

/-- A certain token should have come. -/
def unexpectedFor {α : Type} (token : Token) (expected : String) : Reader α := do
  if (← isRich) then unexpected token
  else complain (token.shown ++ " unexpected (expecting " ++ expected ++ ")")

/-- Text without the pairs of a backslash and the end of a line in front, and how many there
were. -/
def joinLines : List Char → List Char × Nat
  | '\\' :: '\n' :: rest =>
    let (rest, lines) := joinLines rest
    (rest, lines + 1)
  | rest => (rest, 0)

/-- Joins the next line to this one if it goes on there. -/
def join : Reader Unit :=
  modify fun s =>
    let (rest, lines) := joinLines s.rest
    { s with rest := rest, line := s.line + lines }

/-- The next character. -/
def peek : Reader (Option Char) := do
  join
  return (← get).rest.head?

/-- Passes over a character. -/
def skip : Reader Unit :=
  modify fun s =>
    { s with
      rest := s.rest.drop 1
      line := if s.rest.head? = some '\n' then s.line + 1 else s.line }

/-- The next character is passed over if it is this one. -/
def accept (c : Char) : Reader Bool := do
  if (← peek) = some c then
    skip
    return true
  else return false

/-- The characters of a class that come next, at most `fuel` of them. -/
def takeWhile (p : Char → Bool) : (fuel : Nat) → Reader (List Char)
  | 0 => return []
  | fuel + 1 => do
    match ← peek with
    | some c =>
      if p c then
        skip
        return c :: (← takeWhile p fuel)
      else return []
    | none => return []

/-- A letter or an underscore. -/
def startsName (c : Char) : Bool := ('a' ≤ c && c ≤ 'z') || ('A' ≤ c && c ≤ 'Z') || c = '_'

/-- A character of a name. -/
def isNameChar (c : Char) : Bool := startsName c || Digits.isDecimal c

/-- A name that a variable may have. -/
def isName (text : List Char) : Bool :=
  text.head?.any startsName && text.all isNameChar

/-- The end of a word. -/
def endsWord (c : Char) : Bool :=
  c = ' ' || c = '\t' || c = '\n' || c = ';' || c = '&' || c = '|' || c = '<' || c = '>' ||
    c = '(' || c = ')'

/-- Parameters that go by a sign. -/
def isSpecialParameter (c : Char) : Bool := ['*', '@', '#', '?', '$', '!', '-'].contains c

/-- Words that mean something where a command may start. -/
def keywords : List String :=
  ["!", "case", "do", "done", "elif", "else", "esac", "fi", "for", "if", "in", "then", "until",
    "while", "\x7b", "\x7d"]

/-- Words that mean something where a command of a rich shell may start. -/
def richKeywords : List String := keywords ++ ["[[", "function", "time"]

/-- Joins neighbouring pieces of text. -/
def joined : Word → Word
  | .literal a p :: rest =>
    match joined rest with
    | .literal b q :: rest =>
      if p = q then .literal (a ++ b) p :: rest else .literal a p :: .literal b q :: rest
    | rest => .literal a p :: rest
  | fragment :: rest => fragment :: joined rest
  | [] => []

/-! ## 2. Documents -/

/-- The lines up to the one that ends a document, and what comes after it. -/
def documentLines (ending : List Char) (untabbed : Bool) : (fuel : Nat) → List Char →
    List Char × List Char × Nat
  | 0, rest => ([], rest, 0)
  | _, [] => ([], [], 0)
  | fuel + 1, text =>
    let text := if untabbed then text.dropWhile (· = '\t') else text
    let (line, rest) := text.span (· ≠ '\n')
    if line = ending then ([], rest.drop 1, 1)
    else
      let (more, rest', lines) := documentLines ending untabbed fuel (rest.drop 1)
      (line ++ rest.take 1 ++ more, rest', lines + 1)

/-! ## 3. Words, tokens and statements

`Close` says what ends the fragments that are read. -/

/-- The end of a run of fragments. -/
inductive Close where
  | word
  | quote
  | document
  | brace
  /-- Two closing brackets, with so many open ones inside. -/
  | sum (depth : Nat)
  /-- The bracket that closes a group of a pattern. -/
  | group
  /-- A blank outside of brackets. -/
  | expression (depth : Nat)
  /-- The text. -/
  | whole
deriving DecidableEq

/-- A backslash between double quotes protects this character. -/
def isProtected (close : Close) (c : Char) : Bool :=
  c = '$' || c = '\x60' || c = '\\' || (c = '"' && close ≠ .document) ||
    (c = '\x7d' && close = .brace)

/-- Text between old-fashioned quotes, with its backslashes taken away, and what follows. -/
def oldScript (quoted : Bool) : List Char → Option (List Char × List Char)
  | [] => none
  | '\x60' :: rest => some ([], rest)
  | '\\' :: '\n' :: rest => oldScript quoted rest
  | '\\' :: c :: rest =>
    (oldScript quoted rest).map fun (text, rest) =>
      if c = '\\' || c = '\x60' || c = '$' || (quoted && c = '"') then (c :: text, rest)
      else ('\\' :: c :: text, rest)
  | c :: rest => (oldScript quoted rest).map fun (text, rest) => (c :: text, rest)

/-- What is made of a parameter leaves several texts apart. -/
def Use.keepsApart : Use → Bool
  | .length | .names => false
  | _ => true

/-- An index that means all elements, each for itself. -/
def isEach (index : Word) : Bool :=
  match index with
  | [.literal ['@'] _] => true
  | _ => false

/-- An index that means all elements in one text. -/
def isAll (index : Word) : Bool :=
  match index with
  | [.literal ['*'] _] => true
  | _ => false

/-- Nothing is in the word. -/
def isBlankWord (word : Word) : Bool :=
  match word with
  | [] | [.literal [] false] => true
  | _ => false

/-- The word is nothing but text, and not a descriptor. -/
def isPathWord (word : Word) : Bool :=
  match word with
  | [.literal text _] => !text.all fun c => Digits.isDecimal c || c = '-'
  | _ => false

/-- What stood between double quotes: it makes a field even if it is empty, unless it was nothing
but the arguments, or all elements of a variable. -/
def markQuoted (rich : Bool) : Word → Word
  | [.parameter "@" .value q] => [.parameter "@" .value q]
  | [.parameter "@" use q] =>
    if rich && use.keepsApart then [.parameter "@" use q]
    else [.literal [] true, .parameter "@" use q]
  | [.element name index use q] =>
    if isEach index && use.keepsApart then [.element name index use q]
    else [.literal [] true, .element name index use q]
  | word => .literal [] true :: word

/-- The assignment that a word is, in front of a command or behind one that declares. -/
def assigned? (rich : Bool) : Word → Option Assignment
  | .target name index appends :: value => some ⟨name, some index, appends, value⟩
  | .literal text false :: rest =>
    let made (name value : List Char) (appends : Bool) : Option Assignment :=
      if isName name then
        some ⟨String.ofList name, none, appends,
          if value = [] && rest ≠ [] then rest else .literal value false :: rest⟩
      else none
    match text.span isNameChar with
    | (name, '=' :: value) => made name value false
    | (name, '+' :: '=' :: value) => if rich then made name value true else none
    | _ => none
  | _ => none

/-- A variable with an index in front of a text, up to the sign that sets it; whether it appends,
and what follows. -/
def subscripted? (text : List Char) : Option (String × List Char × Bool × List Char) :=
  let rec inside : (depth : Nat) → (quote : Option Char) → List Char →
      Option (List Char × List Char)
    | _, _, [] => none
    | depth, some q, c :: rest =>
      (inside depth (if c = q then none else some q) rest).map fun (text, rest) => (c :: text, rest)
    | depth, none, c :: rest =>
      let add (depth : Nat) (quote : Option Char) : Option (List Char × List Char) :=
        (inside depth quote rest).map fun (text, rest) => (c :: text, rest)
      if c = '\n' then none
      else if c = ']' then
        match depth with
        | 0 => some ([], rest)
        | depth + 1 => add depth none
      else if c = '[' then add (depth + 1) none
      else if c = '\'' || c = '"' then add depth (some c)
      else add depth none
  match text.span isNameChar with
  | (name, '[' :: rest) =>
    if isName name then
      match inside 0 none rest with
      | some (index, '=' :: rest) => some (String.ofList name, index, false, rest)
      | some (index, '+' :: '=' :: rest) => some (String.ofList name, index, true, rest)
      | _ => none
    else none
  | _ => none

/-- The text up to the bracket that closes, and what follows it. -/
def upToBracket : (depth : Nat) → List Char → Option (List Char × List Char)
  | _, [] => none
  | depth, ']' :: rest =>
    match depth with
    | 0 => some ([], rest)
    | depth + 1 => (upToBracket depth rest).map fun (text, rest) => (']' :: text, rest)
  | depth, c :: rest =>
    (upToBracket (if c = '[' then depth + 1 else depth) rest).map fun (text, rest) =>
      (c :: text, rest)

/-- The text up to a second closing bracket in a row, if that closes the two in front of it. -/
def upToBrackets : (depth : Nat) → List Char → Option (List Char × List Char)
  | _, [] => none
  | 0, ')' :: ')' :: rest => some ([], rest)
  | 0, ')' :: _ => none
  | depth, c :: rest =>
    (upToBrackets (if c = '(' then depth + 1 else if c = ')' then depth - 1 else depth) rest).map
      fun (text, rest) => (c :: text, rest)

/-- A word cut in two at the first such character that is not quoted. -/
def cutWord (at_ : Char) : Word → Word × Option Word
  | [] => ([], none)
  | .literal text false :: rest =>
    match text.span (· ≠ at_) with
    | (front, _ :: back) => ([.literal front false], some (.literal back false :: rest))
    | (_, []) =>
      let (front, back) := cutWord at_ rest
      (.literal text false :: front, back)
  | fragment :: rest =>
    let (front, back) := cutWord at_ rest
    (fragment :: front, back)

/-- Commands that are part of the shell for good: no function takes their names. -/
def specialNames : List String :=
  [".", ":", "break", "continue", "eval", "exec", "exit", "export", "local", "readonly", "return",
    "set", "shift", "times", "trap", "unset"]

/-- Which statements are listed: those of a line, one at least, any number, or the ones behind
the first. -/
inductive Listing where
  | line
  | some
  | any
  | more
deriving DecidableEq

/-- The sign of a redirection. -/
def redirection (descriptor : Nat) : Reader Token := do
  let finish (text : String) : Reader Token := return .redirect descriptor text
  if ← accept '>' then
    if ← accept '>' then finish ">>"
    else if ← accept '&' then finish ">&"
    else if ← accept '|' then finish ">|"
    else finish ">"
  else
    skip
    if ← accept '<' then
      if ← accept '-' then finish "<<-"
      else if (← isRich) && (← peek) = some '<' then
        skip
        finish "<<<"
      else finish "<<"
    else if ← accept '&' then finish "<&"
    else if ← accept '>' then finish "<>"
    else finish "<"

/-- Puts a token back. -/
def putBack (found : Token) : Reader Unit := modify fun s => { s with putBack := some found }

/-- What is read of another text does not count here. -/
def within {α : Type} (text : List Char) (read : Reader α) : Reader α := do
  let outer ← get
  set { outer with rest := text, awaited := [], putBack := none, replaced := [] }
  let found ← read
  modify fun s => { outer with documents := s.documents }
  return found

/-- What a word stands for where a command starts is read in its place. -/
def replaceAlias (name : String) (used : List (String × Nat)) : Reader Bool := do
  let s ← get
  let used := used.filter fun entry => entry.2 < s.rest.length
  match s.manner.aliases.lookup name with
  | some text =>
    if used.any (·.1 = name) then return false
    else
      set { s with
        rest := text.toList ++ ' ' :: s.rest
        replaced := (name, s.rest.length) :: used }
      return true
  | none => return false

end RenderSync.Shell
