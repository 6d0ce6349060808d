import RenderSync.Shell.Octets
import RenderSync.Shell.Pattern

/-!
# Regular expressions

Expressions of both notations: in the basic one brackets, braces and bars are operators behind a
backslash, in the extended one without it.  `ends` are the places where a match may end that starts
at a given place; a match is the longest at the first place where there is any.

Matches that end at the same place are told apart by nothing but what their groups have matched;
only the first of them is kept, so that the work stays within the square of the text.

Expressions know characters.  An octet that belongs to none is matched by nothing but itself.
-/

namespace RenderSync.Shell

/-- A regular expression. -/
inductive Regex where
  | empty
  | one (atom : Atom)
  | start
  | finish
  /-- The edge of a word: its start, its end, or either. -/
  | edge (opens closes : Bool)
  /-- Any place but the edge of a word. -/
  | offEdge
  | sequence (first second : Regex)
  | either (first second : Regex)
  /-- An expression several times; the lazy way prefers fewer times. -/
  | repeated (lazy : Bool) (least : Nat) (most : Option Nat) (inner : Regex)
  | group (number : Nat) (inner : Regex)
  /-- The match that an expression prefers, and no other. -/
  | ordered (inner : Regex)
  /-- A match would start here, or would not. -/
  | ahead (holds : Bool) (inner : Regex)
  /-- A match ends here, or does not. -/
  | behind (holds : Bool) (inner : Regex)
  /-- What is in front does not count as matched. -/
  | mark
  /-- What a group has matched. -/
  | same (number : Nat)
deriving Inhabited

namespace Regex

/-! ## 1. Matching -/

/-- A place in a text, and what the groups have matched. -/
structure Place where
  before : List Char
  rest : List Char
  groups : List (Nat × List Char)
deriving Inhabited

/-- A letter beyond the first hundred and twenty-eight characters. -/
def isWideLetter (c : Char) : Bool :=
  let n := c.toNat
  [(0xAA, 0xAA), (0xB5, 0xB5), (0xBA, 0xBA), (0xC0, 0xD6), (0xD8, 0xF6), (0xF8, 0x2C1),
    (0x370, 0x373), (0x376, 0x377), (0x37B, 0x37D), (0x37F, 0x37F), (0x386, 0x386), (0x388, 0x3FF),
    (0x400, 0x481), (0x48A, 0x556), (0x561, 0x587), (0x5D0, 0x5EA), (0x620, 0x64A), (0x671, 0x6D3),
    (0x904, 0x939), (0xE01, 0xE30), (0x10A0, 0x10FF), (0x1E00, 0x1FBC), (0x2C00, 0x2DFF),
    (0x3041, 0x3096), (0x30A1, 0x30FA), (0x3400, 0x4DBF), (0x4E00, 0x9FFF), (0xAC00, 0xD7A3),
    (0xF900, 0xFAFF), (0x20000, 0x2FA1D)].any fun range => range.1 ≤ n && n ≤ range.2

/-- The characters of a class. -/
def wideClassHolds (name : String) (c : Char) : Bool :=
  if c < '\x80' then classHolds name c
  else if Octets.isStray c then false
  else
    match name with
    | "alpha" | "alnum" => isWideLetter c
    | "print" | "graph" => '\u00a0' ≤ c
    | "punct" => '\u00a0' ≤ c && !isWideLetter c
    | "lower" => isWideLetter c && ('\u00df' ≤ c && c ≤ '\u00ff' || '\u03b1' ≤ c && c ≤ '\u03c9' ||
        '\u0430' ≤ c && c ≤ '\u045f')
    | "upper" => isWideLetter c && ('\u00c0' ≤ c && c ≤ '\u00de' || '\u0391' ≤ c && c ≤ '\u03a9' ||
        '\u0400' ≤ c && c ≤ '\u042f')
    | _ => false

/-- The character fits the part of an expression. -/
def fits (atom : Atom) (c : Char) : Bool :=
  match atom with
  | .one d => c = d
  | .any | .many | .group .. => !Octets.isStray c
  | .among negated members =>
    let holds := members.any fun member =>
      match member with
      | .range first last => first ≤ c && c ≤ last
      | .named name => wideClassHolds name c
    holds != negated && !(negated && Octets.isStray c)

/-- A character of a word. -/
def isWordChar (c : Char) : Bool := wideClassHolds "alnum" c || c = '_'

/-- Passes over an octet. -/
def Place.step (place : Place) : Place :=
  { place with before := place.rest.take 1 ++ place.before, rest := place.rest.drop 1 }

/-- Keeps the first of several ways to the same place. -/
def distinct (places : List Place) : List Place :=
  places.foldl (fun kept place =>
    if kept.any fun other => other.rest.length = place.rest.length then kept
    else kept ++ [place]) []

/-- Repeats a step; `fuel` bounds how often. -/
def repeating (lazy : Bool) (step : Place → List Place) : (fuel : Nat) → (least : Nat) →
    (most : Option Nat) → Place → List Place
  | 0, least, _, place => if least = 0 then [place] else []
  | fuel + 1, least, most, place =>
    let further := if most = some 0 then [] else
      ((step place).filter fun next => least > 0 || next.rest.length < place.rest.length).flatMap
        (repeating lazy step fuel (least - 1) (most.map (· - 1)))
    let here := if least = 0 then [place] else []
    distinct (if lazy then here ++ further else further ++ here)

/-- Where a match that starts at a place may end; `folded` says that capitals are the same as small
letters. -/
def ends (folded : Bool) : Regex → Place → List Place
  | empty, place => [place]
  | one atom, place =>
    match place.rest with
    | [] => []
    | c :: _ =>
      if fits atom c || (folded && (fits atom c.toLower || fits atom c.toUpper)) then [place.step]
      else []
  | start, place => if place.before = [] then [place] else []
  | finish, place => if place.rest = [] then [place] else []
  | edge opens closes, place =>
    let left := place.before.head?.any isWordChar
    let right := place.rest.head?.any isWordChar
    if (opens && !left && right) || (closes && left && !right) then [place] else []
  | offEdge, place =>
    let left := place.before.head?.any isWordChar
    let right := place.rest.head?.any isWordChar
    if left == right then [place] else []
  | sequence first second, place =>
    distinct ((first.ends folded place).flatMap (second.ends folded))
  | either first second, place => distinct (first.ends folded place ++ second.ends folded place)
  | repeated lazy least most inner, place =>
    repeating lazy (inner.ends folded) (place.rest.length + least + 1) least most place
  | group number inner, place =>
    (inner.ends folded place).map fun finish =>
      let length := place.rest.length - finish.rest.length
      { finish with groups := (number, place.rest.take length) :: finish.groups }
  | same number, place =>
    match place.groups.lookup number with
    | some text =>
      let fold (text : List Char) : List Char := if folded then text.map Char.toLower else text
      if (fold text).isPrefixOf (fold place.rest) then
        [{ place with
          before := text.reverse ++ place.before, rest := place.rest.drop text.length }]
      else []
    | none => []
  | ordered inner, place => (inner.ends folded place).take 1
  | ahead holds inner, place => if (inner.ends folded place ≠ []) == holds then [place] else []
  | behind holds inner, place =>
    let found := (List.range (place.before.length + 1)).any fun n =>
      let start := { place with
        before := place.before.drop n, rest := (place.before.take n).reverse ++ place.rest }
      (inner.ends folded start).any fun finish => finish.rest.length = place.rest.length
    if found == holds then [place] else []
  | mark, place => [{ place with groups := (0, place.before) :: place.groups }]

/-- A match: what is in front of it, what was matched, and what follows. -/
structure Match where
  before : List Char
  text : List Char
  after : List Char
  groups : List (Nat × List Char)

/-- The longest match that starts at a place. -/
def matchAt? (regex : Regex) (folded : Bool) (place : Place) : Option Match :=
  let longest := (regex.ends folded place).foldl (fun found finish =>
    match found with
    | some best => if finish.rest.length < best.rest.length then some finish else some best
    | none => some finish) (none : Option Place)
  longest.map fun finish =>
    let before := (finish.groups.lookup 0).getD place.before
    let whole := place.before.reverse ++ place.rest
    ⟨before.reverse, (whole.drop before.length).take
      (whole.length - before.length - finish.rest.length), finish.rest, finish.groups⟩

/-- The first match that starts at a place or behind it. -/
def find? (regex : Regex) (folded : Bool) : (before : List Char) → (rest : List Char) →
    Option Match
  | before, [] => regex.matchAt? folded ⟨before, [], []⟩
  | before, c :: rest =>
    match regex.matchAt? folded ⟨before, c :: rest, []⟩ with
    | some found => some found
    | none => find? regex folded (c :: before) rest

/-! ## 2. Notation -/

/-- What is wrong with an expression as it is written. -/
inductive Trouble where
  | openSet
  | openGroup
  | strayGroup
  | openBounds
  | badBounds
  | tooLarge
  | badRange
  | badClass
  | badReference
  | trailing
  | nothingToRepeat
deriving DecidableEq, Repr, Inhabited

/-- What is wrong, in words. -/
def Trouble.message : Trouble → String
  | openSet => "Unmatched [, [^, [:, [., or [="
  | openGroup => "Unmatched ( or \\("
  | strayGroup => "Unmatched ) or \\)"
  | openBounds => "Unmatched \\\x7b"
  | badBounds => "Invalid content of \\\x7b\\\x7d"
  | tooLarge => "Regular expression too big"
  | badRange => "Invalid range end"
  | badClass => "Invalid character class name"
  | badReference => "Invalid back reference"
  | trailing => "Trailing backslash"
  | nothingToRepeat => "Invalid preceding regular expression"

/-- A notation of expressions. -/
structure Notation where
  /-- Brackets, braces and bars are operators without a backslash. -/
  extended : Bool
  /-- A closing bracket without another one stands for itself, and what repeats nothing counts for
  nothing. -/
  lenient : Bool
  /-- `n` and `t` behind a backslash are the end of a line and a tab. -/
  controls : Bool
  /-- There are lazy repeats, looks ahead and behind, and more sets behind a backslash; a match is
  the one that is preferred. -/
  rich : Bool
  /-- Signs for the start and the end mean those of every line. -/
  byLine : Bool := false
deriving DecidableEq, Repr

/-- Names of classes. -/
def classes : List String :=
  ["alnum", "alpha", "blank", "cntrl", "digit", "graph", "lower", "print", "punct", "space",
    "upper", "xdigit"]

/-- The members of a set up to its closing bracket, and what follows it. -/
def members : (fuel : Nat) → (first : Bool) → List Char → Except Trouble (List Member × List Char)
  | 0, _, _ | _, _, [] => .error .openSet
  | fuel + 1, first, c :: rest =>
    if c = ']' && !first then .ok ([], rest)
    else
      let add (member : Member) (rest : List Char) : Except Trouble (List Member × List Char) :=
        (members fuel false rest).map fun (others, rest) => (member :: others, rest)
      -- The first octet of what may be a range, and what follows.
      let single : Char × List Char := match c, rest with
        | '[', '.' :: d :: '.' :: ']' :: rest => (d, rest)
        | '[', '=' :: d :: '=' :: ']' :: rest => (d, rest)
        | c, rest => (c, rest)
      match c, rest with
      | '[', ':' :: rest =>
        let (name, after) := rest.span (· ≠ ':')
        match after with
        | ':' :: ']' :: after =>
          if classes.contains (String.ofList name) then add (.named (String.ofList name)) after
          else .error .badClass
        | _ => .error .openSet
      | _, _ =>
        match single.2 with
        | '-' :: d :: after =>
          if d = ']' then add (.range single.1 single.1) single.2
          else
            let (last, after) : Char × List Char := match d, after with
              | '[', '.' :: e :: '.' :: ']' :: after => (e, after)
              | d, after => (d, after)
            if last < single.1 then .error .badRange else add (.range single.1 last) after
        | rest => add (.range single.1 single.1) rest

/-- A set behind its opening bracket. -/
def set (text : List Char) : Except Trouble (Regex × List Char) :=
  let (negated, rest) : Bool × List Char := match text with
    | '^' :: rest => (true, rest)
    | _ => (false, text)
  (members (rest.length + 1) true rest).map fun (members, rest) =>
    (.one (.among negated members), rest)

/-- Sets and marks behind a backslash that only the rich notation has. -/
def richly? : Char → Option Regex
  | 'd' => some (.one (.among false [.range '0' '9']))
  | 'D' => some (.one (.among true [.range '0' '9']))
  | 'h' => some (.one (.among false [.named "blank"]))
  | 'K' => some .mark
  | 'A' => some .start
  | 'z' | 'Z' => some .finish
  | _ => none

/-- Octets behind a backslash that stand for sets and edges. -/
def escaped? (form : Notation) : Char → Option Regex
  | 'w' => some (.one (.among false [.named "alnum", .range '_' '_']))
  | 'W' => some (.one (.among true [.named "alnum", .range '_' '_']))
  | 's' => some (.one (.among false [.named "space"]))
  | 'S' => some (.one (.among true [.named "space"]))
  | 'b' => some (.edge true true)
  | 'B' => some .offEdge
  | '<' => some (.edge true false)
  | '>' => some (.edge false true)
  | '\x60' => some .start
  | '\'' => some .finish
  | 'n' => if form.controls then some (.one (.one '\n')) else none
  | 't' => if form.controls then some (.one (.one '\t')) else none
  | 'r' => if form.controls then some (.one (.one '\r')) else none
  | 'f' => if form.controls then some (.one (.one '\x0c')) else none
  | 'v' => if form.controls then some (.one (.one '\x0b')) else none
  | 'a' => if form.controls then some (.one (.one '\x07')) else none
  | c => if form.rich then richly? c else none

/-- What stands in front of an expression. -/
inductive Sign where
  | operator (c : Char)
  | plain (c : Char)
  | escaped (c : Char)
  | trailing
  | none

/-- The next sign in one of the notations, and what follows it. -/
def sign (extended : Bool) : List Char → Sign × List Char
  | [] => (.none, [])
  | ['\\'] => (.trailing, [])
  | '\\' :: c :: rest =>
    if "()\x7b\x7d|+?".toList.contains c then
      (if extended then .plain c else .operator c, rest)
    else (.escaped c, rest)
  | c :: rest =>
    if "()\x7b\x7d|+?".toList.contains c then (if extended then .operator c else .plain c, rest)
    else if c = '*' || c = '^' || c = '$' || c = '.' || c = '[' then (.operator c, rest)
    else (.plain c, rest)

/-- How often at least and at most. -/
abbrev Bounds := Nat × Option Nat

/-- More than any expression may be repeated. -/
def mostRepeats : Nat := 32767

/-- How often, behind an opening brace, and what follows the closing one; `none` if that is not
what is written. -/
def bounds? (form : Notation) (text : List Char) :
    Except Trouble (Option (Bounds × List Char)) :=
  let extended := form.extended
  let unclosed : Except Trouble (Option (Bounds × List Char)) :=
    if extended && (form.lenient || form.rich) then .ok none
    else .error (if text.any (· = '\x7d') then .badBounds else .openBounds)
  let close (least : Nat) (most : Option Nat) (rest : List Char) :
      Except Trouble (Option (Bounds × List Char)) :=
    let rest? := match extended, rest with
      | false, '\\' :: '\x7d' :: rest => some rest
      | true, '\x7d' :: rest => some rest
      | _, _ => none
    match rest? with
    | none => unclosed
    | some rest =>
      if most.any (· < least) then .error .badBounds
      else if mostRepeats < least || most.any (mostRepeats < ·) then .error .tooLarge
      else .ok (some ((least, most), rest))
  let (first, rest) := text.span Digits.isDecimal
  match rest with
  | ',' :: rest =>
    let (second, rest) := rest.span Digits.isDecimal
    close ((Digits.toNat? 10 first).getD 0) (Digits.toNat? 10 second) rest
  | rest =>
    match Digits.toNat? 10 first with
    | some n => close n (some n) rest
    | none => unclosed

/-- The start of the text, or of a line. -/
def opening (form : Notation) : Regex :=
  if form.byLine then .either .start (.behind true (.one (.one '\n'))) else .start

/-- The end of the text, or of a line. -/
def closing (form : Notation) : Regex :=
  if form.byLine then .either .finish (.ahead true (.one (.one '\n'))) else .finish

/-- A literal octet. -/
def literal (c : Char) : Regex := .one (.one c)

/-- What was read of a notation: the expression, the groups so far, and what is left. -/
abbrev Reading := Except Trouble (Regex × Nat × List Char)

/-- An expression several times; in the rich notation a sign behind that says how. -/
def severally (form : Notation) (least : Nat) (most : Option Nat) (regex : Regex)
    (text : List Char) : Regex × List Char :=
  match form.rich, text with
  | true, '?' :: rest => (.repeated true least most regex, rest)
  | true, '+' :: rest => (.ordered (.repeated false least most regex), rest)
  | _, _ => (.repeated false least most regex, text)

/-- Reads how often an expression is repeated. -/
def readRepeats (form : Notation) : (fuel : Nat) → Regex → List Char →
    Except Trouble (Regex × List Char)
  | 0, regex, text => .ok (regex, text)
  | fuel + 1, regex, text =>
    let goOn (least : Nat) (most : Option Nat) (rest : List Char) :
        Except Trouble (Regex × List Char) :=
      let (regex, rest) := severally form least most regex rest
      readRepeats form fuel regex rest
    match sign form.extended text with
    | (.operator '*', rest) => goOn 0 none rest
    | (.operator '+', rest) => goOn 1 none rest
    | (.operator '?', rest) => goOn 0 (some 1) rest
    | (.operator '\x7b', rest) => do
      match ← bounds? form rest with
      | some ((least, most), rest) => goOn least most rest
      | none => return (regex, text)
    | _ => .ok (regex, text)

/-- What a bracket with a question mark behind it opens: a group without a number, a look, or a
group with a name. -/
def special? : List Char → Option (Option (Regex → Regex) × List Char)
  | ':' :: rest => some (some id, rest)
  | '>' :: rest => some (some .ordered, rest)
  | '=' :: rest => some (some (.ahead true), rest)
  | '!' :: rest => some (some (.ahead false), rest)
  | '<' :: '=' :: rest => some (some (.behind true), rest)
  | '<' :: '!' :: rest => some (some (.behind false), rest)
  | '<' :: rest | 'P' :: '<' :: rest => some (none, (rest.dropWhile (· ≠ '>')).drop 1)
  | _ => none

mutual

/-- Reads alternatives, up to a closing bracket or the end. -/
def readAny (form : Notation) : (fuel : Nat) → (groups : Nat) → List Char → Reading
  | 0, _, _ => .error .tooLarge
  | fuel + 1, groups, text => do
    let (first, groups, rest) ← readAll form fuel true groups text
    match sign form.extended rest with
    | (.operator '|', rest) =>
      let (second, groups, rest) ← readAny form fuel groups rest
      return (.either first second, groups, rest)
    | _ => return (first, groups, rest)

/-- Reads expressions that follow each other; `first` says that nothing stands in front. -/
def readAll (form : Notation) : (fuel : Nat) → (first : Bool) → (groups : Nat) → List Char →
    Reading
  | 0, _, _, _ => .error .tooLarge
  | fuel + 1, first, groups, text =>
    match sign form.extended text with
    | (.none, _) | (.operator '|', _) | (.operator ')', _) => .ok (.empty, groups, text)
    | (.trailing, _) => .error .trailing
    | (.operator '^', rest) =>
      if first || form.extended then do
        let (others, groups, rest) ← readAll form fuel true groups rest
        return (.sequence (opening form) others, groups, rest)
      else readMore form fuel groups (literal '^') rest
    | (.operator '$', rest) =>
      let closes := match sign form.extended rest with
        | (.none, _) | (.operator '|', _) | (.operator ')', _) => true
        | _ => form.extended
      if closes then do
        let (others, groups, rest) ← readAll form fuel false groups rest
        return (.sequence (closing form) others, groups, rest)
      else readMore form fuel groups (literal '$') rest
    | (.operator '(', rest) => do
      let (wrap, rest) ← match form.rich, rest with
        | true, '?' :: rest =>
          match special? rest with
          | some special => pure special
          | none => throw .nothingToRepeat
        | _, rest => pure (none, rest)
      let number := if wrap.isNone then groups + 1 else groups
      let (inner, groups, rest) ← readAny form fuel number rest
      match sign form.extended rest with
      | (.operator ')', rest) =>
        readMore form fuel groups ((wrap.getD (.group number)) inner) rest
      | _ => throw .openGroup
    | (.operator '[', rest) => do
      let (set, rest) ← set rest
      readMore form fuel groups set rest
    | (.operator '.', rest) => readMore form fuel groups (.one .any) rest
    | (.operator '\x7b', rest) => do
      match ← bounds? form rest with
      | some (_, left) =>
        if !form.extended then throw .nothingToRepeat
        else if form.lenient then readAll form fuel first groups left
        else throw .nothingToRepeat
      | none => readMore form fuel groups (literal '\x7b') rest
    | (.operator '\x7d', rest) => readMore form fuel groups (literal '\x7d') rest
    | (.operator c, rest) =>
      -- What is left are signs that repeat, with nothing in front of them.
      if !form.extended then
        if c = '*' then readMore form fuel groups (literal c) rest
        else if first then readMore form fuel groups (literal c) rest
        else throw .nothingToRepeat
      else if form.lenient then readAll form fuel first groups rest
      else throw .nothingToRepeat
    | (.escaped c, rest) =>
      match escaped? form c, Digits.toNat? 10 [c] with
      | some regex, _ => readMore form fuel groups regex rest
      | none, some number =>
        if number = 0 then readMore form fuel groups (literal c) rest
        else if groups < number then .error .badReference
        else readMore form fuel groups (.same number) rest
      | none, none => readMore form fuel groups (literal c) rest
    | (.plain c, rest) => readMore form fuel groups (literal c) rest

/-- Reads how often an expression is repeated, and then what follows. -/
def readMore (form : Notation) : (fuel : Nat) → (groups : Nat) → Regex → List Char → Reading
  | 0, _, _, _ => .error .tooLarge
  | fuel + 1, groups, regex, text => do
    let (regex, rest) ← readRepeats form text.length regex text
    let (others, groups, rest) ← readAll form fuel false groups rest
    return (.sequence regex others, groups, rest)

end

/-- Reads expressions to the end; closing brackets without another one stand for themselves where
that is allowed.  `fuel` bounds how many of these there are. -/
def readWhole (form : Notation) : (fuel : Nat) → (groups : Nat) → List Char →
    Except Trouble Regex
  | 0, _, _ => .error .tooLarge
  | fuel + 1, groups, text => do
    let (regex, groups, rest) ← readAny form (4 * text.length + 8) groups text
    match rest with
    | [] => return regex
    | c :: left =>
      if form.lenient && form.extended then
        return .sequence regex (.sequence (literal c) (← readWhole form fuel groups left))
      else throw .strayGroup

/-- The expression that a text writes. -/
def read (form : Notation) (text : List Char) : Except Trouble Regex := do
  let regex ← readWhole form (text.length + 1) 0 text
  return if form.rich then .ordered regex else regex

/-- The notation of programs that change lines. -/
def editing (extended : Bool) : Notation := ⟨extended, false, true, false, false⟩

/-- The notation of programs that look for lines. -/
def searching (extended : Bool) : Notation := ⟨extended, true, false, false, false⟩

/-- The rich notation. -/
def searchingRichly : Notation := ⟨true, false, true, true, false⟩

/-- How many groups an expression has. -/
def groupCount : Regex → Nat
  | sequence first second | either first second => first.groupCount + second.groupCount
  | repeated _ _ _ inner | ordered inner | ahead _ inner | behind _ inner => inner.groupCount
  | group _ inner => inner.groupCount + 1
  | _ => 0

/-- The expression that a text writes; `none` if it makes no sense. -/
def ofText? (extended : Bool) (text : List Char) : Option Regex :=
  (read (editing extended) text).toOption

/-- A text as an expression that matches nothing else. -/
def ofLiteral (text : List Char) : Regex :=
  text.foldr (fun c regex => .sequence (literal c) regex) .empty

end Regex

end RenderSync.Shell
