import RenderSync.Shell.Octets
import RenderSync.Shell.Syntax
import RenderSync.Text.Digits

/-!
# Patterns of the shell

A pattern matches a whole text: `*` any part of it, `?` one octet, brackets one octet out of a set.
What is quoted stands for itself, and so does what follows a backslash.  `accepts` decides by trying
every length for each `*`.

A rich pattern may have groups, texts between bars and brackets with a sign in front that says how
often one of them may come.  `reaches` answers with all lengths up to which such a pattern matches.
-/

namespace RenderSync.Shell

/-- A member of a set: the octets from one to another, or a named class. -/
inductive Member where
  | range (first last : Char)
  | named (name : String)
deriving DecidableEq, Repr

/-- A part of a pattern. -/
inductive Atom where
  | one (c : Char)
  | any
  | many
  | among (negated : Bool) (members : List Member)
  /-- One of some patterns, as often as the sign says. -/
  | group (sign : Char) (choices : List (List Atom))
deriving Inhabited

/-- The octets of a class. -/
def classHolds (name : String) (c : Char) : Bool :=
  let lower := 'a' ≤ c && c ≤ 'z'
  let upper := 'A' ≤ c && c ≤ 'Z'
  let digit := Digits.isDecimal c
  let shown := '!' ≤ c && c ≤ '~'
  match name with
  | "alpha" => lower || upper
  | "digit" => digit
  | "alnum" => lower || upper || digit
  | "upper" => upper
  | "lower" => lower
  | "space" => c = ' ' || ('\t' ≤ c && c ≤ '\r')
  | "blank" => c = ' ' || c = '\t'
  | "punct" => shown && !(lower || upper || digit)
  | "print" => shown || c = ' '
  | "graph" => shown
  | "cntrl" => c < ' ' || c = '\x7f'
  | "xdigit" => digit || ('a' ≤ c && c ≤ 'f') || ('A' ≤ c && c ≤ 'F')
  | _ => false

/-- The octet is a member. -/
def Member.holds (member : Member) (c : Char) : Bool :=
  match member with
  | range first last => first ≤ c && c ≤ last
  | named name => classHolds name c

/-- Octets of a pattern, with whether they are quoted. -/
abbrev Marked := List (Char × Bool)

namespace Marked

/-- The name of a class behind `[:`, and what follows it. -/
def className? (text : Marked) : Option (String × Marked) :=
  let (name, rest) := text.span fun mark => mark.1 ≠ ':'
  match rest with
  | _ :: (']', _) :: rest => some (String.ofList (name.map Prod.fst), rest)
  | _ => none

/-- The next octet of a set, which a backslash may protect. -/
def octet? : Marked → Option (Char × Marked)
  | ('\\', false) :: (c, _) :: rest => some (c, rest)
  | (c, _) :: rest => some (c, rest)
  | [] => none

/-- The members of a set up to its closing bracket, and what follows it; the first member may be
a closing bracket. -/
def members : (fuel : Nat) → (first : Bool) → Marked → Option (List Member × Marked)
  | 0, _, _ | _, _, [] => none
  | fuel + 1, first, mark :: rest =>
    if mark = (']', false) && !first then some ([], rest)
    else
      let named := match mark, rest with
        | ('[', false), (':', _) :: rest => className? rest
        | _, _ => none
      match named with
      | some (name, rest) =>
        (members fuel false rest).map fun (found, rest) => (.named name :: found, rest)
      | none => do
        let (c, rest) ← octet? (mark :: rest)
        match rest with
        | ('-', false) :: next :: rest' =>
          if next = (']', false) then
            let (found, rest) ← members fuel false rest
            return (.range c c :: found, rest)
          else
            let (last, rest) ← octet? (next :: rest')
            let (found, rest) ← members fuel false rest
            return (.range c last :: found, rest)
        | _ =>
          let (found, rest) ← members fuel false rest
          return (.range c c :: found, rest)

/-- The choices of a group up to the bracket that closes it, and what follows. -/
def choices : (depth : Nat) → Marked → Option (List Marked × Marked)
  | _, [] => none
  | depth, (c, quoted) :: rest =>
    let add (depth : Nat) : Option (List Marked × Marked) :=
      (choices depth rest).map fun (found, rest) =>
        match found with
        | choice :: others => (((c, quoted) :: choice) :: others, rest)
        | [] => ([[(c, quoted)]], rest)
    if quoted then add depth
    else if c = '(' then add (depth + 1)
    else if c = ')' then
      match depth with
      | 0 => some ([[]], rest)
      | depth + 1 => add depth
    else if c = '|' && depth = 0 then
      (choices 0 rest).map fun (found, rest) => ([] :: found, rest)
    else add depth

/-- The parts of a pattern; a bracket without its end stands for itself.  Groups are looked for if
`rich` says so. -/
def atoms (rich : Bool) : (fuel : Nat) → Marked → List Atom
  | 0, _ | _, [] => []
  | fuel + 1, (c, quoted) :: rest =>
    if quoted then .one c :: atoms rich fuel rest
    else
      let group : Option (List Marked × Marked) := match rest with
        | ('(', false) :: inner =>
          if rich && "?*+@!".toList.contains c then choices 0 inner else none
        | _ => none
      match group with
      | some (found, rest) => .group c (found.map (atoms rich fuel)) :: atoms rich fuel rest
      | none =>
        match c, rest with
        | '*', _ => .many :: atoms rich fuel rest
        | '?', _ => .any :: atoms rich fuel rest
        | '\\', (d, _) :: rest => .one d :: atoms rich fuel rest
        | '[', _ =>
          let (negated, inner) := match rest with
            | ('!', false) :: inner => (true, inner)
            | ('^', false) :: inner => if rich then (true, inner) else (false, rest)
            | _ => (false, rest)
          match members (inner.length + 1) true inner with
          | some (found, rest) => .among negated found :: atoms rich fuel rest
          | none => .one c :: atoms rich fuel rest
        | _, _ => .one c :: atoms rich fuel rest

/-- Nothing in the pattern is special. -/
def isPlain (pattern : Marked) : Bool :=
  pattern.all fun (c, quoted) => quoted || !(c = '*' || c = '?' || c = '[')

/-- The pattern as characters, each quoted if its first octet is. -/
def characters (pattern : Marked) : Marked :=
  let rec walk : List Char → Marked → Marked
    | c :: rest, mark :: marks =>
      (c, mark.2) :: walk rest ((mark :: marks).drop (Octets.ofCharacter c).length)
    | _, _ => []
  if pattern.all fun mark => mark.1 < '\x80' then pattern
  else walk (Octets.characters (pattern.map Prod.fst)) pattern

end Marked

/-- The octet fits the part of a pattern. -/
def Atom.fits (atom : Atom) (c : Char) : Bool :=
  match atom with
  | one d => c = d
  | any | many | group .. => true
  | among negated members => members.any (·.holds c) != negated

/-- The pattern has groups. -/
def hasGroups (atoms : List Atom) : Bool :=
  atoms.any fun atom =>
    match atom with
    | .group .. => true
    | _ => false

/-- The lengths up to which a pattern matches a text; `fuel` bounds its parts and the text. -/
def reaches : (fuel : Nat) → List Atom → List Char → List Nat
  | 0, _, _ => []
  | _, [], _ => [0]
  | fuel + 1, atom :: rest, text =>
    let ends : List Nat := match atom with
      | .many => List.range (text.length + 1)
      | .group sign choices =>
        let once := (choices.flatMap fun choice => reaches fuel choice text).eraseDups
        match sign with
        | '@' => once
        | '?' => (0 :: once).eraseDups
        | '!' => (List.range (text.length + 1)).filter fun n =>
            !choices.any fun choice => (reaches fuel choice (text.take n)).contains n
        | sign =>
          let more := (once.filter (0 < ·)).flatMap fun n =>
            (reaches fuel [.group '*' choices] (text.drop n)).map (n + ·)
          ((if sign = '*' then [0] else once) ++ more).eraseDups
      | atom =>
        match text with
        | c :: _ => if atom.fits c then [1] else []
        | [] => []
    (ends.flatMap fun n => (reaches fuel rest (text.drop n)).map (n + ·)).eraseDups

/-- The pattern matches the whole text. -/
def accepts : List Atom → List Char → Bool
  | [], text => text.isEmpty
  | .many :: rest, [] => accepts rest []
  | .many :: rest, c :: text => accepts rest (c :: text) || accepts (.many :: rest) text
  | _ :: _, [] => false
  | atom :: rest, c :: text => atom.fits c && accepts rest text
termination_by atoms text => (atoms.length, text.length)

/-- The pattern matches the whole text, groups or not. -/
def acceptsAll (atoms : List Atom) (size : Nat) (text : List Char) : Bool :=
  if hasGroups atoms then (reaches (2 * size + 2 * text.length + 4) atoms text).contains text.length
  else accepts atoms text

namespace Marked

/-- A test for the texts that a pattern matches. -/
def test (rich : Bool) (pattern : Marked) : List Char → Bool :=
  let pattern := if rich then pattern.characters else pattern
  let atoms := pattern.atoms rich (pattern.length + 1)
  fun text => acceptsAll atoms pattern.length (if rich then Octets.characters text else text)

/-- The pattern matches the text. -/
def covers (pattern : Marked) (text : List Char) : Bool := pattern.test false text

end Marked

/-- The text without the part that the pattern matches at its start or its end; the shortest such
part or the longest. -/
def trim (rich suffix longest : Bool) (pattern : Marked) (text : List Char) : List Char :=
  let fits := pattern.test rich
  let text := if rich then Octets.characters text else text
  let octets (text : List Char) : List Char := if rich then Octets.ofCharacters text else text
  let lengths := List.range (text.length + 1)
  let cuts := if suffix == longest then lengths else lengths.reverse
  let cut := cuts.find? fun n => fits (octets (if suffix then text.drop n else text.take n))
  match cut with
  | some n => octets (if suffix then text.take n else text.drop n)
  | none => octets text

/-- The length of the longest match at the start of a text. -/
def longestMatch (fits : List Char → Bool) (text : List Char) : Option Nat :=
  (List.range (text.length + 1)).reverse.find? fun n => fits (Octets.ofCharacters (text.take n))

/-- A text with something else for the matches of a pattern at its start and behind. -/
def replacedFrom (fits : List Char → Bool) (every : Bool) (word : List Char → List Char) :
    (fuel : Nat) → List Char → List Char
  | 0, text => text
  | _, [] => []
  | fuel + 1, c :: rest =>
    match longestMatch fits (c :: rest) with
    | some (n + 1) =>
      let found := (c :: rest).take (n + 1)
      let left := (c :: rest).drop (n + 1)
      word found ++ (if every then replacedFrom fits every word fuel left else left)
    | _ => c :: replacedFrom fits every word fuel rest

/-- A text with something else for what a pattern matches; `word` makes it of the match. -/
def replaced (spot : Spot) (pattern : Marked) (word : List Char → List Char) (text : List Char) :
    List Char :=
  let fits := pattern.test true
  let wide := Octets.characters text
  let lengths := List.range (wide.length + 1)
  let made (text : List Char) : List Char := Octets.characters (word (Octets.ofCharacters text))
  Octets.ofCharacters <| match spot with
    | .front =>
      match longestMatch fits wide with
      | some n => made (wide.take n) ++ wide.drop n
      | none => wide
    | .back =>
      match lengths.find? fun n => fits (Octets.ofCharacters (wide.drop n)) with
      | some n => wide.take n ++ made (wide.drop n)
      | none => wide
    | .first => if pattern = [] then wide else replacedFrom fits false made (wide.length + 1) wide
    | .every => if pattern = [] then wide else replacedFrom fits true made (wide.length + 1) wide

end RenderSync.Shell
