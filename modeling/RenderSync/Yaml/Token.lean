import RenderSync.Text.Utf8
import RenderSync.Yaml.Scalar

/-!
# Tokens of a YAML text

Indentation becomes brackets.  A token opens or closes a block wherever the column says so, and a
`key` token is put in front of what turns out to be a key when its colon is met.  Until then a
*possible key* is remembered for every level of brackets: it has to end on its own line and
within 1024 octets, and one that stands where only a key may stand is an error if no colon comes.

A tag is made of octets, because it may escape some that are no text; it ends at the first zero.
-/

namespace RenderSync.Yaml

/-- A token. -/
inductive Token where
  | versionDirective (major minor : Nat)
  | tagDirective (handle : List Char) (start : List UInt8)
  | documentStart
  | documentEnd
  | blockSequence
  | blockMapping
  | blockEnd
  | flowSequence
  | flowSequenceEnd
  | flowMapping
  | flowMappingEnd
  | blockEntry
  | flowEntry
  | key
  | value
  | alias (name : List Char)
  | anchor (name : List Char)
  | tag (handle : List Char) (suffix : List UInt8)
  | scalar (text : List Char) (style : Style)
deriving DecidableEq, Repr, Inhabited

/-- A place where a key may have started. -/
structure PossibleKey where
  /-- How many tokens came before it. -/
  number : Nat
  /-- Nothing but a key may stand there. -/
  required : Bool
  index : Nat
  line : Nat
  column : Nat
deriving Repr, Inhabited

/-- How far a text has been split. -/
structure Scanner where
  at_ : Cursor
  /-- The tokens so far, last first. -/
  tokens : List Token
  indent : Int
  outer : List Int
  /-- A key may start here. -/
  keyAllowed : Bool
  /-- The possible key of every level, innermost first; the last is the level outside all
  brackets. -/
  keys : List (Option PossibleKey)
deriving Inhabited

namespace Scanner

/-- The start of a text. -/
def start (text : List Char) : Scanner := ⟨.start text, [], -1, [], true, [none]⟩

/-- Inside brackets. -/
def inFlow (s : Scanner) : Bool := 1 < s.keys.length

/-- Appends a token. -/
def push (s : Scanner) (token : Token) : Scanner := { s with tokens := token :: s.tokens }

/-- Puts a token in front of the token with a number. -/
def insert (s : Scanner) (number : Nat) (token : Token) : Scanner :=
  let later := s.tokens.length - number
  { s with tokens := s.tokens.take later ++ token :: s.tokens.drop later }

/-- Moves the cursor. -/
def moveTo (s : Scanner) (at_ : Cursor) : Scanner := { s with at_ := at_ }

/-- Appends a token of `n` characters. -/
def pushMark (s : Scanner) (n : Nat) (token : Token) : Scanner :=
  (s.push token).moveTo (s.at_.skipMany n)

/-! ## 1. Indentation -/

/-- Closes the blocks that are deeper than a column. -/
def unroll (column : Int) : List Int → Scanner → Scanner
  | [], s => s
  | outer :: rest, s =>
    if s.inFlow || s.indent ≤ column then s
    else unroll column rest { s.push .blockEnd with indent := outer, outer := rest }

/-- Closes the blocks that are deeper than a column. -/
def closeBlocks (s : Scanner) (column : Int) : Scanner := unroll column s.outer s

/-- Opens a block at a column if it is deeper than the one around it, in front of the token with
a number or else at the end. -/
def openBlock (s : Scanner) (column : Nat) (number : Option Nat) (token : Token) : Scanner :=
  if s.inFlow || (column : Int) ≤ s.indent then s
  else
    let s := { s with indent := column, outer := s.indent :: s.outer }
    match number with
    | some number => s.insert number token
    | none => s.push token

/-! ## 2. Possible keys -/

/-- Forgets the possible key of the innermost level; `none` if there has to be one. -/
def dropKey (s : Scanner) : Option Scanner :=
  match s.keys with
  | some key :: rest => if key.required then none else some { s with keys := none :: rest }
  | _ => some s

/-- Remembers that a key may start here. -/
def saveKey (s : Scanner) : Option Scanner :=
  if s.keyAllowed then do
    let s ← s.dropKey
    let key : PossibleKey :=
      ⟨s.tokens.length, !s.inFlow && s.indent == s.at_.column, s.at_.index, s.at_.line,
        s.at_.column⟩
    some { s with keys := some key :: s.keys.drop 1 }
  else some s

/-- A possible key that is on this line and not too long. -/
def isFresh (s : Scanner) (key : PossibleKey) : Bool :=
  key.line == s.at_.line && s.at_.index ≤ key.index + 1024

/-- Forgets possible keys that cannot become keys any more. -/
def dropStaleKeys (s : Scanner) : Option Scanner := do
  let keys ← s.keys.mapM fun key =>
    match key with
    | some key => if s.isFresh key then some (some key) else if key.required then none
      else some none
    | none => some none
  some { s with keys := keys }

/-! ## 3. Blanks, comments, directives -/

/-- Passes over blanks, comments and line breaks up to the next token, and over one byte order
mark at the start of each line.  Tabs are blanks only where no key may start. -/
def skipToToken : (fuel : Nat) → Scanner → Scanner
  | 0, s => s
  | fuel + 1, s =>
    let at_ := if s.at_.column = 0 && s.at_.sees '\uFEFF' then s.at_.skip else s.at_
    let tabs := s.inFlow || !s.keyAllowed
    let at_ := at_.skipWhile fun c => c = ' ' || (tabs && c = '\t')
    let at_ := if at_.sees '#' then at_.skipWhile (fun c => !isBreak c) else at_
    match at_.rest with
    | c :: _ =>
      if isBreak c then
        skipToToken fuel
          { s with at_ := at_.line?.2, keyAllowed := if s.inFlow then s.keyAllowed else true }
      else s.moveTo at_
    | [] => s.moveTo at_

/-- A handle: `!`, `!!` or `!name!`.  In a directive it has to be one of the last two. -/
def readHandle (directive : Bool) (at_ : Cursor) : Option (List Char × Cursor) :=
  if !at_.sees '!' then none
  else
    let name := at_.skip.rest.takeWhile isWord
    let next := at_.skip.skipMany name.length
    if next.sees '!' then some ('!' :: name ++ ['!'], next.skip)
    else if directive && name ≠ [] then none
    else some ('!' :: name, next)

/-- A character of a tag.  Commas and square brackets may stand in verbatim tags only. -/
def isTagChar (verbatim : Bool) (c : Char) : Bool :=
  isWord c || c = ';' || c = '/' || c = '?' || c = ':' || c = '@' || c = '&' || c = '=' ||
    c = '+' || c = '$' || c = '.' || c = '%' || c = '!' || c = '~' || c = '*' || c = '\'' ||
    c = '(' || c = ')' || (verbatim && (c = ',' || c = '[' || c = ']'))

/-- How many octets follow the octet that starts a character, going by its first bits alone. -/
def tailCount? (lead : Nat) : Option Nat :=
  if lead < 0x80 then some 0
  else if lead / 32 = 6 then some 1
  else if lead / 16 = 14 then some 2
  else if lead / 8 = 30 then some 3
  else none

/-- The octets of a tag: `%` with two digits is one of them.  An escaped octet that starts a
character has to be followed by the others of it, `tail` of them still to come. -/
def tagOctets? : (tail : Nat) → List Char → Option (List UInt8)
  | tail, '%' :: a :: b :: rest => do
    let octet ← Digits.toNat? 16 [a, b]
    let tail ← match tail with
      | 0 => tailCount? octet
      | tail + 1 => if octet / 64 = 2 then some tail else none
    (tagOctets? tail rest).map (octet.toUInt8 :: ·)
  | 0, c :: rest => if c = '%' then none else (tagOctets? 0 rest).map (Utf8.encodeChar c ++ ·)
  | 0, [] => some []
  | _ + 1, _ => none

/-- The rest of a tag, which may be empty only if something came `before` it. -/
def readTagText (verbatim : Bool) (before : List Char) (at_ : Cursor) :
    Option (List UInt8 × Cursor) :=
  let raw := at_.rest.takeWhile (isTagChar verbatim)
  if raw = [] && before = [] then none
  else
    (tagOctets? 0 raw).map fun octets =>
      ((Utf8.encode (before.drop 1) ++ octets).takeWhile (· ≠ 0), at_.skipMany raw.length)

/-- A tag: verbatim in angles, or a handle and a suffix.  What looks like a handle without an end
is a suffix of the handle `!`; a suffix without anything makes it the tag `!`. -/
def readTag (inFlow : Bool) (at_ : Cursor) : Option (Token × Cursor) := do
  let (token, next) ←
    if at_.skip.sees '<' then do
      let (text, next) ← readTagText true [] (at_.skipMany 2)
      if next.sees '>' then some (Token.tag [] text, next.skip) else none
    else do
      let (handle, next) ← readHandle false at_
      if 2 ≤ handle.length && handle.getLast? = some '!' then
        let (suffix, next) ← readTagText false [] next
        some (Token.tag handle suffix, next)
      else
        let (suffix, next) ← readTagText false handle next
        if suffix = [] then some (Token.tag [] (Utf8.encodeChar '!'), next)
        else some (Token.tag ['!'] suffix, next)
  if isSeparated next.rest || (inFlow && next.sees ',') then some (token, next) else none

/-- Digits of a version, at most nine. -/
def readVersionNumber (at_ : Cursor) : Option (Nat × Cursor) :=
  let digits := at_.rest.takeWhile Digits.isDecimal
  if digits = [] || 9 < digits.length then none
  else some (Digits.toNat digits, at_.skipMany digits.length)

/-- A directive from its `%` on, with its line. -/
def readDirective (at_ : Cursor) : Option (Token × Cursor) := do
  let name := at_.skip.rest.takeWhile isWord
  let next := at_.skip.skipMany name.length
  if name = [] || !isSeparated next.rest then none
  let next := next.skipWhile isBlank
  let (token, next) ←
    if name = ['Y', 'A', 'M', 'L'] then do
      let (major, next) ← readVersionNumber next
      if !next.sees '.' then none
      let (minor, next) ← readVersionNumber next.skip
      some (Token.versionDirective major minor, next)
    else if name = ['T', 'A', 'G'] then do
      let (handle, next) ← readHandle true next
      match next.rest with
      | c :: _ =>
        if !isBlank c then none
        let (start, next) ← readTagText true [] (next.skipWhile isBlank)
        if isSeparated next.rest then some (Token.tagDirective handle start, next) else none
      | [] => none
    else none
  let next := next.skipWhile isBlank
  let next := if next.sees '#' then next.skipWhile (fun c => !isBreak c) else next
  if isLineEnd next.rest then some (token, next.line?.2) else none

/-! ## 4. Tokens -/

/-- A mark between documents or a directive: closes all blocks. -/
def toTopLevel (s : Scanner) : Option Scanner := do
  let s ← (s.closeBlocks (-1)).dropKey
  some { s with keyAllowed := false }

/-- An opening bracket. -/
def openFlow (s : Scanner) (token : Token) : Option Scanner := do
  let s ← s.saveKey
  some { s.pushMark 1 token with keys := none :: s.keys, keyAllowed := true }

/-- A closing bracket. -/
def closeFlow (s : Scanner) (token : Token) : Option Scanner := do
  let s ← s.dropKey
  let keys := if s.inFlow then s.keys.drop 1 else s.keys
  some { s.pushMark 1 token with keys := keys, keyAllowed := false }

/-- A dash. -/
def blockEntry (s : Scanner) : Option Scanner := do
  if !s.inFlow && !s.keyAllowed then none
  let s ← (s.openBlock s.at_.column none .blockSequence).dropKey
  some { s.pushMark 1 .blockEntry with keyAllowed := true }

/-- A question mark. -/
def explicitKey (s : Scanner) : Option Scanner := do
  if !s.inFlow && !s.keyAllowed then none
  let s ← (s.openBlock s.at_.column none .blockMapping).dropKey
  some { s.pushMark 1 .key with keyAllowed := !s.inFlow }

/-- A colon: turns the possible key of its level into a key if there is one. -/
def value (s : Scanner) : Option Scanner :=
  match s.keys with
  | some key :: rest =>
    let s := ((s.insert key.number .key).openBlock key.column (some key.number) .blockMapping)
    some { s.pushMark 1 .value with keys := none :: rest, keyAllowed := false }
  | _ =>
    if !s.inFlow && !s.keyAllowed then none
    else
      let s := s.openBlock s.at_.column none .blockMapping
      some { s.pushMark 1 .value with keyAllowed := !s.inFlow }

/-- The name behind `*` or `&`. -/
def readName (at_ : Cursor) : Option (List Char × Cursor) :=
  let name := at_.skip.rest.takeWhile isWord
  let next := at_.skip.skipMany name.length
  let ends := isSeparated next.rest ||
    next.rest.head?.any (fun c => "?:,]\x7d%@".toList.contains c || c = '\x60')
  if name = [] || !ends then none else some (name, next)

/-- A token in one piece that may be a key. -/
def pushSimple (s : Scanner) (allowed : Bool) (read : Cursor → Option (Token × Cursor)) :
    Option Scanner := do
  let s ← s.saveKey
  let (token, next) ← read s.at_
  some { (s.push token).moveTo next with keyAllowed := allowed }

/-- A plain scalar, which may leave the cursor on a new line where a key may start. -/
def plainScalar (s : Scanner) : Option Scanner := do
  let s ← s.saveKey
  let indent := (s.indent + 1).toNat
  let (text, broken, next) ← readPlain s.inFlow indent (s.at_.rest.length + 1) [] Gap.none s.at_
  some { (s.push (.scalar text .plain)).moveTo next with keyAllowed := broken }

/-- A block scalar. -/
def blockScalar (s : Scanner) (literal : Bool) : Option Scanner := do
  let s ← s.dropKey
  let (text, next) ← readBlock literal s.indent s.at_.skip
  some { (s.push (.scalar text (if literal then .literal else .folded))).moveTo next with
    keyAllowed := true }

/-- A quoted scalar. -/
def quotedScalar (s : Scanner) (single : Bool) : Option Scanner :=
  s.pushSimple false fun at_ => do
    let (text, next) ← readQuoted single (at_.rest.length + 1) [] at_.skip
    some (.scalar text (if single then .singleQuoted else .doubleQuoted), next)

/-- Whether a plain scalar may start with `c`, which `rest` follows. -/
def startsPlain (inFlow : Bool) (c : Char) (rest : List Char) : Bool :=
  !(isBlank c || isBreak c || "-?:,[]\x7b\x7d#&*!|>'\"%@".toList.contains c || c = '\x60') ||
    (c = '-' && !rest.head?.any isBlank) ||
    (!inFlow && (c = '?' || c = ':') && !isSeparated rest)

/-- The token that starts with `c`. -/
def token (s : Scanner) (c : Char) (rest : List Char) : Option Scanner :=
  if s.at_.column = 0 && c = '%' then do
    let s ← s.toTopLevel
    let (token, next) ← readDirective s.at_
    some ((s.push token).moveTo next)
  else if s.at_.seesMark '-' then do some ((← s.toTopLevel).pushMark 3 .documentStart)
  else if s.at_.seesMark '.' then do some ((← s.toTopLevel).pushMark 3 .documentEnd)
  else if c = '[' then s.openFlow .flowSequence
  else if c = '\x7b' then s.openFlow .flowMapping
  else if c = ']' then s.closeFlow .flowSequenceEnd
  else if c = '\x7d' then s.closeFlow .flowMappingEnd
  else if c = ',' then do
    let s ← s.dropKey
    some { s.pushMark 1 .flowEntry with keyAllowed := true }
  else if c = '-' && isSeparated rest then s.blockEntry
  else if c = '?' && (s.inFlow || isSeparated rest) then s.explicitKey
  else if c = ':' && (s.inFlow || isSeparated rest) then s.value
  else if c = '*' then
    s.pushSimple false fun at_ => (readName at_).map fun (name, next) => (.alias name, next)
  else if c = '&' then
    s.pushSimple false fun at_ => (readName at_).map fun (name, next) => (.anchor name, next)
  else if c = '!' then s.pushSimple false (readTag s.inFlow)
  else if c = '|' && !s.inFlow then s.blockScalar true
  else if c = '>' && !s.inFlow then s.blockScalar false
  else if c = '\'' then s.quotedScalar true
  else if c = '"' then s.quotedScalar false
  else if startsPlain s.inFlow c rest then s.plainScalar
  else none

/-- All tokens up to the end. -/
def run : (fuel : Nat) → Scanner → Option (List Token)
  | 0, _ => none
  | fuel + 1, s => do
    let s ← (s.skipToToken (s.at_.rest.length + 1)).dropStaleKeys
    let s := s.closeBlocks s.at_.column
    match s.at_.rest with
    | [] =>
      let s ← s.toTopLevel
      some s.tokens.reverse
    | c :: rest => run fuel (← s.token c rest)

end Scanner

/-- The tokens of a text. -/
def tokens? (text : List Char) : Option (List Token) :=
  if text.all isAllowed then (Scanner.start text).run (text.length + 2) else none

end RenderSync.Yaml
