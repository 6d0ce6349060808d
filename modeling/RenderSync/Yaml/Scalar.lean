import RenderSync.Yaml.Cursor

/-!
# Scalars in a YAML text

The five ways to write a scalar.  Inside plain and quoted scalars the blanks around a line break
vanish, one break becomes a blank and each further one a break; block scalars keep their lines,
folded ones join those that start with no blank.

Every reader takes a cursor at the first character of the scalar and returns the text and the
cursor behind it; `fuel` bounds the characters.
-/

namespace RenderSync.Yaml

/-- How a scalar is written. -/
inductive Style where
  | plain
  | singleQuoted
  | doubleQuoted
  | literal
  | folded
deriving DecidableEq, Repr, Inhabited

/-! ## 1. Blanks between the words of a scalar -/

/-- What separates two words: blanks within a line, or breaks. -/
structure Gap where
  blanks : List Char
  /-- Some break was passed. -/
  broken : Bool
  firstBreak : List Char
  laterBreaks : List Char
deriving Repr, Inhabited

namespace Gap

/-- No separation. -/
def none : Gap := ⟨[], false, [], []⟩

/-- The text that a separation counts as. -/
def text (gap : Gap) : List Char :=
  if gap.broken then
    if gap.firstBreak.head? = some '\n' then
      if gap.laterBreaks = [] then [' '] else gap.laterBreaks
    else gap.firstBreak ++ gap.laterBreaks
  else gap.blanks

/-- Passes over blanks and breaks.  A plain scalar refuses a tab that stands where its lines
should be indented: `tabColumn` is the column from which tabs are fine. -/
def read (tabColumn : Nat) : (fuel : Nat) → Gap → Cursor → Option (Gap × Cursor)
  | 0, _, _ => Option.none
  | fuel + 1, gap, at_ =>
    match at_.rest with
    | [] => some (gap, at_)
    | c :: _ =>
      if isBlank c then
        if gap.broken && at_.column < tabColumn && c = '\t' then Option.none
        else
          let gap := if gap.broken then gap else { gap with blanks := gap.blanks ++ [c] }
          read tabColumn fuel gap at_.skip
      else if isBreak c then
        let (text, next) := at_.line?
        let gap :=
          if gap.broken then { gap with laterBreaks := gap.laterBreaks ++ text }
          else ⟨[], true, text, gap.laterBreaks⟩
        read tabColumn fuel gap next
      else some (gap, at_)

end Gap

/-! ## 2. Quoted scalars -/

/-- What an escape in double quotes stands for: a character, or so many digits of one. -/
inductive Escape where
  | char (c : Char)
  | digits (count : Nat)

/-- The escape of a letter. -/
def Escape.ofChar? : Char → Option Escape
  | '0' => some (.char '\x00')
  | 'a' => some (.char '\x07')
  | 'b' => some (.char '\x08')
  | 't' | '\t' => some (.char '\t')
  | 'n' => some (.char '\n')
  | 'v' => some (.char '\x0b')
  | 'f' => some (.char '\x0c')
  | 'r' => some (.char '\r')
  | 'e' => some (.char '\x1b')
  | ' ' => some (.char ' ')
  | '"' => some (.char '"')
  | '/' => some (.char '/')
  | '\\' => some (.char '\\')
  | 'N' => some (.char '\x85')
  | '_' => some (.char '\xa0')
  | 'L' => some (.char '\u2028')
  | 'P' => some (.char '\u2029')
  | 'x' => some (.digits 2)
  | 'u' => some (.digits 4)
  | 'U' => some (.digits 8)
  | _ => none

/-- The character with a code, if there is one. -/
def charOfCode? (code : Nat) : Option Char :=
  if (0xD800 ≤ code && code ≤ 0xDFFF) || 0x10FFFF < code then none else some (Char.ofNat code)

/-- A word of a quoted scalar, from behind the opening quote or a gap.  The answer's flag says
that an escaped break ended it. -/
def readQuotedWord (single : Bool) : (fuel : Nat) → (seen : List Char) → Cursor →
    Option (List Char × Bool × Cursor)
  | 0, _, _ => none
  | fuel + 1, seen, at_ =>
    match at_.rest with
    | [] => some (seen.reverse, false, at_)
    | c :: rest =>
      if isBlank c || isBreak c then some (seen.reverse, false, at_)
      else if single then
        if c = '\'' then
          if rest.head? = some '\'' then
            readQuotedWord single fuel ('\'' :: seen) (at_.skipMany 2)
          else some (seen.reverse, false, at_)
        else readQuotedWord single fuel (c :: seen) at_.skip
      else if c = '"' then some (seen.reverse, false, at_)
      else if c = '\\' then
        match rest with
        | [] => none
        | e :: rest =>
          if isBreak e then some (seen.reverse, true, at_.skip.line?.2)
          else
            match Escape.ofChar? e with
            | none => none
            | some (.char plain) => readQuotedWord single fuel (plain :: seen) (at_.skipMany 2)
            | some (.digits count) =>
              if (rest.take count).length < count then none
              else do
                let code ← Digits.toNat? 16 (rest.take count)
                let plain ← charOfCode? code
                readQuotedWord single fuel (plain :: seen) (at_.skipMany (2 + count))
      else readQuotedWord single fuel (c :: seen) at_.skip

/-- A quoted scalar from behind its opening quote. -/
def readQuoted (single : Bool) : (fuel : Nat) → (seen : List Char) → Cursor →
    Option (List Char × Cursor)
  | 0, _, _ => none
  | fuel + 1, seen, at_ =>
    if at_.seesDocumentMark then none
    else do
      let (word, escapedBreak, next) ← readQuotedWord single (at_.rest.length + 1) [] at_
      let quote := if single then '\'' else '"'
      if next.sees quote then some (seen ++ word, next.skip)
      else if next.rest = [] then none
      else
        let gap := if escapedBreak then ⟨[], true, [], []⟩ else Gap.none
        let (gap, next) ← Gap.read 0 (next.rest.length + 1) gap next
        readQuoted single fuel (seen ++ word ++ gap.text) next

/-! ## 3. Plain scalars -/

/-- A character that ends a plain scalar inside brackets. -/
def isFlowMark (c : Char) : Bool := c = ',' || c = '[' || c = ']' || c = '{' || c = '}'

/-- A colon right before one of these cannot be told apart inside brackets. -/
def isConfusing (c : Char) : Bool := isFlowMark c || c = '?'

/-- A word of a plain scalar. -/
def readPlainWord (inFlow : Bool) : (fuel : Nat) → (seen : List Char) → Cursor →
    Option (List Char × Cursor)
  | 0, _, _ => none
  | fuel + 1, seen, at_ =>
    match at_.rest with
    | [] => some (seen.reverse, at_)
    | c :: rest =>
      if isBlank c || isBreak c then some (seen.reverse, at_)
      else if inFlow && c = ':' && rest.head?.any isConfusing then none
      else if (c = ':' && isSeparated rest) || (inFlow && isFlowMark c) then
        some (seen.reverse, at_)
      else readPlainWord inFlow fuel (c :: seen) at_.skip

/-- A plain scalar whose lines are indented by at least `indent`.  The answer's flag says that a
break was passed behind it. -/
def readPlain (inFlow : Bool) (indent : Nat) : (fuel : Nat) → (seen : List Char) → Gap → Cursor →
    Option (List Char × Bool × Cursor)
  | 0, _, _, _ => none
  | fuel + 1, seen, gap, at_ =>
    if at_.seesDocumentMark || at_.sees '#' then some (seen, gap.broken, at_)
    else do
      let (word, next) ← readPlainWord inFlow (at_.rest.length + 1) [] at_
      let (seen, gap) := if word = [] then (seen, gap) else (seen ++ gap.text ++ word, Gap.none)
      match next.rest with
      | [] => some (seen, gap.broken, next)
      | c :: _ =>
        if !(isBlank c || isBreak c) then some (seen, gap.broken, next)
        else
          let (gap, next) ← Gap.read indent (next.rest.length + 1) gap next
          if !inFlow && next.column < indent then some (seen, gap.broken, next)
          else readPlain inFlow indent fuel seen gap next

/-! ## 4. Block scalars -/

/-- What becomes of the breaks behind the last line. -/
inductive Chomping where
  | strip
  | clip
  | keep
deriving DecidableEq

/-- The header of a block scalar: chomping, and how deep its lines are indented if it says so. -/
structure BlockHeader where
  chomping : Chomping
  increment : Option Nat

/-- The header, in either order, from behind its mark. -/
def readBlockHeader (at_ : Cursor) : Option (BlockHeader × Cursor) :=
  let chomping? (at_ : Cursor) : Option (Chomping × Cursor) :=
    match at_.rest with
    | '+' :: _ => some (.keep, at_.skip)
    | '-' :: _ => some (.strip, at_.skip)
    | _ => none
  let digit? (at_ : Cursor) : Option (Nat × Cursor) :=
    match at_.rest with
    | c :: _ => if Digits.isDecimal c then some (c.toNat - 48, at_.skip) else none
    | [] => none
  match chomping? at_ with
  | some (chomping, next) =>
    match digit? next with
    | some (0, _) => none
    | some (n, next) => some (⟨chomping, some n⟩, next)
    | none => some (⟨chomping, none⟩, next)
  | none =>
    match digit? at_ with
    | some (0, _) => none
    | some (n, next) =>
      match chomping? next with
      | some (chomping, next) => some (⟨chomping, some n⟩, next)
      | none => some (⟨.clip, some n⟩, next)
    | none => some (⟨.clip, none⟩, at_)

/-- Passes over the indentation of the next line and over empty lines before it.  `indent` is
zero as long as it is not known; `deepest` is the deepest line so far.  The answer holds the
breaks passed and the deepest line. -/
def readBlockBreaks (indent : Nat) : (fuel : Nat) → (deepest : Nat) → (breaks : List Char) →
    Cursor → Option (Nat × List Char × Cursor)
  | 0, _, _, _ => none
  | fuel + 1, deepest, breaks, at_ =>
    let room := if indent = 0 then at_.rest.length else indent - at_.column
    let next := at_.skipMany ((at_.rest.takeWhile (· = ' ')).take room).length
    let deepest := max deepest next.column
    if (indent = 0 || next.column < indent) && next.sees '\t' then none
    else
      match next.rest with
      | c :: _ =>
        if isBreak c then
          let (text, next) := next.line?
          readBlockBreaks indent fuel deepest (breaks ++ text) next
        else some (deepest, breaks, next)
      | [] => some (deepest, breaks, next)

/-- The lines of a block scalar.  `lead` is the break before the line, `breaks` the empty lines
since, `blankLead` whether the line before started with a blank. -/
def readBlockLines (literal : Bool) (indent : Nat) : (fuel : Nat) → (seen : List Char) →
    (lead breaks : List Char) → (blankLead : Bool) → Cursor →
    Option (List Char × List Char × List Char × Cursor)
  | 0, _, _, _, _, _ => none
  | fuel + 1, seen, lead, breaks, blankLead, at_ =>
    match at_.rest with
    | [] => some (seen, lead, breaks, at_)
    | c :: _ =>
      if at_.column ≠ indent then some (seen, lead, breaks, at_)
      else
        let blank := isBlank c
        let joint :=
          if !literal && lead.head? = some '\n' && !blankLead && !blank then
            if breaks = [] then [' '] else breaks
          else lead ++ breaks
        let line := at_.rest.takeWhile (fun c => !isBreak c)
        let (lead, next) := (at_.skipMany line.length).line?
        do
          let (_, breaks, next) ← readBlockBreaks indent (next.rest.length + 1) 0 [] next
          readBlockLines literal indent fuel (seen ++ joint ++ line) lead breaks blank next

/-- A block scalar from behind its mark, inside a block indented by `outer` (`-1` outside all). -/
def readBlock (literal : Bool) (outer : Int) (at_ : Cursor) : Option (List Char × Cursor) := do
  let (header, next) ← readBlockHeader at_
  let next := next.skipWhile isBlank
  let next := if next.sees '#' then next.skipWhile (fun c => !isBreak c) else next
  if !isLineEnd next.rest then none
  else
    let next := next.line?.2
    let known := match header.increment with
      | some n => if 0 ≤ outer then outer.toNat + n else n
      | none => 0
    let (deepest, breaks, next) ← readBlockBreaks known (next.rest.length + 1) 0 [] next
    let indent := if known = 0 then max (max deepest (outer + 1).toNat) 1 else known
    let (text, lead, breaks, next) ←
      readBlockLines literal indent (next.rest.length + 1) [] [] breaks false next
    match header.chomping with
    | .strip => some (text, next)
    | .clip => some (text ++ lead, next)
    | .keep => some (text ++ lead ++ breaks, next)

end RenderSync.Yaml
