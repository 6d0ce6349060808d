import RenderSync.Yaml.Token

/-!
# YAML documents

Tokens become nodes.  A node is a scalar, a sequence, a mapping, or an alias of the node that an
anchor marks.  An anchor is known from where it stands, so a node may mention itself, and a later
anchor of the same name takes its place.  It gets the number of names there were before it; the
name of one that takes the place of another was among them, so that two anchors may get the same
number, and an alias with this number is of the node that starts last.

`Document.ofText?` gives the one document of a text, `some none` for a text without any, and
nothing for a text that breaks the grammar or holds more than one document.
-/

namespace RenderSync.Yaml

/-- What a node is said to be, in octets. -/
abbrev Tag := List UInt8

/-- A part of a document. -/
inductive Node where
  | scalar (tag : Option Tag) (text : List Char) (style : Style)
  | sequence (tag : Option Tag) (items : List Node)
  | mapping (tag : Option Tag) (entries : List (Node × Node))
  /-- The node that the last anchor with this number marks. -/
  | alias (number : Nat)
deriving Repr, Inhabited

/-- An anchor: its number, how many anchors came before it, and the node that it marks. -/
structure Anchor where
  number : Nat
  place : Nat
  node : Node
deriving Repr, Inhabited

/-- A document: its root, and the anchors in it. -/
structure Document where
  root : Node
  anchors : List Anchor
deriving Repr, Inhabited

/-- The scalar that stands where nothing is written. -/
def Node.empty (tag : Option Tag) : Node := .scalar tag [] .plain

namespace Document

/-- How far the tokens have been read. -/
structure Parser where
  tokens : List Token
  handles : List (List Char × Tag)
  /-- The numbers of the latest anchors, by their names; each name once. -/
  names : List (List Char × Nat)
  /-- How many anchors there were. -/
  count : Nat
  anchors : List Anchor
deriving Inhabited

/-- What the tags that the format itself knows start with. -/
def standardStart : Tag := Utf8.ofString "tag:yaml.org,2002:"

/-- The handles that need no directive. -/
def standardHandles : List (List Char × Tag) :=
  [(['!'], Utf8.encodeChar '!'), (['!', '!'], standardStart)]

namespace Parser

/-- The next token. -/
def peek (p : Parser) : Option Token := p.tokens.head?

/-- Passes over a token. -/
def skip (p : Parser) : Parser := { p with tokens := p.tokens.drop 1 }

/-- Marks the place of an anchor. -/
def declare (p : Parser) (name : Option (List Char)) : Parser :=
  match name with
  | some name =>
    { p with
      names := (name, p.names.length) :: p.names.filter (·.1 ≠ name)
      count := p.count + 1 }
  | none => p

/-- Records the node of an anchor that was declared when the tokens had been read up to `before`. -/
def record (before : Parser) (name : Option (List Char)) (result : Node × Parser) :
    Node × Parser :=
  match name with
  | some _ =>
    let anchor : Anchor := ⟨before.names.length, before.count, result.1⟩
    (result.1, { result.2 with anchors := anchor :: result.2.anchors })
  | none => result

/-- An anchor and a tag, in either order and each at most once. -/
def properties (p : Parser) : Option (List Char) × Option (List Char × Tag) × Parser :=
  match p.tokens with
  | .anchor name :: .tag handle suffix :: rest =>
    (some name, some (handle, suffix), { p with tokens := rest })
  | .tag handle suffix :: .anchor name :: rest =>
    (some name, some (handle, suffix), { p with tokens := rest })
  | .anchor name :: rest => (some name, none, { p with tokens := rest })
  | .tag handle suffix :: rest => (none, some (handle, suffix), { p with tokens := rest })
  | _ => (none, none, p)

/-- The whole tag; `none` when its handle is unknown. -/
def resolveTag (p : Parser) : Option (List Char × Tag) → Option (Option Tag)
  | none => some none
  | some ([], suffix) => some (some suffix)
  | some (handle, suffix) => (p.handles.lookup handle).map fun start => some (start ++ suffix)

/-- Tokens before which a value in a block is left out. -/
def endsBlockValue : Option Token → Bool
  | some .key | some .value | some .blockEnd => true
  | _ => false

/-- Tokens before which an entry of a sequence is left out. -/
def endsBlockEntry : Option Token → Bool
  | some .blockEntry | some .blockEnd => true
  | _ => false

/-- Tokens before which an entry of a sequence without indentation is left out. -/
def endsFlatEntry : Option Token → Bool
  | some .blockEntry | some .key | some .value | some .blockEnd => true
  | _ => false

/-- Tokens before which a key in braces is left out. -/
def endsFlowKey : Option Token → Bool
  | some .value | some .flowEntry | some .flowMappingEnd => true
  | _ => false

/-- Tokens before which a value in braces is left out. -/
def endsFlowValue : Option Token → Bool
  | some .flowEntry | some .flowMappingEnd => true
  | _ => false

mutual

/-- A node.  `inBlock` says that blocks may start here, `flat` that a sequence may start without
indentation. -/
def node : (fuel : Nat) → (inBlock flat : Bool) → Parser → Option (Node × Parser)
  | 0, _, _, _ => none
  | fuel + 1, inBlock, flat, p =>
    match p.tokens with
    | .alias name :: rest => (p.names.lookup name).map fun number =>
        (.alias number, { p with tokens := rest })
    | _ => do
      let (name, written, p) := p.properties
      let tag ← p.resolveTag written
      let result ←
        match p.peek with
        | some .blockEntry =>
          if flat then do
            let (items, p) ← flatEntries fuel (p.declare name)
            some (.sequence tag items, p)
          else if name.isSome || tag.isSome then some (.empty tag, p.declare name)
          else none
        | some (.scalar text style) =>
          some (.scalar tag text style, (p.declare name).skip)
        | some .flowSequence => do
          let (items, p) ← flowItems fuel true (p.declare name).skip
          some (.sequence tag items, p)
        | some .flowMapping => do
          let (entries, p) ← flowEntries fuel true (p.declare name).skip
          some (.mapping tag entries, p)
        | some .blockSequence =>
          if inBlock then do
            let (items, p) ← blockItems fuel (p.declare name).skip
            some (.sequence tag items, p)
          else if name.isSome || tag.isSome then some (.empty tag, p.declare name)
          else none
        | some .blockMapping =>
          if inBlock then do
            let (entries, p) ← blockEntries fuel (p.declare name).skip
            some (.mapping tag entries, p)
          else if name.isSome || tag.isSome then some (.empty tag, p.declare name)
          else none
        | _ =>
          if name.isSome || tag.isSome then some (.empty tag, p.declare name) else none
      some (record p name result)

/-- The entries of a sequence in a block of its own. -/
def blockItems : (fuel : Nat) → Parser → Option (List Node × Parser)
  | 0, _ => none
  | fuel + 1, p =>
    match p.peek with
    | some .blockEnd => some ([], p.skip)
    | some .blockEntry => do
      let p := p.skip
      let (item, p) ←
        if endsBlockEntry p.peek then some (.empty none, p) else node fuel true false p
      let (items, p) ← blockItems fuel p
      some (item :: items, p)
    | _ => none

/-- The entries of a sequence without indentation. -/
def flatEntries : (fuel : Nat) → Parser → Option (List Node × Parser)
  | 0, _ => none
  | fuel + 1, p =>
    match p.peek with
    | some .blockEntry => do
      let p := p.skip
      let (item, p) ←
        if endsFlatEntry p.peek then some (.empty none, p) else node fuel true false p
      let (items, p) ← flatEntries fuel p
      some (item :: items, p)
    | _ => some ([], p)

/-- The entries of a mapping in a block. -/
def blockEntries : (fuel : Nat) → Parser → Option (List (Node × Node) × Parser)
  | 0, _ => none
  | fuel + 1, p =>
    match p.peek with
    | some .blockEnd => some ([], p.skip)
    | some .key => do
      let p := p.skip
      let (key, p) ←
        if endsBlockValue p.peek then some (.empty none, p) else node fuel true true p
      let (value, p) ←
        if p.peek = some .value then
          let p := p.skip
          if endsBlockValue p.peek then some (.empty none, p) else node fuel true true p
        else some (.empty none, p)
      let (entries, p) ← blockEntries fuel p
      some ((key, value) :: entries, p)
    | _ => none

/-- The items of a sequence in brackets. -/
def flowItems : (fuel : Nat) → (first : Bool) → Parser → Option (List Node × Parser)
  | 0, _, _ => none
  | fuel + 1, first, p =>
    if p.peek = some .flowSequenceEnd then some ([], p.skip)
    else do
      let p ← if first then some p else if p.peek = some .flowEntry then some p.skip else none
      match p.peek with
      | some .flowSequenceEnd => some ([], p.skip)
      | some .key =>
        let p := p.skip
        let (key, p) ←
          match p.peek with
          | some .value | some .flowEntry | some .flowSequenceEnd => some (.empty none, p.skip)
          | _ => node fuel false false p
        let (value, p) ←
          if p.peek = some .value then
            let p := p.skip
            if p.peek = some .flowEntry || p.peek = some .flowSequenceEnd then
              some (.empty none, p)
            else node fuel false false p
          else some (.empty none, p)
        let (items, p) ← flowItems fuel false p
        some (.mapping none [(key, value)] :: items, p)
      | _ =>
        let (item, p) ← node fuel false false p
        let (items, p) ← flowItems fuel false p
        some (item :: items, p)

/-- The entries of a mapping in braces. -/
def flowEntries : (fuel : Nat) → (first : Bool) → Parser →
    Option (List (Node × Node) × Parser)
  | 0, _, _ => none
  | fuel + 1, first, p =>
    if p.peek = some .flowMappingEnd then some ([], p.skip)
    else do
      let p ← if first then some p else if p.peek = some .flowEntry then some p.skip else none
      match p.peek with
      | some .flowMappingEnd => some ([], p.skip)
      | some .key =>
        let p := p.skip
        let (key, p) ←
          if endsFlowKey p.peek then some (.empty none, p) else node fuel false false p
        let (value, p) ←
          if p.peek = some .value then
            let p := p.skip
            if endsFlowValue p.peek then some (.empty none, p) else node fuel false false p
          else some (.empty none, p)
        let (entries, p) ← flowEntries fuel false p
        some ((key, value) :: entries, p)
      | _ =>
        let (key, p) ← node fuel false false p
        let (entries, p) ← flowEntries fuel false p
        some ((key, .empty none) :: entries, p)

end

/-- The directives in front of a document: at most one version, each handle at most once. -/
def directives : (fuel : Nat) → (versioned : Bool) → (handles : List (List Char × Tag)) →
    List Token → Option (List (List Char × Tag) × List Token)
  | 0, _, _, _ => none
  | fuel + 1, versioned, handles, tokens =>
    match tokens with
    | .versionDirective major minor :: rest =>
      if versioned || major ≠ 1 || (minor ≠ 1 && minor ≠ 2) then none
      else directives fuel true handles rest
    | .tagDirective handle start :: rest =>
      if (handles.lookup handle).isSome then none
      else directives fuel versioned ((handle, start) :: handles) rest
    | _ => some (handles, tokens)

/-- Tokens before which the content of a document is left out. -/
def endsDocument : Option Token → Bool
  | none | some (.versionDirective ..) | some (.tagDirective ..) | some .documentStart
  | some .documentEnd => true
  | _ => false

end Parser

/-- The only document of the tokens. -/
def ofTokens? (tokens : List Token) : Option (Option Document) := do
  let fuel := 2 * tokens.length + 2
  if tokens = [] then some none
  else
    let (handles, rest) ← Parser.directives fuel false [] tokens
    let marked := rest.head? = some .documentStart
    if rest.length < tokens.length && !marked then none
    let p : Parser := ⟨if marked then rest.drop 1 else rest, handles ++ standardHandles, [], 0, []⟩
    let (root, p) ←
      if marked && Parser.endsDocument p.peek then some (.empty none, p)
      else Parser.node fuel true false p
    if p.tokens.all (fun token => token = .documentEnd) then some (some ⟨root, p.anchors⟩)
    else none

/-- The only document of a text, `some none` for a text without one. -/
def ofText? (text : List Char) : Option (Option Document) := (tokens? text).bind ofTokens?

/-- The last anchor with a number, in the order in which the nodes start. -/
def anchor? (document : Document) (number : Nat) : Option Anchor :=
  (document.anchors.filter (·.number = number)).foldl (fun last anchor =>
    match last with
    | none => some anchor
    | some other => if other.place < anchor.place then some anchor else last) none

/-- The node behind an alias. -/
def resolve (document : Document) : Node → Node
  | .alias number => ((document.anchor? number).map Anchor.node).getD (.empty none)
  | node => node

end Document

end RenderSync.Yaml
