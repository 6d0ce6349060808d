import RenderSync.Yaml.Node
import RenderSync.BinaryFloat.Basic

/-!
# What scalars stand for

The texts that plain scalars use for null, truth values, integers and real numbers, and typed
access to the nodes of a document.  A number with zeros in front is a text, as is one that no
finite double comes near.
-/

namespace RenderSync.Yaml

/-! ## 1. Texts -/

/-- The texts for null. -/
def isNull (text : List Char) : Bool :=
  ["null", "Null", "NULL", "~"].any fun name => name.toList = text

/-- The texts for truth values. -/
def bool? (text : List Char) : Option Bool :=
  if ["true", "True", "TRUE"].any (fun name => name.toList = text) then some true
  else if ["false", "False", "FALSE"].any (fun name => name.toList = text) then some false
  else none

/-- A sign. -/
def isSign (c : Char) : Bool := c = '+' || c = '-'

/-- Decimal digits with a zero in front that could be left out, perhaps behind a sign. -/
def hasSpareZero (text : List Char) : Bool :=
  let digits := match text with
    | c :: rest => if isSign c then rest else text
    | [] => []
  match digits with
  | '0' :: c :: rest => (c :: rest).all Digits.isDecimal
  | _ => false

/-- The digits and base of a number with a mark for its base. -/
def based? : List Char → Option (Nat × List Char)
  | '0' :: 'x' :: rest => some (16, rest)
  | '0' :: 'o' :: rest => some (8, rest)
  | '0' :: 'b' :: rest => some (2, rest)
  | _ => none

/-- An integer that is not negative, below `bound`. -/
def natBelow? (bound : Nat) (text : List Char) : Option Nat :=
  let unsigned := match text with
    | '+' :: rest => rest
    | _ => text
  let inBase := (based? unsigned).bind fun (base, digits) => Digits.toNat? base digits
  match inBase with
  | some n => if n < bound then some n else none
  | none =>
    if hasSpareZero text then none
    else (Digits.toNat? 10 unsigned).bind fun n => if n < bound then some n else none

/-- Whether a text is a negative integer, at least `-bound`. -/
def isNegativeInteger (bound : Nat) (text : List Char) : Bool :=
  match text with
  | '-' :: rest =>
    let inBase := (based? rest).bind fun (base, digits) => Digits.toNat? base digits
    match inBase with
    | some n => n ≤ bound
    | none => !hasSpareZero text && (Digits.toNat? 10 rest).any (· ≤ bound)
  | _ => false

/-- Digits around an optional point, at least one of them, and an optional exponent; the
coefficient and the power of ten. -/
def decimal? (text : List Char) : Option (Nat × Int) :=
  let (whole, rest) := text.span Digits.isDecimal
  let (fraction, rest) := match rest with
    | '.' :: more => more.span Digits.isDecimal
    | _ => ([], rest)
  if whole = [] && fraction = [] then none
  else
    let coefficient := Digits.toNat (whole ++ fraction)
    match rest with
    | [] => some (coefficient, -fraction.length)
    | c :: more =>
      if c ≠ 'e' && c ≠ 'E' then none
      else
        let (negative, digits) := match more with
          | '+' :: digits => (false, digits)
          | '-' :: digits => (true, digits)
          | _ => (false, more)
        (Digits.toNat? 10 digits).map fun n =>
          (coefficient, (if negative then -(n : Int) else n) - fraction.length)

/-- Whether a text is a real number: a decimal of finite size, an infinity, or not a number. -/
def isReal (text : List Char) : Bool :=
  let special := ["inf", "Inf", "INF"].map String.toList
  match text with
  | '+' :: '.' :: rest => special.contains rest || isFiniteDecimal ('.' :: rest)
  | '-' :: '.' :: rest => special.contains rest || isFiniteDecimal ('.' :: rest)
  | '.' :: rest =>
    special.contains rest || (["nan", "NaN", "NAN"].map String.toList).contains rest ||
      isFiniteDecimal text
  | '+' :: rest | '-' :: rest => isFiniteDecimal rest
  | _ => isFiniteDecimal text
where
  /-- A decimal that a finite double comes near. -/
  isFiniteDecimal (text : List Char) : Bool :=
    match decimal? text with
    | some (coefficient, exponent) =>
      BinaryFloat.double.isFinite (BinaryFloat.double.ofDecimal coefficient exponent)
    | none => false

/-! ## 2. Nodes -/

/-- One of the tags that the format itself knows. -/
def standardTag (name : String) : Tag := Document.standardStart ++ Utf8.ofString name

/-- Whether a scalar may stand for something other than a text: a plain one, or a literal one
with the tag of what it stands for. -/
def isTyped (expected : String) (tag : Option Tag) (style : Style) : Bool :=
  style = .plain || (style = .literal && tag = some (standardTag expected))

/-- The name that a tag of one's own gives, if it is a text. -/
def ownName? : Option Tag → Option String
  | some (0x21 :: name) => Utf8.toString? name
  | _ => none

namespace Document

/-- The text of a scalar, however it is written. -/
def text? (document : Document) (node : Node) : Option String :=
  match document.resolve node with
  | .scalar _ text _ => some (String.ofList text)
  | _ => none

/-- A truth value. -/
def bool? (document : Document) (node : Node) : Option Bool :=
  match document.resolve node with
  | .scalar tag text style => if isTyped "bool" tag style then Yaml.bool? text else none
  | _ => none

/-- An integer that is not negative, below `bound`. -/
def natBelow? (document : Document) (bound : Nat) (node : Node) : Option Nat :=
  match document.resolve node with
  | .scalar tag text style =>
    if isTyped "int" tag style then
      (Yaml.natBelow? (Nat.pow 2 64) text).bind fun n => if n < bound then some n else none
    else none
  | _ => none

/-- Nothing, written as a plain null or not at all; or what `decode` accepts. -/
def optional? {α : Type} (document : Document) (decode : Node → Option α) (node : Node) :
    Option (Option α) :=
  match document.resolve node with
  | .scalar tag text .plain =>
    match tag with
    | some tag =>
      if tag = standardTag "null" then if isNull text then some none else none
      else (decode node).map some
    | none => if text = [] || isNull text then some none else (decode node).map some
  | _ => (decode node).map some

/-- One of the names: as a text, or as a tag with nothing behind it. -/
def choice? {α : Type} (document : Document) (names : List (String × α)) (node : Node) :
    Option α :=
  match document.resolve node with
  | .scalar tag text style =>
    match ownName? tag with
    | some name =>
      if style = .plain && (text = [] || isNull text) then names.lookup name else none
    | none => names.lookup (String.ofList text)
  | _ => none

/-- The fields of a mapping by name; a field of `names` stands there at most once, the others do
not matter, and a mapping may be left empty altogether.  Keys have to be scalars. -/
def fields? (document : Document) (names : List String) (node : Node) :
    Option (List (Option Node)) :=
  match document.resolve node with
  | .scalar _ [] .plain => some (names.map fun _ => none)
  | .mapping _ entries => do
    let named ← entries.mapM fun entry => (document.text? entry.1).map fun name => (name, entry.2)
    names.mapM fun name =>
      match named.filter (·.1 = name) with
      | [] => some none
      | [(_, value)] => some (some value)
      | _ => none
  | _ => none

end Document

end RenderSync.Yaml
