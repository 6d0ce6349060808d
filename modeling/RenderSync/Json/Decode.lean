import RenderSync.Json.Basic

/-!
# From JSON values to data

Decoders are partial functions from values.  A record is an object with named fields, unknown
ones ignored, or an array with the fields in their order, where those at the end may be missing;
a choice is one of a few names.
-/

namespace RenderSync.Json

/-! ## 1. Leaves -/

/-- The truth value of a boolean. -/
def bool? : Json → Option Bool
  | .bool b => some b
  | _ => none

/-- A natural number below `bound`; doubles do not count, even whole ones. -/
def natBelow? (bound : Nat) : Json → Option Nat
  | .number (.int (.ofNat n)) => if n < bound then some n else none
  | _ => none

/-- A word of sixteen bits. -/
def word16? (value : Json) : Option UInt16 := (natBelow? (Nat.pow 2 16) value).map Nat.toUInt16

/-- A word of sixty-four bits. -/
def word64? (value : Json) : Option UInt64 := (natBelow? (Nat.pow 2 64) value).map Nat.toUInt64

/-- Any number, as a double. -/
def double? : Json → Option BinaryFloat.Double
  | .number (.int n) => some (.ofInt n)
  | .number (.double d) => some d
  | _ => none

/-- A double as a value; what is not finite has no place in JSON. -/
def ofDouble (d : BinaryFloat.Double) : Json :=
  if d.isFinite then .number (.double d) else .null

/-- `null`, or what `decode` accepts. -/
def optional? {α : Type} (decode : Json → Option α) : Json → Option (Option α)
  | .null => some none
  | value => (decode value).map some

/-- An array whose items `decode` accepts. -/
def list? {α : Type} (decode : Json → Option α) : Json → Option (List α)
  | .array items => items.mapM decode
  | _ => none

/-! ## 2. Choices -/

/-- What may stand behind the name of a choice when it is written as an object. -/
def isUnit (buffered : Bool) : Json → Bool
  | .null => true
  | .object [] => buffered
  | _ => false

/-- One of the names, as a string or as the only field of an object that says nothing more.
Inside a value that was buffered to find its tag, `{}` counts as nothing, too. -/
def choice? {α : Type} (names : List (String × α)) (buffered : Bool) : Json → Option α
  | .string s => names.lookup s
  | .object [(name, value)] => if isUnit buffered value then names.lookup name else none
  | _ => none

/-! ## 3. Records -/

/-- The fields of a record, each by its names, `none` for one that is missing. -/
def record? (names : List (List String)) : Json → Option (List (Option Json))
  | .object fields => names.mapM fun aliases => (Fields.lookup aliases fields).toOption
  | .array items =>
    if items.length ≤ names.length then
      some (items.map some ++ List.replicate (names.length - items.length) none)
    else none
  | _ => none

/-- A field that has to be there. -/
def required {α : Type} (decode : Json → Option α) (value : Option Json) : Option α :=
  value.bind decode

/-- A field that may be missing, but if it is there has to fit. -/
def defaulted {α : Type} (default : α) (decode : Json → Option α) : Option Json → Option α
  | none => some default
  | some value => decode value

/-! ## 4. Tagged choices -/

/-- How the tag of a tagged choice may be written. -/
inductive TagStyle where
  /-- By name only. -/
  | name
  /-- By name, or by its place in the list of choices. -/
  | nameOrPlace
deriving DecidableEq

/-- The choice that a tag names. -/
def tag? (style : TagStyle) (names : List String) : Json → Option String
  | .string s => if names.contains s then some s else none
  | .number (.int (.ofNat n)) => if style = .nameOrPlace then names[n]? else none
  | _ => none

/-- A tagged choice: its tag, and the value that holds the fields of that choice. -/
def tagged? (field : String) (style : TagStyle) (names : List String) :
    Json → Option (String × Json)
  | .object fields =>
    match Fields.lookup [field] fields with
    | .ok (some value) => (tag? style names value).map fun tag =>
        (tag, .object (fields.filter fun entry => entry.1 != field))
    | _ => none
  | .array (first :: rest) => (tag? style names first).map fun tag => (tag, .array rest)
  | _ => none

/-- The fields of a choice that has none: any object, or no item. -/
def noFields? : Json → Option Unit
  | .object _ => some ()
  | .array [] => some ()
  | _ => none

end RenderSync.Json
