import RenderSync.BinaryFloat.Words

/-!
# JSON values

A number is an integer of sixty-four bits, signed or unsigned, or else a double.  The fields of an
object are a list: a value that was read whole has them sorted and each name once
(`Fields.insert`), a value under inspection may still hold a name twice, and `Fields.lookup`
refuses to answer about such a name.

`mapLeaves` changes the names of all fields and everything that holds no other value, in place.
`sorted` brings the fields of all objects into the order of their names, where the last one of a
name is kept.
-/

namespace RenderSync

/-- A number: an integer, or a double. -/
inductive Json.Number where
  | int (value : Int)
  | double (value : BinaryFloat.Double)
deriving DecidableEq, Repr, Inhabited

/-- A JSON value. -/
inductive Json where
  | null
  | bool (value : Bool)
  | number (value : Json.Number)
  | string (value : String)
  | array (items : List Json)
  | object (fields : List (String × Json))
deriving Repr, Inhabited, BEq

namespace Json

/-- What is wrong with a text that cannot be read. -/
inductive Fault where
  /-- No JSON text starts like this. -/
  | malformed
  /-- The text ends too early. -/
  | truncated
  /-- JSON, but not of the wanted shape. -/
  | mismatched
deriving DecidableEq, Repr, Inhabited

/-- An integer as a value. -/
def int (n : Int) : Json := .number (.int n)

/-- A natural number as a value. -/
def nat (n : Nat) : Json := .number (.int n)

/-- `null`, or the value of something present. -/
def ofOption {α : Type} (encode : α → Json) : Option α → Json
  | none => .null
  | some a => encode a

/-! ## Fields -/

namespace Fields

/-- Puts a field in the place its name sorts to; a field of that name gives way. -/
def insert (name : String) (value : Json) : List (String × Json) → List (String × Json)
  | [] => [(name, value)]
  | (n, v) :: rest =>
    if name = n then (name, value) :: rest
    else if name < n then (name, value) :: (n, v) :: rest
    else (n, v) :: insert name value rest

/-- The fields of an object whose entries come one after the other: sorted by name, the last
entry of a name kept. -/
def ofEntries (entries : List (String × Json)) : List (String × Json) :=
  entries.foldl (fun fields entry => insert entry.1 entry.2 fields) []

/-- The values under any of `names`, in order. -/
def valuesOf (names : List String) (fields : List (String × Json)) : List Json :=
  (fields.filter fun field => names.contains field.1).map Prod.snd

/-- The value of a field that goes by `names`: `ok none` when there is none, an error when it
is there more than once. -/
def lookup (names : List String) (fields : List (String × Json)) : Except Fault (Option Json) :=
  match valuesOf names fields with
  | [] => .ok none
  | [value] => .ok (some value)
  | _ => .error .mismatched

end Fields

/-- The first field of that name in an object. -/
def field? (name : String) : Json → Option Json
  | .object fields => fields.lookup name
  | _ => none

/-- The text of a string value. -/
def string? : Json → Option String
  | .string s => some s
  | _ => none

/-! ## Changes all over a value -/

mutual

/-- Changes the names of fields and the leaves of a value. -/
def mapLeaves (name : String → String) (leaf : Json → Json) : Json → Json
  | .array items => .array (mapItems name leaf items)
  | .object fields => .object (mapFields name leaf fields)
  | value => leaf value

/-- Changes every item. -/
def mapItems (name : String → String) (leaf : Json → Json) : List Json → List Json
  | [] => []
  | item :: rest => mapLeaves name leaf item :: mapItems name leaf rest

/-- Changes every field. -/
def mapFields (name : String → String) (leaf : Json → Json) :
    List (String × Json) → List (String × Json)
  | [] => []
  | (field, value) :: rest =>
    (name field, mapLeaves name leaf value) :: mapFields name leaf rest

end

mutual

/-- Sorts the fields of all objects. -/
def sorted : Json → Json
  | .array items => .array (sortedItems items)
  | .object fields => .object (Fields.ofEntries (sortedFields fields))
  | value => value

/-- Sorts inside every item. -/
def sortedItems : List Json → List Json
  | [] => []
  | item :: rest => sorted item :: sortedItems rest

/-- Sorts inside every field. -/
def sortedFields : List (String × Json) → List (String × Json)
  | [] => []
  | (name, value) :: rest => (name, sorted value) :: sortedFields rest

end

end Json

end RenderSync
