import RenderSync.Wire.Build
import RenderSync.Json.Shape

/-!
# Shader sets

What the build server tells about the shaders of a target: the sources of its programs, and the
variables it found in them.  A uniform variable carries annotations, which say where its value
comes from.

The kind of a variable is spread over the fields of the variable itself.  Reading it therefore
looks at all fields that the variable does not claim; a tag among them may be a name or the
place of the name in its list.
-/

namespace RenderSync

/-- One program; either stage may be missing. -/
structure ShaderSource where
  name : String
  vertex : Option String
  fragment : Option String
deriving DecidableEq, Repr, Inhabited

/-- Where the value of a uniform comes from. -/
inductive Annotation where
  /-- A control for the user, with `key=value` parameters. -/
  | control (kind : String) (parameters : Option String)
  | inverseProjection
  | inverseView
  | projection
  | resolutionHeight
  | resolutionWidth
  | time
  | view
deriving DecidableEq, Repr, Inhabited

/-- What sort of variable it is. -/
inductive VariableKind where
  | const (value : String)
  | regular
  | uniform (annotations : List Annotation)
deriving DecidableEq, Repr, Inhabited

/-- A variable of a shader. -/
structure ShaderVariable where
  kind : VariableKind
  name : String
  typeName : String
  active : Bool
  length : Option UInt64
  minifiedName : Option String
deriving DecidableEq, Repr, Inhabited

/-- The programs and variables of a target. -/
structure ShaderSet where
  target : BuildTarget
  sources : List ShaderSource
  declared : List ShaderVariable
deriving DecidableEq, Repr, Inhabited

/-- A field that is left out when there is nothing to say. -/
def Json.presentField {α : Type} (name : String) (encode : α → Json) :
    Option α → List (String × Json)
  | none => []
  | some value => [(name, encode value)]

/-! ## 1. Sources -/

namespace ShaderSource

/-- A source as a value; a missing stage is left out. -/
def toJson (source : ShaderSource) : Json :=
  .object (("name", .string source.name) :: Json.presentField "vertex" .string source.vertex ++
    Json.presentField "fragment" .string source.fragment)

/-- The source that a value holds. -/
def ofJson? (value : Json) : Option ShaderSource := do
  match ← Json.record? [["name"], ["vertex"], ["fragment"]] value with
  | [name, vertex, fragment] =>
    return ⟨← Json.required Json.string? name,
      ← Json.defaulted none (Json.optional? Json.string?) vertex,
      ← Json.defaulted none (Json.optional? Json.string?) fragment⟩
  | _ => none

/-- The shape of a source's text. -/
def shape : Json.Shape :=
  .record [(["name"], true, .string), (["vertex"], false, .optional .string),
    (["fragment"], false, .optional .string)]

end ShaderSource

/-! ## 2. Annotations -/

namespace Annotation

/-- The tag of an annotation. -/
def name : Annotation → String
  | control .. => "control"
  | inverseProjection => "inverse-projection"
  | inverseView => "inverse-view"
  | projection => "projection"
  | resolutionHeight => "resolution-height"
  | resolutionWidth => "resolution-width"
  | time => "time"
  | view => "view"

/-- Every tag, in the order that places count. -/
def names : List String :=
  ["control", "inverse-projection", "inverse-view", "projection", "resolution-height",
    "resolution-width", "time", "view"]

/-- An annotation as a value. -/
def toJson : Annotation → Json
  | control kind parameters =>
    .object [("kind", .string "control"), ("control-kind", .string kind),
      ("control-parameters", Json.ofOption .string parameters)]
  | annotation => .object [("kind", .string annotation.name)]

/-- The annotation with a tag and the value that holds its fields. -/
def ofTagged? : String × Json → Option Annotation
  | ("control", body) => do
    match ← Json.record? [["control-kind"], ["control-parameters"]] body with
    | [kind, parameters] =>
      return control (← Json.required Json.string? kind)
        (← Json.defaulted none (Json.optional? Json.string?) parameters)
    | _ => none
  | (tag, body) => do
    Json.noFields? body
    match tag with
    | "inverse-projection" => some inverseProjection
    | "inverse-view" => some inverseView
    | "projection" => some projection
    | "resolution-height" => some resolutionHeight
    | "resolution-width" => some resolutionWidth
    | "time" => some time
    | "view" => some view
    | _ => none

/-- The annotation that a value holds. -/
def ofJson? (value : Json) : Option Annotation :=
  (Json.tagged? "kind" .nameOrPlace names value).bind ofTagged?

end Annotation

/-! ## 3. Variables -/

namespace VariableKind

/-- The tag of a kind. -/
def name : VariableKind → String
  | const _ => "const"
  | regular => "regular"
  | uniform _ => "uniform"

/-- Every tag, in the order that places count. -/
def names : List String := ["const", "regular", "uniform"]

/-- The fields that a kind adds to its variable. -/
def fields : VariableKind → List (String × Json)
  | const value => [("kind", .string "const"), ("value", .string value)]
  | regular => [("kind", .string "regular")]
  | uniform annotations =>
    [("kind", .string "uniform"), ("annotations", .array (annotations.map Annotation.toJson))]

/-- The kind with a tag and the value that holds its fields. -/
def ofTagged? : String × Json → Option VariableKind
  | ("const", body) => do
    match ← Json.record? [["value"]] body with
    | [value] => return const (← Json.required Json.string? value)
    | _ => none
  | ("regular", body) => do
    Json.noFields? body
    return regular
  | ("uniform", body) => do
    match ← Json.record? [["annotations"]] body with
    | [annotations] =>
      return uniform (← Json.defaulted [] (Json.list? Annotation.ofJson?) annotations)
    | _ => none
  | _ => none

/-- The kind that a value holds. -/
def ofJson? (value : Json) : Option VariableKind :=
  (Json.tagged? "kind" .nameOrPlace names value).bind ofTagged?

end VariableKind

namespace ShaderVariable

/-- The fields that a variable claims for itself. -/
def claimed : List String := ["name", "type-name", "active", "length", "minified-name"]

/-- A variable as a value. -/
def toJson (variable_ : ShaderVariable) : Json :=
  .object (variable_.kind.fields ++
    [("name", .string variable_.name), ("type-name", .string variable_.typeName),
      ("active", .bool variable_.active)] ++
    Json.presentField "length" (fun n => Json.nat n.toNat) variable_.length ++
    Json.presentField "minified-name" .string variable_.minifiedName)

/-- The variable that an object holds; an array is none. -/
def ofJson? : Json → Option ShaderVariable
  | .object fields => do
    match ← Json.record? (claimed.map fun name => [name]) (.object fields) with
    | [name, typeName, active, length, minifiedName] =>
      return {
        kind := ← VariableKind.ofJson?
          (.object (fields.filter fun field => !claimed.contains field.1))
        name := ← Json.required Json.string? name
        typeName := ← Json.required Json.string? typeName
        active := ← Json.defaulted false Json.bool? active
        length := ← Json.defaulted none (Json.optional? Json.word64?) length
        minifiedName := ← Json.defaulted none (Json.optional? Json.string?) minifiedName }
    | _ => none
  | _ => none

/-- The shape of a variable's text. -/
def shape : Json.Shape :=
  .openRecord
    [(["name"], true, .string), (["type-name"], true, .string), (["active"], false, .bool),
      (["length"], false, .optional (.natBelow (Nat.pow 2 64))),
      (["minified-name"], false, .optional .string)]
    fun value => (ofJson? value).isSome

/-- The annotations of a uniform that is in use; `none` for every other variable. -/
def activeAnnotations? (variable_ : ShaderVariable) : Option (List Annotation) :=
  match variable_.kind with
  | .uniform annotations => if variable_.active then some annotations else none
  | _ => none

end ShaderVariable

/-! ## 4. Sets -/

namespace ShaderSet

/-- The fields of a set. -/
def fields (set : ShaderSet) : List (String × Json) :=
  [("target", set.target.toJson), ("sources", .array (set.sources.map ShaderSource.toJson)),
    ("variables", .array (set.declared.map ShaderVariable.toJson))]

/-- The set that a value holds; its sources may also be called programs. -/
def ofJson? (value : Json) : Option ShaderSet := do
  match ← Json.record? [["target"], ["sources", "programs"], ["variables"]] value with
  | [target, sources, declared] =>
    return ⟨← Json.required BuildTarget.ofJson? target,
      ← Json.required (Json.list? ShaderSource.ofJson?) sources,
      ← Json.defaulted [] (Json.list? ShaderVariable.ofJson?) declared⟩
  | _ => none

/-- The shape of a set's text. -/
def shape : Json.Shape :=
  .record
    [(["target"], true, .choice (BuildTarget.names.map Prod.fst)),
      (["sources", "programs"], true, .list ShaderSource.shape),
      (["variables"], false, .list ShaderVariable.shape)]

end ShaderSet

end RenderSync
