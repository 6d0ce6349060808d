import RenderSync.Json.Decode
import RenderSync.Uniforms.Basic

/-!
# Uniforms as JSON values

A single is written as its pattern, so that no digit is lost, and read from a pattern or from any
number.  A matrix is read row by row.  What comes from nowhere is left open.
-/

namespace RenderSync

/-! ## 1. Numbers and matrices -/

namespace BinaryFloat.Single

/-- A single as a value; all that is not a number looks the same. -/
def toJson (s : Single) : Json := if s.isNaN then .string "nan" else Json.nat s.pattern

/-- The single in a value. -/
def ofJson? (value : Json) : Option Single :=
  match value.field? "bits" with
  | some (.number (.int n)) => some (.ofPattern n.toNat)
  | _ => (Json.double? value).map Double.toSingle

/-- Singles as a value. -/
def listToJson (singles : List Single) : Json := .array (singles.map toJson)

end BinaryFloat.Single

open BinaryFloat

/-- The matrix in a value. -/
def Matrix4.ofJson? : Json → Option Matrix4
  | .array items => some (.ofRows (items.filterMap Single.ofJson?))
  | _ => none

/-! ## 2. Values and descriptors -/

/-- The value of a uniform as a value: a matrix that is all zero is left out. -/
def UniformValue.toJson (value : UniformValue) : Json :=
  .object [("float", value.float.toJson), ("int", Json.int value.int),
    ("uint", Json.int value.word),
    ("mat4", if value.mat4.all (·.pattern == 0) then .null else Single.listToJson value.mat4),
    ("others_zero", .bool value.othersAreZero)]

/-- A source as a value. -/
def UniformSource.toJson (source : UniformSource) : Json :=
  let named (kind : String) (fields : List (String × Json)) :=
    Json.object (("kind", .string kind) :: fields)
  match source with
  | .checkbox default => named "checkbox" [("default", .bool default)]
  | .slider default low high =>
    named "slider"
      [("default", default.toJson), ("min", low.toJson), ("max", high.toJson)]
  | .object => named "Object" []
  | .inverseProjection => named "InverseProjection" []
  | .inverseView => named "InverseView" []
  | .projection => named "Projection" []
  | .view => named "View" []
  | .resolutionWidth => named "ResolutionWidth" []
  | .resolutionHeight => named "ResolutionHeight" []
  | .time => named "Time" []

/-- A descriptor as a value, with the control that the user sees. -/
def UniformDescriptor.toJson (descriptor : UniformDescriptor) : Json :=
  .object [("name", .string descriptor.name), ("type", .string descriptor.typeName),
    ("annotations", .array (descriptor.sources.map UniformSource.toJson)),
    ("control", Json.ofOption UniformSource.toJson descriptor.control?)]

/-- All descriptors as a value. -/
def Uniforms.toJson (uniforms : Uniforms) : Json :=
  .array (uniforms.descriptors.map UniformDescriptor.toJson)

/-! ## 3. Frames and controls -/

/-- A part of a value that is there and fits. -/
def partOf? {α : Type} (decode : Json → Option α) (name : String) (value : Json) : Option α :=
  (value.field? name).bind decode

/-- The frame that a value describes. -/
def FrameContext.ofJson (value : Json) : FrameContext where
  inverseProjection := partOf? Matrix4.ofJson? "inverse_projection" value
  inverseView := partOf? Matrix4.ofJson? "inverse_view" value
  projection := partOf? Matrix4.ofJson? "projection" value
  view := partOf? Matrix4.ofJson? "view" value
  resolutionWidth := partOf? Single.ofJson? "resolution_width" value
  resolutionHeight := partOf? Single.ofJson? "resolution_height" value
  time := partOf? Single.ofJson? "time" value

/-- The controls that a value describes: those of each kind by the name of their uniform. -/
def Controls.ofJson (value : Json) : Controls where
  checkbox name := (value.field? "checkboxes").bind (partOf? Json.bool? name)
  slider name := (value.field? "sliders").bind (partOf? Single.ofJson? name)
  object name := (value.field? "objects").bind (partOf? Matrix4.ofJson? name)

end RenderSync
