import RenderSync.Uniforms.Value
import RenderSync.BinaryFloat.Text
import RenderSync.Wire.ControlParameters
import RenderSync.Wire.ShaderSet

/-!
# Uniforms

The active uniforms of the last shader set, in order, and their values.  The first annotation of
a uniform that is known here says where its value comes from: a control that the user may have
moved, or a property of the frame.  A uniform without one is zero.

Values are handed on by place, so there is one per descriptor, in the same order.
-/

namespace RenderSync

open BinaryFloat

/-- Where the value of a uniform comes from. -/
inductive UniformSource where
  | checkbox (default : Bool)
  | slider (default min max : Single)
  | object
  | inverseProjection
  | inverseView
  | projection
  | view
  | resolutionWidth
  | resolutionHeight
  | time
deriving DecidableEq, Repr, Inhabited

/-- An active uniform. -/
structure UniformDescriptor where
  name : String
  typeName : String
  sources : List UniformSource
deriving DecidableEq, Repr, Inhabited

/-- What is known of the frame. -/
structure FrameContext where
  inverseProjection : Option Matrix4
  inverseView : Option Matrix4
  projection : Option Matrix4
  view : Option Matrix4
  resolutionWidth : Option Single
  resolutionHeight : Option Single
  time : Option Single
deriving Inhabited

/-- What the user did to the controls, by the name of the uniform; `none` where nothing. -/
structure Controls where
  checkbox : String → Option Bool
  slider : String → Option Single
  object : String → Option Matrix4

/-- Nobody touched a control. -/
def Controls.untouched : Controls := ⟨fun _ => none, fun _ => none, fun _ => none⟩

namespace UniformSource

/-! ## 1. From annotations -/

/-- The bounds of a slider that says nothing: `3.402823e38` on either side of zero. -/
def sliderBound (negative : Bool) : Single :=
  .ofPattern (single.signed negative (single.ofDecimal 3402823 32))

/-- A parameter that is a number. -/
def number (parameters : ControlParameters) (key : String) (fallback : Single) : Single :=
  ((parameters.value? key).bind Single.ofText?).getD fallback

/-- The control of a kind. -/
def ofControl? (kind : String) (parameters : ControlParameters) : Option UniformSource :=
  match kind with
  | "checkbox" => some (checkbox (parameters.value? "default" == some "checked"))
  | "slider" =>
    some (slider (number parameters "default" .zero) (number parameters "min" (sliderBound true))
      (number parameters "max" (sliderBound false)))
  | "object" => some object
  | _ => none

/-- The source that an annotation names, unless its kind of control is not known here. -/
def ofAnnotation? : Annotation → Option UniformSource
  | .control kind parameters => ofControl? kind ((parameters.map ControlParameters.parse).getD [])
  | .inverseProjection => some inverseProjection
  | .inverseView => some inverseView
  | .projection => some projection
  | .view => some view
  | .resolutionWidth => some resolutionWidth
  | .resolutionHeight => some resolutionHeight
  | .time => some time

/-- The user decides. -/
def isControl : UniformSource → Bool
  | checkbox _ | slider .. | object => true
  | _ => false

/-! ## 2. Values -/

/-- A number, or zero when it is not known. -/
def scalarOf (value : Option Single) : UniformValue := (value.map UniformValue.scalar).getD .zero

/-- A matrix, or zero when it is not known. -/
def matrixOf (value : Option Matrix4) : UniformValue := (value.map UniformValue.matrix).getD .zero

/-- A number kept within bounds; bounds that are out of order do not count. -/
def clamped (value low high : Single) : Single :=
  if low.le high then value.clamp low high else value

/-- The value that a source gives to the uniform of a name. -/
def value (name : String) (context : FrameContext) (controls : Controls) :
    UniformSource → UniformValue
  | checkbox default =>
    .scalar (.ofNat (if (controls.checkbox name).getD default then 1 else 0))
  | slider default low high => .scalar (clamped ((controls.slider name).getD default) low high)
  | object => matrixOf (controls.object name)
  | inverseProjection => matrixOf context.inverseProjection
  | inverseView => matrixOf context.inverseView
  | projection => matrixOf context.projection
  | view => matrixOf context.view
  | resolutionWidth => scalarOf context.resolutionWidth
  | resolutionHeight => scalarOf context.resolutionHeight
  | time => scalarOf context.time

end UniformSource

namespace UniformDescriptor

/-- The descriptor of a variable that is an active uniform. -/
def ofVariable? (variable_ : ShaderVariable) : Option UniformDescriptor :=
  variable_.activeAnnotations?.map fun annotations =>
    ⟨variable_.name, variable_.typeName, annotations.filterMap UniformSource.ofAnnotation?⟩

/-- The first control among the sources. -/
def control? (descriptor : UniformDescriptor) : Option UniformSource :=
  descriptor.sources.find? UniformSource.isControl

/-- The value from the first source; zero without one. -/
def value (descriptor : UniformDescriptor) (context : FrameContext) (controls : Controls) :
    UniformValue :=
  match descriptor.sources with
  | [] => .zero
  | source :: _ => source.value descriptor.name context controls

end UniformDescriptor

/-- The active uniforms, and how often they were replaced. -/
structure Uniforms where
  descriptors : List UniformDescriptor
  changes : Nat
deriving Inhabited

namespace Uniforms

/-- No uniform yet. -/
def none : Uniforms := ⟨[], 0⟩

/-- Replaces the descriptors by those of the active uniforms among `declared`. -/
def apply (declared : List ShaderVariable) (uniforms : Uniforms) : Uniforms :=
  ⟨declared.filterMap UniformDescriptor.ofVariable?, uniforms.changes + 1⟩

/-- One value per descriptor, in order. -/
def values (uniforms : Uniforms) (context : FrameContext) (controls : Controls) :
    List UniformValue :=
  uniforms.descriptors.map fun descriptor => descriptor.value context controls

end Uniforms

end RenderSync
