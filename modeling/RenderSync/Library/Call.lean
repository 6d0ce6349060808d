import RenderSync.Files.Tree
import RenderSync.Uniforms.Value
import RenderSync.Wire.ShaderSet

/-!
# Calls of a rendering library

What a loaded library can be asked, and the frames that it draws into.
-/

namespace RenderSync

open BinaryFloat

/-- One object placed in the scene: its transform, column by column. -/
structure ObjectInstance where
  transform : List Single
deriving DecidableEq, Repr, Inhabited

/-- An object whose transform has the same entry all along its diagonal. -/
def ObjectInstance.diagonal (entry : Single) : ObjectInstance :=
  ⟨(List.range 16).map fun place => if place % 5 = 0 then entry else .zero⟩

/-- A request to a loaded library. -/
inductive LibraryCall where
  | setUp (width height : UInt32)
  | update (width height : UInt32) (preview : Bool)
  /-- `size` is the number of pixels of the frame to draw into. -/
  | render (width height : UInt32) (preview : Bool) (size : Nat)
  | viewportSetUp (width height : UInt32)
  | viewportUpdate (width height : UInt32)
  | viewportRender (width height : UInt32)
  | programs (sources : List ShaderSource)
  | uniformValues (values : List UniformValue)
  /-- Not every library knows about this. -/
  | objectInstances (instances : List ObjectInstance)
deriving DecidableEq, Repr, Inhabited

/-- Red, green, blue and opacity. -/
abbrev Pixel := Vector Single 4

/-- An image: how many pixels it has, and what each of them is. -/
structure Frame where
  size : Nat
  pixel : Nat → Pixel

namespace Frame

/-- A transparent black pixel. -/
def blank : Pixel := Vector.replicate 4 .zero

/-- A frame that nothing was drawn into. -/
def empty (width height : UInt32) : Frame := ⟨width.toNat * height.toNat, fun _ => blank⟩

/-- The first pixels. -/
def first (frame : Frame) (count : Nat) : List Pixel :=
  (List.range (min count frame.size)).map frame.pixel

end Frame

/-- Why a file could not be loaded. -/
inductive LibraryError where
  /-- The file is no library. -/
  | notLoadable
  | missingSymbol (name : String)
deriving DecidableEq, Repr, Inhabited

/-- How files become libraries, and how those answer: an instance is a value of any type. -/
structure LibraryLoader (ι : Type) where
  load : Content → Except LibraryError ι
  /-- Whether an instance knows about object instances. -/
  takesInstances : ι → Bool
  receive : LibraryCall → ι → ι
  /-- What an instance makes of a frame it was asked to render. -/
  draw : (width height : UInt32) → (preview : Bool) → ι → Frame → Frame

end RenderSync
