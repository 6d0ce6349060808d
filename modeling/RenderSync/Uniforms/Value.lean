import RenderSync.BinaryFloat.Words

/-!
# Values of uniforms

A value is handed to the library as a record with one view per type, and the library reads the
view that fits.  A scalar fills the views of a number, a matrix its own; the others are zero.
-/

namespace RenderSync

open BinaryFloat

/-- A matrix of four by four, row by row. -/
abbrev Matrix4 := Vector (Vector Single 4) 4

namespace Matrix4

/-- The matrix with entry `16` numbers, row by row; what is missing is zero. -/
def ofRows (entries : List Single) : Matrix4 :=
  Vector.ofFn fun row => Vector.ofFn fun column => entries.getD (4 * row.val + column.val) .zero

/-- The entries column by column. -/
def columnMajor (matrix : Matrix4) : List Single :=
  (List.finRange 4).flatMap fun column => (List.finRange 4).map fun row => matrix[row][column]

end Matrix4

/-- All views of the value of a uniform; arrays are lists of their entries. -/
structure UniformValue where
  float : Single
  int : Int
  mat2 : List Single
  mat3 : List Single
  /-- Column by column. -/
  mat4 : List Single
  word : Int
  vec2 : List Single
  vec3 : List Single
  vec4 : List Single
deriving DecidableEq, Repr, Inhabited

namespace UniformValue

/-- `count` zeros. -/
def zeros (count : Nat) : List Single := List.replicate count .zero

/-- Zero in every view. -/
def zero : UniformValue :=
  ⟨.zero, 0, zeros 4, zeros 9, zeros 16, 0, zeros 2, zeros 3, zeros 4⟩

/-- A number, also as an integer: cut off towards zero and kept within the words. -/
def scalar (value : Single) : UniformValue :=
  { zero with float := value, int := value.toInt32, word := value.toWord32 }

/-- A matrix. -/
def matrix (matrix : Matrix4) : UniformValue := { zero with mat4 := matrix.columnMajor }

/-- The views that neither a scalar nor a matrix fills are zero. -/
def othersAreZero (value : UniformValue) : Bool :=
  value.mat2 == zeros 4 && value.mat3 == zeros 9 && value.vec2 == zeros 2 &&
    value.vec3 == zeros 3 && value.vec4 == zeros 4

end UniformValue

end RenderSync
