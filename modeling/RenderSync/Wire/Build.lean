import RenderSync.Json.Decode

/-!
# Builds and exports

The words that commands and events share: what is built, how much of it, and in which form a
project is exported.
-/

namespace RenderSync

/-- What a build produces. -/
inductive BuildTarget where
  | library
  | executable
deriving DecidableEq, Repr, Inhabited

/-- How much is rebuilt. -/
inductive BuildMode where
  /-- Everything. -/
  | full
  /-- What changed since the last build. -/
  | updates
deriving DecidableEq, Repr, Inhabited

/-- The form of an exported project. -/
inductive ExportOutput where
  | directory
  | sevenZip
  | zip
deriving DecidableEq, Repr, Inhabited

namespace BuildTarget

/-- The name of a target. -/
def name : BuildTarget → String
  | library => "library"
  | executable => "executable"

/-- Every target by its name. -/
def names : List (String × BuildTarget) := [("library", library), ("executable", executable)]

/-- A target as a value. -/
def toJson (target : BuildTarget) : Json := .string target.name

/-- The target that a value names. -/
def ofJson? (value : Json) : Option BuildTarget := Json.choice? names false value

/-- The target that a value inside a buffered one names. -/
def ofBuffered? (value : Json) : Option BuildTarget := Json.choice? names true value

end BuildTarget

namespace BuildMode

/-- The name of a mode. -/
def name : BuildMode → String
  | full => "full"
  | updates => "updates"

/-- Every mode by its name. -/
def names : List (String × BuildMode) := [("full", full), ("updates", updates)]

/-- A mode as a value. -/
def toJson (mode : BuildMode) : Json := .string mode.name

/-- The mode that a value inside a buffered one names. -/
def ofBuffered? (value : Json) : Option BuildMode := Json.choice? names true value

end BuildMode

namespace ExportOutput

/-- The name of a form. -/
def name : ExportOutput → String
  | directory => "directory"
  | sevenZip => "7z"
  | zip => "zip"

/-- Every form by its name. -/
def names : List (String × ExportOutput) :=
  [("directory", directory), ("7z", sevenZip), ("zip", zip)]

/-- A form as a value. -/
def toJson (output : ExportOutput) : Json := .string output.name

/-- The form that a value inside a buffered one names. -/
def ofBuffered? (value : Json) : Option ExportOutput := Json.choice? names true value

end ExportOutput

end RenderSync
