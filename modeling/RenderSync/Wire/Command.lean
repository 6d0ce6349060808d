import RenderSync.Wire.Build
import RenderSync.Json.Shape
import RenderSync.Json.Printer

/-!
# Commands

What the application asks of the build server.  A command is one JSON object whose field
`command` names it; `Command.line` is its text, tag first, which never holds a raw line break
because a string escapes every control character.
-/

namespace RenderSync

/-- A request to the build server. -/
inductive Command where
  | build (mode : BuildMode) (target : BuildTarget)
  | setBuildOnChange (executable library : Bool)
  | setProjectDirectory (path : String)
  /-- The target is passed on as given; the server decides what it names. -/
  | exportProject (directory : String) (output : ExportOutput) (target : String)
  /-- Runs the last built executable. -/
  | run
deriving DecidableEq, Repr, Inhabited

namespace Command

/-- The tag of a command. -/
def name : Command → String
  | build .. => "build"
  | setBuildOnChange .. => "set-build-on-change"
  | setProjectDirectory .. => "set-project-directory"
  | exportProject .. => "export"
  | run => "run"

/-- Every tag. -/
def names : List String :=
  ["build", "set-build-on-change", "set-project-directory", "export", "run"]

/-! ## 1. Writing -/

/-- The fields of a command besides its tag. -/
def fields : Command → List (String × Json)
  | build mode target => [("mode", mode.toJson), ("target", target.toJson)]
  | setBuildOnChange executable library =>
    [("executable", .bool executable), ("library", .bool library)]
  | setProjectDirectory path => [("path", .string path)]
  | exportProject directory output target =>
    [("directory", .string directory), ("output", output.toJson), ("target", .string target)]
  | run => []

/-- A command as a value, its tag first. -/
def toJson (command : Command) : Json :=
  .object (("command", .string command.name) :: command.fields)

/-- The text of a command. -/
def line (command : Command) : String := command.toJson.render

/-! ## 2. Reading -/

/-- The command with a tag and the value that holds its fields. -/
def ofTagged? : String × Json → Option Command
  | ("build", body) => do
    match ← Json.record? [["mode"], ["target"]] body with
    | [mode, target] =>
      return build (← Json.required BuildMode.ofBuffered? mode)
        (← Json.required BuildTarget.ofBuffered? target)
    | _ => none
  | ("set-build-on-change", body) => do
    match ← Json.record? [["executable"], ["library"]] body with
    | [executable, library] =>
      return setBuildOnChange (← Json.required Json.bool? executable)
        (← Json.required Json.bool? library)
    | _ => none
  | ("set-project-directory", body) => do
    match ← Json.record? [["path"]] body with
    | [path] => return setProjectDirectory (← Json.required Json.string? path)
    | _ => none
  | ("export", body) => do
    match ← Json.record? [["directory"], ["output"], ["target"]] body with
    | [directory, output, target] =>
      return exportProject (← Json.required Json.string? directory)
        (← Json.required ExportOutput.ofBuffered? output)
        (← Json.required Json.string? target)
    | _ => none
  | ("run", body) => do
    Json.noFields? body
    return run
  | _ => none

/-- The command that a value holds. -/
def ofJson? (value : Json) : Option Command :=
  (Json.tagged? "command" .name names value).bind ofTagged?

/-- The shape of a command's text. -/
def shape : Json.Shape := .tagged "command" names fun value => (ofJson? value).isSome

/-- The command that a text holds. -/
def ofOctets (octets : List UInt8) : Except Json.Fault Command := shape.decode ofJson? octets

end Command

end RenderSync
