import RenderSync.Files.Tree
import RenderSync.Settings.Basic
import RenderSync.Wire.Command

/-!
# Bootstrap

What the server is told right after connecting, and which executable serves when the host brings
its own.
-/

namespace RenderSync

/-- What the server is told right after connecting. -/
structure Bootstrap where
  projectDirectory : Path
  buildExecutableOnChange : Bool
deriving DecidableEq, Repr, Inhabited

namespace Bootstrap

/-- What settings say. -/
def ofSettings (settings : Settings) : Bootstrap :=
  ⟨settings.project.directory, settings.project.buildExecutableOnChange⟩

/-- What the server is told, as a value. -/
def toJson (bootstrap : Bootstrap) : Json :=
  .object [("directory", .string bootstrap.projectDirectory.text),
    ("executable", .bool bootstrap.buildExecutableOnChange)]

/-- A project directory as the server gets it: the path from the root if it exists here, or else
as it was written. -/
def directoryArgument (files : FileTree) (directory : Path) : String :=
  ((files.canonical? directory).getD directory).text

/-- The builds to ask for: the library, and the executable if everything is built or if it is
rebuilt on change. -/
def builds (bootstrap : Bootstrap) (mode : BuildMode) : List Command :=
  .build mode .library ::
    if mode = .full || bootstrap.buildExecutableOnChange then [.build mode .executable] else []

/-- The announcement of what is rebuilt on change. -/
def onChange (bootstrap : Bootstrap) : Command :=
  .setBuildOnChange bootstrap.buildExecutableOnChange true

/-- The announcement of the project directory. -/
def directory (bootstrap : Bootstrap) (files : FileTree) : Command :=
  .setProjectDirectory (directoryArgument files bootstrap.projectDirectory)

/-- Everything the server is told right after connecting. -/
def commands (bootstrap : Bootstrap) (files : FileTree) : List Command :=
  [bootstrap.onChange, bootstrap.directory files] ++ bootstrap.builds .full

end Bootstrap

/-- Where executables are looked for. -/
structure Surroundings where
  /-- The directory of the running executable. -/
  executableDirectory : Path
  /-- The directories searched for commands, in order. -/
  searchPath : List Path
  temporary : Path
  home : Option Path
deriving Inhabited

namespace Surroundings

/-- The name of the executable that belongs to the host. -/
def cliName : String := "shiba-cli"

/-- A file that may be run. -/
def isExecutable (files : FileTree) (path : Path) : Bool :=
  match files.find? path with
  | some (.file mode _) => mode &&& 0o111 ≠ 0
  | _ => false

/-- The executable that belongs to the host: an explicit one first, then the one beside the
running executable, then the first on the search path, and at last the bare name. -/
def bundledCli (surroundings : Surroundings) (files : FileTree) (explicit : Option Path) : Path :=
  match explicit with
  | some path => path
  | none =>
    let beside := surroundings.executableDirectory.join ⟨cliName⟩
    if files.contains beside then beside
    else
      let candidates := surroundings.searchPath.map (·.join ⟨cliName⟩)
      (candidates.find? (isExecutable files)).getD ⟨cliName⟩

end Surroundings

end RenderSync
