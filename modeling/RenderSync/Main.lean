import RenderSync.CommandLine.Service
import RenderSync.Files.Upkeep
import RenderSync.Text.Calendar
import Std.Time.DateTime.Timestamp

/-!
# Command line

Reads the settings that an invocation may need into a tree of files, lets the invocation happen
there, and carries what changed over to the disk.  This layer opens no socket and runs no library:
connections find the network isolated, and no file is a library.
-/

namespace RenderSync.CommandLine

/-- A loader that takes no file. -/
def noLoader : LibraryLoader Empty where
  load _ := .error .notLoadable
  takesInstances _ := false
  receive _ loaded := loaded
  draw _ _ _ _ frame := frame

/-- The moment it is. -/
def currentMoment : IO Moment := do
  return (← Std.Time.Timestamp.now).toNanosecondsSinceUnixEpoch.val.toNat

/-- A moment as it is printed. -/
def momentToJson (moment : Option Moment) : Json :=
  Json.ofOption (fun moment => .string (Calendar.momentText moment)) moment

/-- Takes a file or directory of the disk into a tree, with the directories above it. -/
def adopt (tree : FileTree) (path : Path) : IO FileTree := do
  let place := (← IO.currentDir) / path.text
  if ← place.isDir then return (tree.makeDirectories path).getD tree
  if !(← place.pathExists) then return tree
  let bytes ← IO.FS.readBinFile place
  return (tree.install Settings.fileMode path bytes.toList).getD tree

/-- The parts of the disk that matter. -/
def adoptAll (here : String) (paths : List Path) : IO FileTree := do
  let root : FileTree := { entries := [], here := [] }
  let tree := (root.makeDirectories ⟨here⟩).getD root
  paths.foldlM adopt { tree with here := (tree.locate? ⟨here⟩).getD [] }

/-- The rights that permission bits give to one of three. -/
def rights (bits : Nat) : IO.AccessRight := ⟨bits &&& 4 ≠ 0, bits &&& 2 ≠ 0, bits &&& 1 ≠ 0⟩

/-- Carries an entry over to the disk. -/
def store (entry : Place × Entry) : IO Unit := do
  let text := (FileTree.pathOf entry.1).text
  let setMode (mode : Nat) : IO Unit :=
    IO.setAccessRights text ⟨rights (mode >>> 6), rights (mode >>> 3), rights mode⟩
  match entry.2 with
  | .directory mode =>
    IO.FS.createDirAll text
    setMode mode
  | .file mode content =>
    IO.FS.writeBinFile text content.bytes.toByteArray
    setMode mode
  | _ => return

/-- Carries what changed over to the disk, directories before what is in them. -/
def storeChanges (before after : FileTree) : IO Unit := do
  let changed := after.entries.filter fun entry => !before.entries.contains entry
  let ordered := changed.mergeSort fun a b => a.1.length ≤ b.1.length
  ordered.forM store

/-- Goes on with a run until the process is ended from outside. -/
partial def goOn (file : Path) (service : Service Empty) (text : Option (List UInt8)) :
    IO Unit := do
  IO.sleep (service.retry / (second / 1000)).toUInt32
  let now ← currentMoment
  let tree ← adopt (service.engine.resources.world.files) file
  let changed := tree.read? file
  let service := { service with engine.resources.world.files := tree }
  let service := if changed = text then service else service.fileChanged noLoader now
  goOn file (service.tick noLoader now) changed

/-- Does what arguments say. -/
def act (arguments : List String) : IO UInt32 := do
  let here := (← IO.currentDir).toString
  let home := (← IO.getEnv "HOME").map Path.mk
  let surroundings : Surroundings :=
    { executableDirectory := ((Path.mk (← IO.appPath).toString).parent?).getD ⟨"/"⟩
      searchPath := (((← IO.getEnv "PATH").getD "").splitOn ":").map Path.mk
      temporary := ⟨((← IO.getEnv "TMPDIR").getD "/tmp")⟩
      home }
  let chosen := match parse arguments with
    | .ok (.run options) => options.settings.toList
    | _ => []
  let usual := home.toList.flatMap fun home =>
    [home, Settings.rootIn home, Settings.fileIn home]
  let files ← adoptAll here (usual ++ chosen)
  let world : World := ⟨files, .start, .isolated, surroundings⟩
  let now ← currentMoment
  match start noLoader now momentToJson arguments world with
  | .ended outcome =>
    storeChanges files outcome.world.files
    IO.print outcome.output
    IO.eprint outcome.errors
    return outcome.code.toUInt32
  | .going service =>
    storeChanges files service.files
    goOn service.file service (service.files.read? service.file)
    return 0

end RenderSync.CommandLine

/-- The command line. -/
def main (arguments : List String) : IO UInt32 := RenderSync.CommandLine.act arguments
