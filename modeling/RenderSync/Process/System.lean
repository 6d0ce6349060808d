import RenderSync.Process.Table

/-!
# A small system

The files of a system on which nothing was done yet: its programs, a device, and empty directories.
-/

namespace RenderSync.FileTree

/-- The directories of programs. -/
def programPlaces : List Place := [["bin"], ["usr", "bin"]]

/-- Directories that a system has. -/
def commonPlaces : List Place :=
  [["dev"], ["etc"], ["home"], ["lib"], ["root"], ["sbin"], ["usr"], ["usr", "lib"],
    ["usr", "local"], ["usr", "local", "bin"], ["usr", "sbin"], ["var"]]

/-- The programs of the system, in every directory of programs. -/
def programs : List (Place × Entry) :=
  programPlaces.flatMap fun place => Shell.Utility.programs.map fun name =>
    (place ++ [name], .file 0o755 (.image name))

/-- The devices of the system. -/
def devices : List (Place × Entry) :=
  [("null", .null), ("zero", .zero), ("full", .full), ("random", .random),
    ("urandom", .random)].map fun (name, device) => (["dev", name], .device 0o666 device)

/-- A system with these directories, where relative paths start in `here`. -/
def fresh (directories : List Place) (here : Place) : FileTree where
  entries :=
    devices ++ programs ++
      (commonPlaces ++ programPlaces ++ directories).map fun place => (place, .directory 0o755)
  here := here

end RenderSync.FileTree
