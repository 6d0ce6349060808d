import RenderSync.Files.Tree

/-!
# Trouble with paths

Why a path leads to nothing: `FileTree.trouble` follows it as far as something is there and looks at
the first step that fails.
-/

namespace RenderSync

/-- Why nothing can be done with a path. -/
inductive PathTrouble where
  | missing
  /-- Something on the way is no directory. -/
  | notDirectory
  | isDirectory
  | tooLong
  /-- Links lead round in a circle. -/
  | circle
  /-- A directory that was to be empty is not. -/
  | notEmpty
  | exists_
deriving DecidableEq, Repr, Inhabited

namespace PathTrouble

/-- The trouble as the system words it. -/
def message : PathTrouble → String
  | missing => "No such file or directory"
  | notDirectory => "Not a directory"
  | isDirectory => "Is a directory"
  | tooLong => "File name too long"
  | circle => "Too many levels of symbolic links"
  | notEmpty => "Directory not empty"
  | exists_ => "File exists"

end PathTrouble

namespace FileTree

/-- The path of the first pieces of a path. -/
def pathUpTo (path : Path) (count : Nat) : Path :=
  let text := "/".intercalate (path.pieces.take count)
  ⟨if path.isAbsolute then "/" ++ text else if text = "" then "." else text⟩

/-- Why a path leads to nothing. -/
def trouble (tree : FileTree) (path : Path) : PathTrouble :=
  if isTooLong path then .tooLong
  else
    let count := (List.range path.pieces.length).find? fun n =>
      !tree.contains (pathUpTo path (n + 1))
    match count with
    | none => .missing
    | some n =>
      let piece := (path.pieces[n]?).getD ""
      if !tree.isDirectory (pathUpTo path n) then .notDirectory
      else if longestName < Utf8.size piece.toList then .tooLong
      else
        let isLink := (tree.findLink? (pathUpTo path (n + 1))).any Entry.isLink
        if isLink && (tree.follow? (pathUpTo path (n + 1))).isNone then .circle else .missing

end FileTree

end RenderSync
