import RenderSync.Files.Tree

/-!
# Files for other uses

Writing a file along with the directories above it, and reading one by lines.
-/

namespace RenderSync.FileTree

/-- Makes the directories above a path; without them, nothing is done. -/
def withParents (tree : FileTree) (path : Path) : FileTree :=
  (path.parent?.bind tree.makeDirectories).getD tree

/-- Writes a file, and makes the directories above it. -/
def writeDeep (tree : FileTree) (path : Path) (bytes : List UInt8) : Option FileTree :=
  (tree.withParents path).write path bytes

/-- Writes a file of a mode, and makes the directories above it. -/
def install (tree : FileTree) (mode : Nat) (path : Path) (bytes : List UInt8) : Option FileTree :=
  (tree.writeDeep path bytes).bind fun tree => tree.setMode path mode

/-- The text of a file, read leniently. -/
def text? (tree : FileTree) (path : Path) : Option String :=
  (tree.read? path).map Utf8.toStringLossy

/-- The lines of a text; an end of line at the very end begins no other line, and one may have a
carriage return in front of it. -/
def splitLines (text : String) : List String :=
  let pieces := text.splitOn "\n"
  let whole := pieces.dropLast.map fun line =>
    if line.toList.getLast? = some '\r' then String.ofList line.toList.dropLast else line
  if pieces.getLast? = some "" then whole else whole ++ pieces.getLast?.toList

/-- The lines of a file; none if there is no file. -/
def linesOf (tree : FileTree) (path : Path) : List String :=
  ((tree.text? path).map splitLines).getD []

end RenderSync.FileTree
