import RenderSync.Files.Path
import RenderSync.Text.Utf8

/-!
# File trees

A file tree maps places to files and directories.  A place is the list of names that leads to it
from the root, so that two places differ exactly when they are different files; a path is looked
up step by step and every step needs a directory to stand in.  A link on the way is replaced by the
path that it holds.

`put` and `erase` are the only ways to change an entry: `get?_put` and `get?_erase` say what the
other places see of it, which is nothing.
-/

namespace RenderSync

/-- The names that lead from the root to an entry. -/
abbrev Place := List String

/-- What is in a file: octets, or a program or library that was made elsewhere and of which nothing
matters but its name. -/
inductive Content where
  | octets (bytes : List UInt8)
  | image (name : String)
deriving DecidableEq, Repr, Inhabited

/-- The octets of a content.  Those of an image are no text. -/
def Content.bytes : Content → List UInt8
  | octets bytes => bytes
  | image name => [0x7F, 0x45, 0x4C, 0x46, 2, 1, 1, 0, 0, 0, 0, 0, 0, 0, 0, 0, 0xFF] ++
      Utf8.ofString name

/-- A file without contents of its own. -/
inductive Device where
  /-- Nothing comes out of it, and what is put in is gone. -/
  | null
  /-- Zeros without end. -/
  | zero
  /-- The same, but nothing can be put in. -/
  | full
  /-- Octets that nobody can foretell. -/
  | random
deriving DecidableEq, Repr, Inhabited

/-- What is found at a place. -/
inductive Entry where
  | file (mode : Nat) (content : Content)
  | directory (mode : Nat)
  /-- Another path stands for this one. -/
  | link (target : String)
  /-- What one process puts in another takes out. -/
  | pipe (mode : Nat)
  | device (mode : Nat) (device : Device)
deriving DecidableEq, Repr, Inhabited

/-- The permission bits of an entry. -/
def Entry.mode : Entry → Nat
  | file mode _ | directory mode | pipe mode | device mode _ => mode
  | link _ => 0o777

/-- An entry with other permission bits; a link has none of its own. -/
def Entry.withMode (mode : Nat) : Entry → Entry
  | file _ content => file mode content
  | directory _ => directory mode
  | link target => link target
  | pipe _ => pipe mode
  | device _ what => device mode what

namespace Entry

/-- The entry is a file with contents. -/
def isFile : Entry → Bool
  | file .. => true
  | _ => false

/-- The entry is a directory. -/
def isDirectory : Entry → Bool
  | directory _ => true
  | _ => false

/-- The entry is a link. -/
def isLink : Entry → Bool
  | link _ => true
  | _ => false

/-- The entry is a pipe. -/
def isPipe : Entry → Bool
  | pipe _ => true
  | _ => false

/-- The entry is a device. -/
def isDevice : Entry → Bool
  | device .. => true
  | _ => false

end Entry

/-- The moment at which the clock of the system starts, in nanoseconds from the beginning of
1970. -/
def clockStart : Int := 1750000000 * 1000000000

/-- Files and directories by place; relative paths start in `here`. -/
structure FileTree where
  entries : List (Place × Entry)
  here : Place
  /-- When contents were changed, in nanoseconds from the beginning of 1970. -/
  stamps : List (Place × Int) := []
  /-- The moment it is. -/
  clock : Int := clockStart
deriving DecidableEq, Inhabited

/-- What stays under its name when all of one name is taken away. -/
theorem lookup_filter_ne {α β : Type} [BEq α] [LawfulBEq α] (entries : List (α × β))
    (gone other : α) :
    (entries.filter (·.1 != gone)).lookup other =
      if other == gone then none else entries.lookup other := by
  induction entries with
  | nil => simp
  | cons entry rest ih =>
    by_cases hgone : entry.1 = gone
    · rw [List.filter_cons_of_neg (by simp [hgone]), ih, List.lookup_cons, hgone]
      cases other == gone <;> rfl
    · rw [List.filter_cons_of_pos (by simp [hgone]), List.lookup_cons, ih, List.lookup_cons]
      cases hother : other == entry.1 with
      | true =>
        have hstays : (other == gone) = false := by simpa [eq_of_beq hother] using hgone
        rw [hstays]
        rfl
      | false => rfl

namespace FileTree

/-! ## 1. Places -/

/-- The entry at a place. -/
def get? (tree : FileTree) (place : Place) : Option Entry := tree.entries.lookup place

/-- Puts an entry at a place, whatever was there. -/
def put (tree : FileTree) (place : Place) (entry : Entry) : FileTree :=
  { tree with entries := (place, entry) :: tree.entries.filter (·.1 != place) }

/-- Takes away the entry at a place. -/
def erase (tree : FileTree) (place : Place) : FileTree :=
  { tree with entries := tree.entries.filter (·.1 != place) }

@[simp] theorem get?_put (tree : FileTree) (place other : Place) (entry : Entry) :
    (tree.put place entry).get? other = if other = place then some entry else tree.get? other := by
  by_cases h : other = place
  · simp [get?, put, h]
  · have hb : (other == place) = false := by simp [h]
    simp [get?, put, List.lookup_cons, lookup_filter_ne, h, hb]

@[simp] theorem get?_erase (tree : FileTree) (place other : Place) :
    (tree.erase place).get? other = if other = place then none else tree.get? other := by
  simp [get?, erase, lookup_filter_ne]

/-- The directory at a place; the root is always one. -/
def isDirectoryAt (tree : FileTree) (place : Place) : Bool :=
  place = [] || match tree.get? place with
    | some (.directory _) => true
    | _ => false

/-- The names of the entries right below a place, sorted. -/
def namesBelow (tree : FileTree) (place : Place) : List String :=
  let names := tree.entries.filterMap fun entry =>
    match entry.1.getLast? with
    | some name => if entry.1.dropLast = place then some name else none
    | none => none
  names.mergeSort (fun a b => a ≤ b)

/-! ## 2. Looking up a path -/

/-- Names longer than this exist nowhere. -/
def longestName : Nat := 255

/-- Longer paths are refused, whatever they lead to. -/
def longestPath : Nat := 4095

/-- The path is too long to be used. -/
def isTooLong (path : Path) : Bool := longestPath < Utf8.size path.text.toList

/-- A link in this place leads to a path. -/
def linkAt? (tree : FileTree) (place : Place) : Option String :=
  match tree.get? place with
  | some (.link target) => some target
  | _ => none

/-- One step from a place. -/
def walk (tree : FileTree) (place : Place) (piece : String) : Option Place :=
  if !tree.isDirectoryAt place then none
  else if piece = "" || piece = "." then some place
  else if piece = ".." then some place.dropLast
  else if longestName < Utf8.size piece.toList then none
  else some (place ++ [piece])

/-- How far a path leads: to a place, or to a link with a target and steps that are left. -/
inductive Walked where
  | arrived (place : Place)
  | link (directory : Place) (target : String) (rest : List String)

/-- Steps from a place, up to a link; one at the very end counts only if `last` says so. -/
def walkOn (tree : FileTree) (last : Bool) : Place → List String → Option Walked
  | place, [] => some (.arrived place)
  | place, piece :: rest => do
    let next ← tree.walk place piece
    match if rest.isEmpty && !last then none else tree.linkAt? next with
    | some target => some (.link place target rest)
    | none => walkOn tree last next rest

/-- How many links may be passed through. -/
def mostLinks : Nat := 40

/-- Steps from a place, links passed through; `fuel` bounds these. -/
def walkThrough (tree : FileTree) (last : Bool) : (fuel : Nat) → Place → List String →
    Option Place
  | 0, _, _ => none
  | fuel + 1, place, pieces => do
    match ← tree.walkOn last place pieces with
    | .arrived place => some place
    | .link directory target rest =>
      let path : Path := ⟨target⟩
      walkThrough tree last fuel (if path.isAbsolute then [] else directory) (path.pieces ++ rest)

/-- The place that a path of any length leads to, whether or not anything is there; everything
before the last step has to be a directory.  A path without a piece leads nowhere, nor does one
with NUL.  A link at the end is passed through if `last` says so. -/
def followUpTo (tree : FileTree) (last : Bool) (path : Path) : Option Place :=
  if path.text = "" || path.text.toList.contains '\x00' then none
  else
    tree.walkThrough last (mostLinks + 1) (if path.isAbsolute then [] else tree.here) path.pieces

/-- The place that a path of any length leads to, links passed through. -/
def follow? (tree : FileTree) (path : Path) : Option Place := tree.followUpTo true path

/-- The place that a path leads to, unless the path is too long. -/
def locate? (tree : FileTree) (path : Path) : Option Place :=
  if isTooLong path then none else tree.follow? path

/-- The place that a path names, be it that of a link. -/
def locateLink? (tree : FileTree) (path : Path) : Option Place :=
  if isTooLong path then none else tree.followUpTo false path

/-- What is at a place, the root included. -/
def entryAt? (tree : FileTree) (place : Place) : Option Entry :=
  if place = [] then some (.directory 0o755) else tree.get? place

/-- The entry that a path names. -/
def find? (tree : FileTree) (path : Path) : Option Entry :=
  (tree.locate? path).bind tree.entryAt?

/-- The entry that a path names, be it a link. -/
def findLink? (tree : FileTree) (path : Path) : Option Entry :=
  (tree.locateLink? path).bind tree.entryAt?

/-- Something is there. -/
def contains (tree : FileTree) (path : Path) : Bool := (tree.find? path).isSome

/-- A directory is there. -/
def isDirectory (tree : FileTree) (path : Path) : Bool :=
  match tree.find? path with
  | some (.directory _) => true
  | _ => false

/-- What is in the file that a path names. -/
def content? (tree : FileTree) (path : Path) : Option Content :=
  match tree.find? path with
  | some (.file _ content) => some content
  | some (.device _ .null) => some (.octets [])
  | _ => none

/-- The bytes of the file that a path names. -/
def read? (tree : FileTree) (path : Path) : Option (List UInt8) :=
  (tree.content? path).map Content.bytes

/-- The names in the directory that a path names, sorted. -/
def list? (tree : FileTree) (path : Path) : Option (List String) :=
  match tree.find? path with
  | some (.directory _) => (tree.locate? path).map tree.namesBelow
  | _ => none

/-- The permission bits of what a path names. -/
def mode? (tree : FileTree) (path : Path) : Option Nat :=
  (tree.find? path).map Entry.mode

/-- The path from the root to a place. -/
def pathOf (place : Place) : Path := ⟨"/" ++ "/".intercalate place⟩

/-- The path from the root to what a path names.  It is followed step by step, so that its length
does not matter. -/
def canonical? (tree : FileTree) (path : Path) : Option Path := do
  let place ← tree.follow? path
  let _ ← tree.entryAt? place
  return pathOf place

/-! ## 3. Changing the tree

Every change answers `none` when the system refuses it, and then the tree is as before; the two
that go on after a part of their work say what has become of the tree. -/

/-- The mode of new files. -/
def newFileMode : Nat := 0o644

/-- The mode of new directories. -/
def newDirectoryMode : Nat := 0o755

/-- The contents at a place have changed at a moment. -/
def stampAt (tree : FileTree) (place : Place) (moment : Int) : FileTree :=
  { tree with stamps := (place, moment) :: tree.stamps.filter (·.1 != place) }

/-- The contents at a place have changed now. -/
def stamp (tree : FileTree) (place : Place) : FileTree := tree.stampAt place tree.clock

/-- When the contents at a place were changed; long ago if nothing is known of it. -/
def stampOf (tree : FileTree) (place : Place) : Int := (tree.stamps.lookup place).getD clockStart

/-- Writes a file whole; a new one gets the mode `mode`. -/
def writeContent (tree : FileTree) (mode : Nat) (path : Path) (content : Content) :
    Option FileTree := do
  let place ← tree.locate? path
  if place = [] then none
  else
    match tree.get? place with
    | some (.file old _) => some ((tree.put place (.file old content)).stamp place)
    | some (.device _ .null) => some tree
    | some _ => none
    | none =>
      if tree.isDirectoryAt place.dropLast then
        some ((tree.put place (.file mode content)).stamp place)
      else none

/-- Writes a file of octets whole; a new one gets the mode `mode`. -/
def writeWith (tree : FileTree) (mode : Nat) (path : Path) (bytes : List UInt8) :
    Option FileTree := tree.writeContent mode path (.octets bytes)

/-- Writes a file whole. -/
def write (tree : FileTree) (path : Path) (bytes : List UInt8) : Option FileTree :=
  tree.writeWith newFileMode path bytes

/-- Sets the permission bits of what a path names. -/
def setMode (tree : FileTree) (path : Path) (mode : Nat) : Option FileTree := do
  let place ← tree.locate? path
  let entry ← tree.find? path
  if place = [] then some tree else some (tree.put place (entry.withMode mode))

/-- Copies a file, with its permission bits; nothing but a file is copied. -/
def copy (tree : FileTree) (source target : Path) : Option FileTree := do
  match ← tree.find? source with
  | .file mode content => (← tree.writeContent mode target content).setMode target mode
  | _ => none

/-- Takes a file or a link away; a directory stays. -/
def remove (tree : FileTree) (path : Path) : Option FileTree := do
  let place ← tree.locateLink? path
  match ← tree.get? place with
  | .directory _ => none
  | _ => some (tree.erase place)

/-- The last step of a path, slashes behind it apart. -/
def lastPiece (path : Path) : String := ((path.pieces.filter (· ≠ "")).getLast?).getD ""

/-- The tree without all that is below a place. -/
def emptied (tree : FileTree) (place : Place) : FileTree :=
  { tree with
    entries := tree.entries.filter fun entry => !(place.isPrefixOf entry.1 && entry.1 != place) }

/-- Takes a directory away with all that is in it; whether that is done, and the tree then.  What is
in it goes first, and perhaps the way to it along with that, which is no fault; but one that is
called `.` or `..` stays.  Of a link nothing goes but itself. -/
def removeAll (tree : FileTree) (path : Path) : Bool × FileTree :=
  match tree.locateLink? path with
  | none => (false, tree)
  | some place =>
    if (tree.linkAt? place).isSome then (true, tree.erase place)
    else if place = [] || !tree.isDirectoryAt place then (false, tree)
    else
      let emptied := tree.emptied place
      if (emptied.locateLink? path).isNone then (true, emptied)
      else if lastPiece path = "." || lastPiece path = ".." then (false, emptied)
      else (true, emptied.erase place)

/-- The path without slashes at its end. -/
def withoutEndSlash (path : Path) : Path :=
  match path.text.toList.reverse.dropWhile (· = '/') with
  | [] => path
  | body => ⟨String.ofList body.reverse⟩

/-- Makes one directory where nothing is. -/
def makeDirectory (tree : FileTree) (path : Path) : Option FileTree := do
  let place ← tree.locateLink? (withoutEndSlash path)
  if place = [] || (tree.get? place).isSome then none
  else if tree.isDirectoryAt place.dropLast then
    some ((tree.put place (.directory newDirectoryMode)).stamp place)
  else none

/-- Makes a directory and those above it that are missing; one that is there already is fine.
Answers whether it is there then, and the tree: what was made above it stays even if it could not be
made itself.  `fuel` bounds the directories above. -/
def layDirectoriesFuel (tree : FileTree) : (fuel : Nat) → Path → Bool × FileTree
  | 0, _ => (false, tree)
  | fuel + 1, path =>
    if path.text = "" then (true, tree)
    else
      match tree.makeDirectory path with
      | some tree => (true, tree)
      | none =>
        if tree.isDirectory path then (true, tree)
        else if tree.contains path then (false, tree)
        else
          match path.parent? with
          | none => (false, tree)
          | some parent =>
            match tree.layDirectoriesFuel fuel parent with
            | (false, tree) => (false, tree)
            | (true, tree) =>
              match tree.makeDirectory path with
              | some tree => (true, tree)
              | none => (tree.isDirectory path, tree)

/-- Makes a directory and those above it that are missing; nothing for a path that is too long or
holds NUL. -/
def layDirectories (tree : FileTree) (path : Path) : Bool × FileTree :=
  if isTooLong path || path.text.toList.contains '\x00' then (false, tree)
  else tree.layDirectoriesFuel (path.components.length + 1) path

/-- The tree with a directory and those above it, if all could be made. -/
def makeDirectories (tree : FileTree) (path : Path) : Option FileTree :=
  let (made, tree) := tree.layDirectories path
  if made then some tree else none

/-- Moves a file, over another one if need be. -/
def rename (tree : FileTree) (source target : Path) : Option FileTree := do
  let origin ← tree.locateLink? source
  let place ← tree.locateLink? target
  match ← tree.get? origin with
  | .directory _ => none
  | entry =>
    if place = [] || tree.isDirectoryAt place || !tree.isDirectoryAt place.dropLast then none
    else some ((tree.erase origin).put place entry)

end FileTree

end RenderSync
