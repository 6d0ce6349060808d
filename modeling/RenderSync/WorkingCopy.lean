import RenderSync.Files.Tree

/-!
# Working copies

A file that is in use cannot be overwritten everywhere, so it is never used itself: a working copy
`locked.<name>` is made in a private directory, put to use, and removed when it is given up.  The
source may be rebuilt meanwhile.

`isWanted` is what was last asked for, `isOpen` what came of it; a new path or a reload acts only
where use is wanted.  Whatever fails leaves no copy in use.

What using a copy means is up to the `CopyUse`: operations on a state of any type, which see the
files but do not change them.
-/

namespace RenderSync

/-- Putting a copy to use and giving it up. -/
structure CopyUse (ρ : Type) where
  opened : FileTree → Path → ρ → Bool × ρ
  closed : FileTree → ρ → Bool × ρ

/-- A source and the copy of it that is in use. -/
structure WorkingCopy where
  /-- Where copies are made. -/
  directory : Path
  source : Option Path
  /-- The copy, while there is one. -/
  copy : Option Path
  isWanted : Bool
  isOpen : Bool
deriving DecidableEq, Repr, Inhabited

/-- A working copy among the files, with the state of its user. -/
structure CopyState (ρ : Type) where
  held : WorkingCopy
  files : FileTree
  user : ρ
deriving Inhabited

namespace WorkingCopy

/-! ## 1. Names and places -/

/-- What the name of a copy starts with. -/
def nameStart : String := "locked."

/-- The name of the copy of a source, if the source has a name. -/
def nameFor? (source : Path) : Option String := source.fileName?.map (nameStart ++ ·)

/-- The directory for copies below the directory for temporary files. -/
def directoryIn (temporary : Path) : Path := temporary.join ⟨"shiba"⟩

/-- No source, no copy. -/
def start (directory : Path) : WorkingCopy := ⟨directory, none, none, false, false⟩

/-- Makes the directory for copies, if it is missing, and those above it.  Answers whether it is
there then; what was made above it stays even if it is not. -/
def ensureDirectory (directory : Path) (files : FileTree) : Bool × FileTree :=
  if files.contains directory then (true, files) else files.layDirectories directory

/-- Copies a source into the directory; answers where the copy is.  The directory, or some of those
above it, may have been made even if copying failed. -/
def copySource (directory source : Path) (files : FileTree) : Option Path × FileTree :=
  if !files.contains source then (none, files)
  else
    match nameFor? source with
    | none => (none, files)
    | some name =>
      match ensureDirectory directory files with
      | (false, files) => (none, files)
      | (true, files) =>
        let copy := directory.join ⟨name⟩
        match files.copy source copy with
        | none => (none, files)
        | some files => (some copy, files)

end WorkingCopy

namespace CopyState

variable {ρ : Type}

/-! ## 2. Steps -/

/-- Removes the copy; a file that resists stays behind, but it is not the copy any more. -/
def discard (state : CopyState ρ) : CopyState ρ :=
  match state.held.copy with
  | none => state
  | some copy =>
    { state with
      held := { state.held with copy := none }
      files := (state.files.remove copy).getD state.files }

/-- The copy, made now unless there is one. -/
def obtain (source : Path) (state : CopyState ρ) : Option Path × CopyState ρ :=
  match state.held.copy with
  | some copy => (some copy, state)
  | none =>
    let (copy, files) := WorkingCopy.copySource state.held.directory source state.files
    (copy, { state with held := { state.held with copy := copy }, files := files })

/-- Puts a copy of the source to use. -/
def enter (use : CopyUse ρ) (state : CopyState ρ) : Bool × CopyState ρ :=
  if state.held.isOpen then (true, state)
  else
    match state.held.source with
    | none => (false, state)
    | some source =>
      match state.obtain source with
      | (none, state) => (false, state)
      | (some copy, state) =>
        match use.opened state.files copy state.user with
        | (true, user) =>
          (true, { state with held := { state.held with isOpen := true }, user := user })
        | (false, user) => (false, { state with user := user }.discard)

/-- Gives the copy up. -/
def leave (use : CopyUse ρ) (state : CopyState ρ) : Bool × CopyState ρ :=
  if state.held.copy.isNone then (true, state)
  else if !state.held.isOpen then (true, state.discard)
  else
    match use.closed state.files state.user with
    | (true, user) =>
      (true, { state with held := { state.held with isOpen := false }, user := user }.discard)
    | (false, user) => (false, { state with user := user })

/-! ## 3. Operations -/

/-- Says whether use is wanted. -/
def want (wanted : Bool) (state : CopyState ρ) : CopyState ρ :=
  { state with held := { state.held with isWanted := wanted } }

/-- Asks for use. -/
def openCopy (use : CopyUse ρ) (state : CopyState ρ) : Bool × CopyState ρ :=
  (state.want true).enter use

/-- Asks for an end of use. -/
def closeCopy (use : CopyUse ρ) (state : CopyState ρ) : Bool × CopyState ρ :=
  (state.want false).leave use

/-- Swaps to a fresh copy where use is wanted. -/
def reload (use : CopyUse ρ) (state : CopyState ρ) : Bool × CopyState ρ :=
  if !state.held.isWanted then (true, state)
  else
    match state.leave use with
    | (false, state) => (false, state)
    | (true, state) => state.enter use

/-- Takes another source, and swaps to it where use is wanted. -/
def setSource (use : CopyUse ρ) (source : Option Path) (state : CopyState ρ) :
    Bool × CopyState ρ :=
  { state with held := { state.held with source := source } }.reload use

end CopyState

end RenderSync
