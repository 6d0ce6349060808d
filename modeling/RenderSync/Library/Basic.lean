import RenderSync.Library.Slot
import RenderSync.State

/-!
# The hot-swappable library

The library is used from a working copy, so that it can be rebuilt while it is loaded.  A new path
swaps it at once if it is meant to be loaded.
-/

namespace RenderSync

/-- The working copy of the library and the slot it is loaded into. -/
structure Library (ι : Type) where
  held : WorkingCopy
  slot : LibrarySlot ι

namespace Library

variable {ι : Type}

/-- Nothing loaded; copies are made in `directory`. -/
def start (directory : Path) : Library ι := ⟨.start directory, .empty⟩

/-- Does something to the working copy. -/
def within (operation : CopyState (LibrarySlot ι) → Bool × CopyState (LibrarySlot ι))
    (library : Library ι) (files : FileTree) : Bool × Library ι × FileTree :=
  let (done, state) := operation ⟨library.held, files, library.slot⟩
  (done, ⟨state.held, state.user⟩, state.files)

/-- Points to another file. -/
def setPath (loader : LibraryLoader ι) (path : Option Path) :
    Library ι → FileTree → Bool × Library ι × FileTree :=
  within (CopyState.setSource (LibrarySlot.use loader) path)

/-- Loads the library. -/
def load (loader : LibraryLoader ι) : Library ι → FileTree → Bool × Library ι × FileTree :=
  within (CopyState.openCopy (LibrarySlot.use loader))

/-- Unloads the library. -/
def unload (loader : LibraryLoader ι) : Library ι → FileTree → Bool × Library ι × FileTree :=
  within (CopyState.closeCopy (LibrarySlot.use loader))

/-- Whether an instance is there. -/
def isLoaded (library : Library ι) : Bool := library.slot.loaded.isSome

/-- What is in effect. -/
def current (library : Library ι) : LibraryCurrent := ⟨library.held.isOpen, library.held.source⟩

/-- Does something to the slot. -/
def mapSlot (change : LibrarySlot ι → LibrarySlot ι) (library : Library ι) : Library ι :=
  { library with slot := change library.slot }

end Library

end RenderSync
