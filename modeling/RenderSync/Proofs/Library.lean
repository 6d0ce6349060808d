import RenderSync.Library.Basic
import RenderSync.Proofs.WorkingCopy

/-!
# Where a loaded library came from

The slot keeps no word about the file its instance was made from; what is known of that is in the
record of events.  `LibrarySlot.origin?` reads it off: the last load that succeeded.
`LibrarySlot.Holds` ties the record to the instance itself, which is what the loader made of that
content, and has received nothing but calls since.

`Library.Sound` is the invariant: an instance is in the slot exactly while the working copy is in
use, and then it came from that copy.  Loading and unloading are a user of working copies that
lets go (`LibrarySlot.use_respects`), so that every operation on a working copy keeps it, from any
files at all and whatever the loader does.

`Library.Loads` is what a successful load takes: a copy can be made, and the loader accepts what
is in it.  By `enter_loadedFrom_iff` that is also all that it comes to.
-/

namespace RenderSync

variable {ι : Type} {loader : LibraryLoader ι}

/-! ## 1. The origin of an instance -/

/-- The copy and the content of a load that succeeded. -/
def LibraryEvent.source? : LibraryEvent ι → Option (Path × Content)
  | .tried copy content (.ok _) => some (copy, content)
  | _ => none

namespace LibrarySlot

/-- The copy and the content of the last load that succeeded. -/
def origin? (slot : LibrarySlot ι) : Option (Path × Content) :=
  slot.events.reverse.findSome? LibraryEvent.source?

@[simp] theorem origin?_note (slot : LibrarySlot ι) (event : LibraryEvent ι) :
    (slot.note event).origin? = event.source?.or slot.origin? := by
  simp only [origin?, note, List.reverse_append, List.reverse_singleton, List.singleton_append,
    List.findSome?_cons]
  cases event.source? <;> rfl

/-- **The slot holds what the loader made of this content, in this copy**; since it was made the
instance has only received calls. -/
structure Holds (loader : LibraryLoader ι) (copy : Path) (content : Content)
    (slot : LibrarySlot ι) : Prop where
  origin : slot.origin? = some (copy, content)
  loaded : ∃ (fresh : ι) (calls : List LibraryCall), loader.load content = .ok fresh ∧
    slot.loaded = some (calls.foldl (fun made call => loader.receive call made) fresh)

/-- A slot and the copy in use fit: the instance came from that copy, or there is neither. -/
def Fits (loader : LibraryLoader ι) : Option Path → LibrarySlot ι → Prop
  | none, slot => slot.loaded = none
  | some copy, slot => ∃ content, slot.Holds loader copy content

/-- There is only one content that the instance came from. -/
theorem Holds.unique {copy copy' : Path} {content content' : Content} {slot : LibrarySlot ι}
    (h : slot.Holds loader copy content) (h' : slot.Holds loader copy' content') :
    content = content' := by
  have he := h.origin.symm.trans h'.origin
  simp only [Option.some.injEq, Prod.mk.injEq] at he
  exact he.2

/-- What the record and the instance do not show does not matter. -/
theorem Holds.congr {copy : Path} {content : Content} {slot slot' : LibrarySlot ι}
    (h : slot.Holds loader copy content) (hloaded : slot'.loaded = slot.loaded)
    (hevents : slot'.events = slot.events) : slot'.Holds loader copy content := by
  refine ⟨?_, ?_⟩
  · rw [← h.origin, origin?, origin?, hevents]
  · rw [hloaded]
    exact h.loaded

/-- A call leaves the instance what it came from. -/
theorem Holds.ask {copy : Path} {content : Content} {slot : LibrarySlot ι}
    (h : slot.Holds loader copy content) (call : LibraryCall) :
    (slot.ask loader call).Holds loader copy content := by
  obtain ⟨fresh, calls, hload, hloaded⟩ := h.loaded
  refine ⟨?_, fresh, calls ++ [call], hload, ?_⟩
  · simp only [LibrarySlot.ask, hloaded, origin?_note]
    exact h.origin
  · simp [LibrarySlot.ask, hloaded, note, List.foldl_append]

/-- So do object instances, which not every library takes. -/
theorem Holds.askInstances {copy : Path} {content : Content} {slot : LibrarySlot ι}
    (h : slot.Holds loader copy content) (instances : List ObjectInstance) :
    (slot.askInstances loader instances).Holds loader copy content := by
  unfold LibrarySlot.askInstances
  split
  · exact h
  · split
    · exact h.ask _
    · exact h

/-- Telling a fresh instance what is known leaves it what it came from. -/
theorem Holds.replay {copy : Path} {content : Content} {slot : LibrarySlot ι}
    (h : slot.Holds loader copy content) : (slot.replay loader).Holds loader copy content := by
  unfold LibrarySlot.replay
  cases slot.uniformValues with
  | none =>
    dsimp only
    split
    · exact h
    · exact h.askInstances _
  | some values =>
    have htold := h.ask (.uniformValues values)
    dsimp only
    split
    · exact htold
    · exact htold.askInstances _

/-- What the loader finds in a copy; one that cannot be read is empty to it. -/
def contentAt (files : FileTree) (copy : Path) : Content :=
  (files.content? copy).getD (.octets [])

/-- **A load that succeeds** puts an instance into the slot that came from what is in the copy. -/
theorem opened_eq {files : FileTree} {copy : Path} {fresh : ι} (slot : LibrarySlot ι)
    (hload : loader.load (contentAt files copy) = .ok fresh) :
    ∃ slot', slot.opened loader files copy = (true, slot') ∧
      slot'.Holds loader copy (contentAt files copy) := by
  let noted : LibrarySlot ι :=
    { slot.note (.tried copy (contentAt files copy) (.ok fresh)) with loaded := some fresh }
  have hnoted : noted.Holds loader copy (contentAt files copy) :=
    ⟨origin?_note slot _, fresh, [], hload, rfl⟩
  refine ⟨(noted.replay loader).markPending.announce, ?_, hnoted.replay.congr rfl rfl⟩
  simp only [opened]
  rw [show (files.content? copy).getD (.octets []) = contentAt files copy from rfl, hload]

/-- A load that fails is only noted. -/
theorem opened_of_error {files : FileTree} {copy : Path} {error : LibraryError}
    (slot : LibrarySlot ι) (hload : loader.load (contentAt files copy) = .error error) :
    slot.opened loader files copy =
      (false, slot.note (.tried copy (contentAt files copy) (.error error))) := by
  simp only [opened]
  rw [show (files.content? copy).getD (.octets []) = contentAt files copy from rfl, hload]

/-- An unloaded slot is empty. -/
@[simp] theorem closed_loaded (slot : LibrarySlot ι) : slot.closed.loaded = none := by
  unfold closed
  split
  · assumption
  · rfl

/-- **Loading and unloading keep the slot fitting to the copy.** -/
theorem use_respects (loader : LibraryLoader ι) : (use loader).Respects (Fits loader) where
  yields _ _ := rfl
  opened {files copy slot slot'} _ hopened := by
    replace hopened : slot.opened loader files copy = (true, slot') := hopened
    cases hload : loader.load (contentAt files copy) with
    | ok fresh =>
      obtain ⟨made, hmade, hholds⟩ := opened_eq slot hload
      rw [hmade] at hopened
      cases hopened
      exact ⟨_, hholds⟩
    | error e => rw [opened_of_error slot hload] at hopened; cases hopened
  refused {files copy slot slot'} hfits hopened := by
    replace hopened : slot.opened loader files copy = (false, slot') := hopened
    cases hload : loader.load (contentAt files copy) with
    | ok fresh =>
      obtain ⟨made, hmade, -⟩ := opened_eq slot hload
      rw [hmade] at hopened
      cases hopened
    | error e =>
      rw [opened_of_error slot hload] at hopened
      cases hopened
      exact hfits
  closed _ _ := closed_loaded _

/-- New programs leave the instance what it came from. -/
theorem Fits.setPrograms {copy : Option Path} {slot : LibrarySlot ι} (h : Fits loader copy slot)
    (programs : List ShaderSource) : Fits loader copy (slot.setPrograms programs) := by
  cases copy with
  | none => exact h
  | some copy =>
    obtain ⟨content, hholds⟩ := h
    exact ⟨content, hholds.congr rfl rfl⟩

end LibrarySlot

/-! ## 2. The library -/

namespace Library

/-- **The invariant of the library.** -/
def Sound (loader : LibraryLoader ι) (library : Library ι) : Prop :=
  library.held.Sound (LibrarySlot.Fits loader) library.slot

/-- The loaded instance came from a working copy with this content. -/
def LoadedFrom (loader : LibraryLoader ι) (content : Content) (library : Library ι) : Prop :=
  library.held.isOpen = true ∧
    ∃ copy, library.held.copy = some copy ∧ library.slot.Holds loader copy content

/-- What a load of a path takes: a working copy can be made, the loader finds this content in it,
and accepts it. -/
def Loads (loader : LibraryLoader ι) (directory : Path) (files : FileTree) (path : Path)
    (content : Content) : Prop :=
  ∃ copy copied, WorkingCopy.copySource directory path files = (some copy, copied) ∧
    LibrarySlot.contentAt copied copy = content ∧ ∃ fresh, loader.load content = .ok fresh

/-- The library and the files, as the working copy sees them. -/
def copyState (library : Library ι) (files : FileTree) : CopyState (LibrarySlot ι) :=
  ⟨library.held, files, library.slot⟩

/-- The library of a working copy and its user. -/
def ofCopyState (state : CopyState (LibrarySlot ι)) : Library ι := ⟨state.held, state.user⟩

variable {library : Library ι}

/-- Nothing was loaded yet. -/
theorem Sound.start (directory : Path) : (Library.start directory : Library ι).Sound loader :=
  WorkingCopy.Sound.start directory rfl

/-- New programs do not touch the working copy. -/
theorem Sound.setPrograms (h : library.Sound loader) (programs : List ShaderSource) :
    (library.mapSlot (LibrarySlot.setPrograms programs)).Sound loader :=
  ⟨h.copy_isSome, h.wanted, h.fits.setPrograms programs⟩

/-- An instance is there exactly while the working copy is in use. -/
theorem Sound.isLoaded_eq (h : library.Sound loader) : library.isLoaded = library.held.isOpen := by
  cases hopen : library.held.isOpen with
  | false =>
    have hfits := h.fits
    rw [WorkingCopy.Sound.copy_eq_none h hopen] at hfits
    exact Option.isSome_eq_false_iff.mpr (Option.isNone_iff_eq_none.mpr hfits)
  | true =>
    have hsome := h.copy_isSome
    rw [hopen] at hsome
    obtain ⟨copy, hcopy⟩ := Option.isSome_iff_exists.mp hsome
    have hfits := h.fits
    rw [hcopy] at hfits
    obtain ⟨content, hholds⟩ := hfits
    obtain ⟨fresh, calls, -, hloaded⟩ := hholds.loaded
    exact Option.isSome_iff_exists.mpr ⟨_, hloaded⟩

/-- The instance came from one content only. -/
theorem LoadedFrom.unique {content content' : Content} (h : library.LoadedFrom loader content)
    (h' : library.LoadedFrom loader content') : content = content' := by
  obtain ⟨-, copy, -, hholds⟩ := h
  obtain ⟨-, copy', -, hholds'⟩ := h'
  exact hholds.unique hholds'

/-- **Entering a path loads what is in its working copy**, and only that: the content that the
instance came from is the one that a load of the path finds. -/
theorem enter_loadedFrom_iff {state : CopyState (LibrarySlot ι)} {path : Path} {content : Content}
    (hopen : state.held.isOpen = false) (hcopy : state.held.copy = none)
    (hsource : state.held.source = some path) :
    (ofCopyState (state.enter (LibrarySlot.use loader)).2).LoadedFrom loader content ↔
      Loads loader state.held.directory state.files path content := by
  constructor
  · rintro ⟨hopened, made, hmade, hholds⟩
    rcases CopyState.enter_cases (LibrarySlot.use loader) hopen hcopy with
      ⟨source, copy, files, slot, hsource', hcopied, hused, he⟩ | ⟨files, slot, he, -⟩
    · rw [he] at hmade hholds
      obtain rfl : source = path := Option.some.inj (hsource'.symm.trans hsource)
      cases hload : loader.load (LibrarySlot.contentAt files copy) with
      | error e =>
        have hrefused := LibrarySlot.opened_of_error state.user hload
        exact absurd (hused.symm.trans hrefused) (by simp)
      | ok fresh =>
        obtain ⟨slot', hslot, hholds'⟩ := LibrarySlot.opened_eq state.user hload
        obtain rfl : slot = slot' := by
          have heq := hused.symm.trans hslot
          simpa using heq
        obtain rfl := hholds.unique hholds'
        exact ⟨copy, files, hcopied, rfl, fresh, hload⟩
    · rw [he] at hopened
      exact absurd (hopen.symm.trans hopened) Bool.false_ne_true
  · rintro ⟨copy, copied, hcopied, rfl, fresh, hload⟩
    obtain ⟨slot, hslot, hholds⟩ := LibrarySlot.opened_eq state.user hload
    have hused : (LibrarySlot.use loader).opened copied copy state.user = (true, slot) := hslot
    rw [CopyState.enter_eq hopen hcopy hsource hcopied hused]
    exact ⟨rfl, copy, rfl, hholds⟩

end Library

end RenderSync
