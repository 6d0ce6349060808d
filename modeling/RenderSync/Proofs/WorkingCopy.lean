import RenderSync.WorkingCopy

/-!
# Working copies whose user lets go

`CopyState` has four flags and a user, and most of their combinations never come up as long as the
user does not refuse to let a copy go.  The slot of the library and the process of a session are
users of that kind, and everything else about them that matters here has one form: it relates the
user to the copy that is in use, or to `none` while none is (`fits`).

* `CopyUse.Respects` says what opening and closing have to do to such a relation;
* `WorkingCopy.Sound` is the invariant that follows: a copy is held exactly while it is in use, it
  is in use only where that is wanted, and the user fits;
* `leave_eq`, `enter_cases` and `enter_eq` compute the two steps, and from these every operation
  keeps the invariant (`Sound.openCopy`, `Sound.closeCopy`, `Sound.setSource`).

When the two steps succeed can be said of all users (`enter_iff`, `leave_iff`).

A user may remember more than the copies need, such as what was done with them; `CopyUse.Forgets`
says that this makes no difference.

The wish `isWanted` is deliberately not tied to `isOpen` in the other direction: an opening that
failed leaves a wish behind, and that is what the later operations have to reckon with.
-/

namespace RenderSync

variable {ρ : Type}

/-- Opening and closing keep the user fitting to the copy that is in use, and closing never
fails. -/
structure CopyUse.Respects (use : CopyUse ρ) (fits : Option Path → ρ → Prop) : Prop where
  yields : ∀ files user, (use.closed files user).1 = true
  opened : ∀ {files copy user user'}, fits none user →
    use.opened files copy user = (true, user') → fits (some copy) user'
  refused : ∀ {files copy user user'}, fits none user →
    use.opened files copy user = (false, user') → fits none user'
  closed : ∀ {copy user} (files), fits (some copy) user → fits none (use.closed files user).2

/-- **The invariant of a working copy and its user.** -/
structure WorkingCopy.Sound (fits : Option Path → ρ → Prop) (held : WorkingCopy) (user : ρ) :
    Prop where
  copy_isSome : held.copy.isSome = held.isOpen
  wanted : held.isOpen = true → held.isWanted = true
  fits : fits held.copy user

namespace WorkingCopy

variable {fits : Option Path → ρ → Prop} {held : WorkingCopy} {user : ρ}

/-- Where a copy is held exactly while it is in use, there is none while nothing is. -/
theorem copy_eq_none (hcopy : held.copy.isSome = held.isOpen) (hopen : held.isOpen = false) :
    held.copy = none := by
  rw [hopen] at hcopy
  exact Option.isNone_iff_eq_none.mp (Option.isSome_eq_false_iff.mp hcopy)

theorem Sound.copy_eq_none (h : held.Sound fits user) (hopen : held.isOpen = false) :
    held.copy = none := WorkingCopy.copy_eq_none h.copy_isSome hopen

/-- What is not wanted is not in use. -/
theorem Sound.isOpen_eq_false (h : held.Sound fits user) (hwanted : held.isWanted = false) :
    held.isOpen = false := by
  cases hopen : held.isOpen with
  | false => rfl
  | true => exact absurd (hwanted.symm.trans (h.wanted hopen)) Bool.false_ne_true

/-- Nothing was asked for yet. -/
theorem Sound.start (directory : Path) (h : fits none user) :
    (WorkingCopy.start directory).Sound fits user :=
  ⟨rfl, fun hopen => absurd hopen Bool.false_ne_true, h⟩

/-- The invariant does not speak of the source. -/
theorem Sound.withSource (h : held.Sound fits user) (source : Option Path) :
    { held with source := source }.Sound fits user :=
  ⟨h.copy_isSome, h.wanted, h.fits⟩

end WorkingCopy

namespace CopyState

variable {use : CopyUse ρ} {fits : Option Path → ρ → Prop} {state : CopyState ρ}

/-! ## 1. Leaving -/

/-- Only the copy and the files matter for what the files are without the copy. -/
theorem discard_files_congr {other : CopyState ρ} (hcopy : state.held.copy = other.held.copy)
    (hfiles : state.files = other.files) : state.discard.files = other.discard.files := by
  unfold discard
  rw [hcopy]
  split
  · exact hfiles
  · simp only [hfiles]

/-- Without a copy there is nothing to give up. -/
theorem leave_of_no_copy (hcopy : state.held.copy = none) : state.leave use = (true, state) := by
  simp [leave, hcopy]

/-- A copy that its user does not let go stays in use. -/
theorem leave_of_refused {copy : Path} {user : ρ} (hcopy : state.held.copy = some copy)
    (hopen : state.held.isOpen = true)
    (hclosed : use.closed state.files state.user = (false, user)) :
    state.leave use = (false, { state with user := user }) := by
  simp [leave, hcopy, hopen, hclosed]

/-- A copy that its user lets go is removed. -/
theorem leave_of_released {copy : Path} {user : ρ} {files : FileTree}
    (hcopy : state.held.copy = some copy) (hopen : state.held.isOpen = true)
    (hclosed : use.closed state.files state.user = (true, user))
    (hremoved : state.files.remove copy = some files) :
    state.leave use =
      (true, ⟨{ state.held with copy := none, isOpen := false }, files, user⟩) := by
  simp [leave, discard, hcopy, hopen, hclosed, hremoved]

/-- The state once the copy is given up. -/
def left (use : CopyUse ρ) (state : CopyState ρ) : CopyState ρ where
  held := { state.held with copy := none, isOpen := false }
  files := state.discard.files
  user := if state.held.isOpen then (use.closed state.files state.user).2 else state.user

/-- **Leaving gives the copy up and never fails**, where the user lets go. -/
theorem leave_eq (hyield : ∀ files user, (use.closed files user).1 = true)
    (hcopy : state.held.copy.isSome = state.held.isOpen) :
    state.leave use = (true, state.left use) := by
  obtain ⟨⟨directory, source, copy, wanted, isOpen⟩, files, user⟩ := state
  cases copy with
  | none =>
    obtain rfl : false = isOpen := hcopy
    rfl
  | some copy =>
    obtain rfl : true = isOpen := hcopy
    have hdone := hyield files user
    rcases hclosed : use.closed files user with ⟨done, user'⟩
    obtain rfl : done = true := by rw [hclosed] at hdone; exact hdone
    simp [leave, left, discard, hclosed]

/-- Where nothing is in use there is nothing to give up. -/
theorem left_of_closed (hopen : state.held.isOpen = false) (hcopy : state.held.copy = none) :
    state.left use = state := by
  obtain ⟨⟨directory, source, _, wanted, _⟩, files, user⟩ := state
  obtain rfl := hopen
  obtain rfl := hcopy
  rfl

/-- Nothing happens to a copy that is in use already. -/
theorem enter_of_isOpen (hopen : state.held.isOpen = true) :
    state.enter use = (true, state) := by
  simp [enter, hopen]

/-- Without a source nothing can be put to use. -/
theorem enter_of_no_source (hopen : state.held.isOpen = false)
    (hsource : state.held.source = none) : state.enter use = (false, state) := by
  simp [enter, hopen, hsource]

/-- Nothing is put to use if no copy can be made. -/
theorem enter_of_not_made {source : Path} {files : FileTree} (hopen : state.held.isOpen = false)
    (hcopy : state.held.copy = none) (hsource : state.held.source = some source)
    (hmade : WorkingCopy.copySource state.held.directory source state.files = (none, files)) :
    state.enter use = (false, { state with files := files }) := by
  obtain ⟨⟨directory, _, _, wanted, _⟩, before, user⟩ := state
  obtain rfl := hopen
  obtain rfl := hcopy
  obtain rfl := hsource
  simp [enter, obtain, hmade]

/-- A copy that its user does not take is removed again; a file that resists stays behind. -/
theorem enter_of_refused {source copy : Path} {files : FileTree} {user : ρ}
    (hopen : state.held.isOpen = false) (hcopy : state.held.copy = none)
    (hsource : state.held.source = some source)
    (hmade : WorkingCopy.copySource state.held.directory source state.files = (some copy, files))
    (hused : use.opened files copy state.user = (false, user)) :
    state.enter use = (false, ⟨state.held, (files.remove copy).getD files, user⟩) := by
  obtain ⟨⟨directory, _, _, wanted, _⟩, before, user⟩ := state
  obtain rfl := hopen
  obtain rfl := hcopy
  obtain rfl := hsource
  simp [enter, obtain, discard, hmade, hused]

/-- **Entering succeeds** where a copy can be made and its user takes it. -/
theorem enter_eq {source copy : Path} {files : FileTree} {user : ρ}
    (hopen : state.held.isOpen = false) (hcopy : state.held.copy = none)
    (hsource : state.held.source = some source)
    (hmade : WorkingCopy.copySource state.held.directory source state.files = (some copy, files))
    (hused : use.opened files copy state.user = (true, user)) :
    state.enter use = (true, ⟨{ state.held with copy := some copy, isOpen := true }, files, user⟩)
    := by
  simp [enter, obtain, hopen, hcopy, hsource, hmade, hused]

/-- **What entering can come to**, where nothing is in use: a copy was made and taken, or all is
as before but for the files and the user. -/
theorem enter_cases (use : CopyUse ρ) (hopen : state.held.isOpen = false)
    (hcopy : state.held.copy = none) :
    (∃ source copy files user, state.held.source = some source ∧
      WorkingCopy.copySource state.held.directory source state.files = (some copy, files) ∧
      use.opened files copy state.user = (true, user) ∧
      state.enter use =
        (true, ⟨{ state.held with copy := some copy, isOpen := true }, files, user⟩)) ∨
    ∃ files user, state.enter use = (false, ⟨state.held, files, user⟩) ∧
      (user = state.user ∨ ∃ tried copy, use.opened tried copy state.user = (false, user)) := by
  cases hsource : state.held.source with
  | none => exact Or.inr ⟨_, _, enter_of_no_source hopen hsource, Or.inl rfl⟩
  | some source =>
    rcases hmade : WorkingCopy.copySource state.held.directory source state.files with
      ⟨_ | copy, made⟩
    · exact Or.inr ⟨made, state.user, enter_of_not_made hopen hcopy hsource hmade, Or.inl rfl⟩
    · rcases hused : use.opened made copy state.user with ⟨_ | _, user'⟩
      · exact Or.inr ⟨_, user', enter_of_refused hopen hcopy hsource hmade hused,
          Or.inr ⟨made, copy, hused⟩⟩
      · exact Or.inl ⟨source, copy, made, user', rfl, hmade, hused,
          enter_eq hopen hcopy hsource hmade hused⟩

/-- What is in use after entering is what entering answers. -/
theorem enter_isOpen (use : CopyUse ρ) (h : state.held.copy.isSome = state.held.isOpen) :
    (state.enter use).2.held.isOpen = (state.enter use).1 := by
  cases hopen : state.held.isOpen with
  | true => rw [enter_of_isOpen hopen]; exact hopen
  | false =>
    have hcopy := WorkingCopy.copy_eq_none h hopen
    rcases enter_cases use hopen hcopy with ⟨_, _, _, _, _, _, _, he⟩ | ⟨_, _, he, _⟩
    · rw [he]
    · rw [he]; exact hopen

/-- A copy of the source can be made, and its user takes it. -/
def CanEnter (use : CopyUse ρ) (state : CopyState ρ) : Prop :=
  ∃ source copy files, state.held.source = some source ∧
    WorkingCopy.copySource state.held.directory source state.files = (some copy, files) ∧
    (use.opened files copy state.user).1 = true

/-- Entering leaves the directory, the source and the wish alone. -/
theorem enter_keeps (use : CopyUse ρ) (h : state.held.copy.isSome = state.held.isOpen) :
    (state.enter use).2.held.directory = state.held.directory ∧
      (state.enter use).2.held.source = state.held.source ∧
      (state.enter use).2.held.isWanted = state.held.isWanted := by
  cases hopen : state.held.isOpen with
  | true => rw [enter_of_isOpen hopen]; exact ⟨rfl, rfl, rfl⟩
  | false =>
    have hcopy := WorkingCopy.copy_eq_none h hopen
    rcases enter_cases use hopen hcopy with ⟨_, _, _, _, _, _, _, he⟩ | ⟨_, _, he, _⟩
    · rw [he]; exact ⟨rfl, rfl, rfl⟩
    · rw [he]; exact ⟨rfl, rfl, rfl⟩

/-! ## 3. Operations -/

@[simp] theorem want_held (state : CopyState ρ) (wanted : Bool) :
    (state.want wanted).held = { state.held with isWanted := wanted } := rfl

/-- A copy that is in use stays in use when that is asked for. -/
theorem openCopy_of_isOpen (hopen : state.held.isOpen = true) :
    state.openCopy use = (true, state.want true) := by
  have hwanted : (state.want true).held.isOpen = true := hopen
  exact enter_of_isOpen hwanted

/-- The state with another source. -/
def pointed (source : Option Path) (state : CopyState ρ) : CopyState ρ :=
  { state with held := { state.held with source := source } }

/-- Nothing is swapped where use is not wanted. -/
theorem reload_of_not_wanted (hwanted : state.held.isWanted = false) :
    state.reload use = (true, state) := by
  simp [reload, hwanted]

/-- A copy that stays in use is not swapped. -/
theorem reload_of_kept {kept : CopyState ρ} (hwanted : state.held.isWanted = true)
    (hleave : state.leave use = (false, kept)) : state.reload use = (false, kept) := by
  simp [reload, hwanted, hleave]

/-- What is left is entered again. -/
theorem reload_of_left {left : CopyState ρ} (hwanted : state.held.isWanted = true)
    (hleave : state.leave use = (true, left)) : state.reload use = left.enter use := by
  simp [reload, hwanted, hleave]

/-- A new source where use is not wanted is only taken down. -/
theorem setSource_of_not_wanted (state : CopyState ρ) (source : Option Path)
    (hwanted : state.held.isWanted = false) :
    state.setSource use source = (true, state.pointed source) := by
  simp [setSource, reload, pointed, hwanted]

/-- **A new source where use is wanted**: the old copy goes for good and the new one is entered,
whatever comes of that. -/
theorem setSource_of_wanted (state : CopyState ρ) (source : Option Path)
    (hwanted : state.held.isWanted = true)
    (hyield : ∀ files user, (use.closed files user).1 = true)
    (hcopy : state.held.copy.isSome = state.held.isOpen) :
    state.setSource use source = ((state.pointed source).left use).enter use := by
  have hleave : (state.pointed source).leave use = (true, (state.pointed source).left use) :=
    leave_eq hyield hcopy
  have hw : (state.pointed source).held.isWanted = true := hwanted
  exact reload_of_left hw hleave

/-- **Closing always succeeds** and takes the wish back. -/
theorem closeCopy_eq (state : CopyState ρ) (hyield : ∀ files user, (use.closed files user).1 = true)
    (hcopy : state.held.copy.isSome = state.held.isOpen) :
    state.closeCopy use = (true, (state.want false).left use) := by
  have hcopies : (state.want false).held.copy.isSome = (state.want false).held.isOpen := hcopy
  exact leave_eq hyield hcopies

end CopyState

/-! ## 4. The invariant -/

namespace WorkingCopy

variable {use : CopyUse ρ} {fits : Option Path → ρ → Prop} {state : CopyState ρ}

/-- Once the copy is given up nothing is in use, whatever is wanted. -/
theorem Sound.left (hr : use.Respects fits) (h : state.held.Sound fits state.user) :
    (state.left use).held.Sound fits (state.left use).user := by
  refine ⟨rfl, fun hopen => absurd hopen Bool.false_ne_true, ?_⟩
  cases hopen : state.held.isOpen with
  | false =>
    have hfits := h.fits
    rw [h.copy_eq_none hopen] at hfits
    simpa [CopyState.left, hopen] using hfits
  | true =>
    have hsome := h.copy_isSome
    rw [hopen] at hsome
    obtain ⟨copy, hcopy⟩ := Option.isSome_iff_exists.mp hsome
    have hfits := h.fits
    rw [hcopy] at hfits
    simpa [CopyState.left, hopen] using hr.closed state.files hfits

/-- Entering where use is wanted keeps the invariant, whatever comes of it. -/
theorem Sound.enter (hr : use.Respects fits) (h : state.held.Sound fits state.user)
    (hwanted : state.held.isWanted = true) :
    (state.enter use).2.held.Sound fits (state.enter use).2.user := by
  cases hopen : state.held.isOpen with
  | true => rw [CopyState.enter_of_isOpen hopen]; exact h
  | false =>
    have hcopy := h.copy_eq_none hopen
    have hfits : fits none state.user := hcopy ▸ h.fits
    rcases CopyState.enter_cases use hopen hcopy with
      ⟨source, copy, files, user, -, -, hused, he⟩ | ⟨files, user, he, huser⟩
    · rw [he]
      exact ⟨rfl, fun _ => hwanted, hr.opened hfits hused⟩
    · rw [he]
      refine ⟨h.copy_isSome, h.wanted, ?_⟩
      rcases huser with rfl | ⟨tried, copy, hrefused⟩
      · exact h.fits
      · rw [hcopy]
        exact hr.refused hfits hrefused

/-- Asking for use keeps the invariant. -/
theorem Sound.openCopy (hr : use.Respects fits) (h : state.held.Sound fits state.user) :
    (state.openCopy use).2.held.Sound fits (state.openCopy use).2.user := by
  have hwanted : (state.want true).held.Sound fits (state.want true).user :=
    ⟨h.copy_isSome, fun _ => rfl, h.fits⟩
  exact Sound.enter hr hwanted rfl

/-- Asking for an end of use keeps the invariant: nothing is in use any more. -/
theorem Sound.closeCopy (hr : use.Respects fits) (h : state.held.Sound fits state.user) :
    (state.closeCopy use).2.held.Sound fits (state.closeCopy use).2.user := by
  rw [CopyState.closeCopy_eq state hr.yields h.copy_isSome]
  refine ⟨rfl, fun hopen => absurd hopen Bool.false_ne_true, ?_⟩
  exact (Sound.left hr h).fits

/-- Another source keeps the invariant, whether or not the swap succeeds. -/
theorem Sound.setSource (hr : use.Respects fits) (h : state.held.Sound fits state.user)
    (source : Option Path) :
    (state.setSource use source).2.held.Sound fits (state.setSource use source).2.user := by
  cases hwanted : state.held.isWanted with
  | false =>
    rw [CopyState.setSource_of_not_wanted state source hwanted]
    exact Sound.withSource h source
  | true =>
    rw [CopyState.setSource_of_wanted state source hwanted hr.yields h.copy_isSome]
    exact Sound.enter hr (Sound.left hr (Sound.withSource h source)) hwanted

end WorkingCopy

/-! ## 5. Users who remember more -/

section Forgetting

variable {ρ' : Type}

/-- Using a copy is the same without something that the user remembers. -/
structure CopyUse.Forgets (use : CopyUse ρ) (plain : CopyUse ρ') (forget : ρ → ρ') : Prop where
  opened : ∀ files copy user, plain.opened files copy (forget user) =
    ((use.opened files copy user).1, forget (use.opened files copy user).2)
  closed : ∀ files user, plain.closed files (forget user) =
    ((use.closed files user).1, forget (use.closed files user).2)

namespace CopyState

/-- The same working copy with another user. -/
def map (change : ρ → ρ') (state : CopyState ρ) : CopyState ρ' :=
  ⟨state.held, state.files, change state.user⟩

variable {use : CopyUse ρ} {plain : CopyUse ρ'} {forget : ρ → ρ'}

theorem enter_map (h : use.Forgets plain forget) (state : CopyState ρ) :
    (state.map forget).enter plain =
      ((state.enter use).1, (state.enter use).2.map forget) := by
  obtain ⟨⟨directory, source, copy, wanted, isOpen⟩, files, user⟩ := state
  cases isOpen with
  | true => rfl
  | false =>
    cases source with
    | none => rfl
    | some source =>
      simp only [enter, map, obtain, Bool.false_eq_true, if_false]
      -- the user matters only once there is a copy to be taken
      cases copy with
      | some copy =>
        simp only [h.opened]
        rcases use.opened files copy user with ⟨_ | _, later⟩
        · rfl
        · rfl
      | none =>
        rcases WorkingCopy.copySource directory source files with ⟨_ | made, after⟩
        · rfl
        · simp only [h.opened]
          rcases use.opened after made user with ⟨_ | _, later⟩
          · rfl
          · rfl

theorem leave_map (h : use.Forgets plain forget) (state : CopyState ρ) :
    (state.map forget).leave plain =
      ((state.leave use).1, (state.leave use).2.map forget) := by
  obtain ⟨⟨directory, source, copy, wanted, isOpen⟩, files, user⟩ := state
  cases copy with
  | none => rfl
  | some copy =>
    cases isOpen with
    | false => rfl
    | true =>
      simp only [leave, map, Option.isNone_some, Bool.false_eq_true, if_false, Bool.not_true,
        h.closed]
      rcases use.closed files user with ⟨_ | _, later⟩
      · rfl
      · rfl

theorem openCopy_map (h : use.Forgets plain forget) (state : CopyState ρ) :
    (state.map forget).openCopy plain =
      ((state.openCopy use).1, (state.openCopy use).2.map forget) :=
  enter_map h (state.want true)

theorem closeCopy_map (h : use.Forgets plain forget) (state : CopyState ρ) :
    (state.map forget).closeCopy plain =
      ((state.closeCopy use).1, (state.closeCopy use).2.map forget) :=
  leave_map h (state.want false)

theorem reload_map (h : use.Forgets plain forget) (state : CopyState ρ) :
    (state.map forget).reload plain =
      ((state.reload use).1, (state.reload use).2.map forget) := by
  have hleave := leave_map h state
  cases hwanted : state.held.isWanted with
  | false =>
    rw [reload_of_not_wanted hwanted]
    exact reload_of_not_wanted hwanted
  | true =>
    have hwanted' : (state.map forget).held.isWanted = true := hwanted
    rcases hleft : state.leave use with ⟨_ | _, left⟩ <;> rw [hleft] at hleave
    · rw [reload_of_kept hwanted hleft, reload_of_kept hwanted' hleave]
    · rw [reload_of_left hwanted hleft, reload_of_left hwanted' hleave]
      exact enter_map h left

theorem setSource_map (h : use.Forgets plain forget) (source : Option Path)
    (state : CopyState ρ) :
    (state.map forget).setSource plain source =
      ((state.setSource use source).1, (state.setSource use source).2.map forget) :=
  reload_map h (state.pointed source)

end CopyState

end Forgetting

/-! ## 6. What a user keeps -/

section Maintaining

/-- Opening and closing keep something of the user, whatever they come to. -/
structure CopyUse.Maintains (use : CopyUse ρ) (holds : ρ → Prop) : Prop where
  opened : ∀ files copy user, holds user → holds (use.opened files copy user).2
  closed : ∀ files user, holds user → holds (use.closed files user).2

namespace CopyUse.Maintains

variable {use : CopyUse ρ} {holds : ρ → Prop} {state : CopyState ρ}

theorem discard (h : holds state.user) : holds state.discard.user := by
  unfold CopyState.discard
  split
  · exact h
  · exact h

theorem obtain (source : Path) (h : holds state.user) : holds (state.obtain source).2.user := by
  unfold CopyState.obtain
  split
  · exact h
  · exact h

/-- Entering calls on the user at most once, -/
theorem enter (hm : use.Maintains holds) (h : holds state.user) :
    holds (state.enter use).2.user := by
  unfold CopyState.enter
  split
  · exact h
  · split
    · exact h
    · rename_i source _
      have hobtained := obtain source h
      split
      · rename_i after heq
        rw [heq] at hobtained
        exact hobtained
      · rename_i copy after heq
        rw [heq] at hobtained
        have hopened := hm.opened after.files copy after.user hobtained
        split
        · rename_i user hused
          rw [hused] at hopened
          exact hopened
        · rename_i user hused
          rw [hused] at hopened
          exact discard hopened

/-- and so does leaving. -/
theorem leave (hm : use.Maintains holds) (h : holds state.user) :
    holds (state.leave use).2.user := by
  unfold CopyState.leave
  split
  · exact h
  · split
    · exact discard h
    · have hclosed := hm.closed state.files state.user h
      split
      · rename_i user hused
        rw [hused] at hclosed
        exact discard hclosed
      · rename_i user hused
        rw [hused] at hclosed
        exact hclosed

/-- **Taking another source keeps it.** -/
theorem setSource (hm : use.Maintains holds) (h : holds state.user) (source : Option Path) :
    holds (state.setSource use source).2.user := by
  have hpointed : holds (state.pointed source).user := h
  unfold CopyState.setSource CopyState.reload
  split
  · exact h
  · have hleft := leave hm hpointed
    split
    · rename_i left hleave
      rw [CopyState.pointed, hleave] at hleft
      exact hleft
    · rename_i left hleave
      rw [CopyState.pointed, hleave] at hleft
      exact enter hm hleft

end CopyUse.Maintains

end Maintaining

end RenderSync
