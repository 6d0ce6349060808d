import RenderSync.WorkingCopy

/-!
# What is in a working copy

A working copy has the content of its source.  Between the two are directories that may have to be
made, a file that is written, and a mode that is set on it, and each of these looks its path up
anew in a tree that has changed.  What carries a path from one tree to the next is
`FileTree.KeepsWays`: directories and links are where they were, and so a path that led somewhere
leads there still (`KeepsWays.locate?`).  Making directories keeps what is in the files, too
(`FileTree.Grows`).

The one place where a content can get lost is a device that stands where the copy goes
(`copySource_content`).
-/

namespace RenderSync

namespace FileTree

variable {before after tree : FileTree}

/-! ## 1. Ways through a tree -/

/-- **Whatever a path led through it leads through still**: directories stay, and there are the
same links. -/
structure KeepsWays (before after : FileTree) : Prop where
  here : after.here = before.here
  directory : ∀ {place}, before.isDirectoryAt place = true → after.isDirectoryAt place = true
  link : ∀ place, after.linkAt? place = before.linkAt? place

theorem KeepsWays.refl (tree : FileTree) : tree.KeepsWays tree := ⟨rfl, id, fun _ => rfl⟩

theorem KeepsWays.trans {last : FileTree} (h : before.KeepsWays after)
    (h' : after.KeepsWays last) : before.KeepsWays last :=
  ⟨h'.here.trans h.here, fun hdir => h'.directory (h.directory hdir),
    fun place => (h'.link place).trans (h.link place)⟩

/-- A step that could be taken can be taken still. -/
theorem KeepsWays.walk (h : before.KeepsWays after) {place next : Place} {piece : String}
    (hwalk : before.walk place piece = some next) : after.walk place piece = some next := by
  cases hdir : before.isDirectoryAt place with
  | false => simp [FileTree.walk, hdir] at hwalk
  | true => simpa [FileTree.walk, hdir, h.directory hdir] using hwalk

/-- So can steps up to a link. -/
theorem KeepsWays.walkOn (h : before.KeepsWays after) (last : Bool) (pieces : List String) :
    ∀ {place : Place} {walked : Walked}, before.walkOn last place pieces = some walked →
      after.walkOn last place pieces = some walked := by
  induction pieces with
  | nil => exact fun hwalked => hwalked
  | cons piece rest ih =>
    intro place walked hwalked
    obtain ⟨next, hnext, hrest⟩ := Option.bind_eq_some_iff.mp hwalked
    refine Option.bind_eq_some_iff.mpr ⟨next, h.walk hnext, ?_⟩
    rw [h.link next]
    cases hlink : (if rest.isEmpty && !last then none else before.linkAt? next) with
    | some target =>
      rw [hlink] at hrest
      exact hrest
    | none =>
      rw [hlink] at hrest
      exact ih hrest

/-- So can steps through links. -/
theorem KeepsWays.walkThrough (h : before.KeepsWays after) (last : Bool) (fuel : Nat) :
    ∀ {place : Place} {pieces : List String} {arrived : Place},
      before.walkThrough last fuel place pieces = some arrived →
        after.walkThrough last fuel place pieces = some arrived := by
  induction fuel with
  | zero => exact fun hwalked => hwalked
  | succ fuel ih =>
    intro place pieces arrived hwalked
    obtain ⟨walked, hsteps, hrest⟩ := Option.bind_eq_some_iff.mp hwalked
    refine Option.bind_eq_some_iff.mpr ⟨walked, h.walkOn last pieces hsteps, ?_⟩
    cases walked with
    | arrived place => exact hrest
    | link directory target rest => exact ih hrest

/-- And so can the paths themselves. -/
theorem KeepsWays.followUpTo (h : before.KeepsWays after) (last : Bool) {path : Path}
    {place : Place} (hplace : before.followUpTo last path = some place) :
    after.followUpTo last path = some place := by
  unfold FileTree.followUpTo at hplace ⊢
  rw [h.here]
  split at hplace
  · cases hplace
  · next hnamed =>
    rw [if_neg hnamed]
    exact h.walkThrough last _ hplace

/-- A path leads somewhere if it is not too long and can be followed. -/
theorem locate?_iff {path : Path} {place : Place} :
    tree.locate? path = some place ↔
      isTooLong path = false ∧ tree.followUpTo true path = some place := by
  rw [FileTree.locate?, FileTree.follow?]
  cases isTooLong path <;> simp

theorem locateLink?_iff {path : Path} {place : Place} :
    tree.locateLink? path = some place ↔
      isTooLong path = false ∧ tree.followUpTo false path = some place := by
  rw [FileTree.locateLink?]
  cases isTooLong path <;> simp

/-- **A path that leads somewhere leads there still.** -/
theorem KeepsWays.locate? (h : before.KeepsWays after) {path : Path} {place : Place}
    (hplace : before.locate? path = some place) : after.locate? path = some place :=
  locate?_iff.mpr ((locate?_iff.mp hplace).imp_right (h.followUpTo true))

/-- And one that names a place still names it. -/
theorem KeepsWays.locateLink? (h : before.KeepsWays after) {path : Path} {place : Place}
    (hplace : before.locateLink? path = some place) : after.locateLink? path = some place :=
  locateLink?_iff.mpr ((locateLink?_iff.mp hplace).imp_right (h.followUpTo false))

/-- What is neither a directory nor a link can be overwritten with anything but a link. -/
theorem KeepsWays.put {place : Place} {entry : Entry}
    (hdirectory : ∀ mode, tree.get? place ≠ some (.directory mode))
    (hlink : ∀ target, tree.get? place ≠ some (.link target)) (hentry : entry.isLink = false) :
    tree.KeepsWays (tree.put place entry) := by
  refine ⟨rfl, fun {other} hdir => ?_, fun other => ?_⟩
  · by_cases hother : other = place
    · subst hother
      unfold isDirectoryAt at hdir ⊢
      cases hroot : decide (other = []) with
      | true => rfl
      | false =>
        rw [hroot, Bool.false_or] at hdir
        split at hdir
        · next mode hfound => exact absurd hfound (hdirectory mode)
        · cases hdir
    · simpa [isDirectoryAt, hother] using hdir
  · by_cases hother : other = place
    · subst hother
      have hbefore : tree.linkAt? other = none := by
        unfold linkAt?
        split
        · next target hfound => exact absurd hfound (hlink target)
        · rfl
      rw [hbefore, linkAt?, get?_put, if_pos rfl]
      cases entry <;> first | rfl | cases hentry
    · simp [linkAt?, hother]

/-- When contents were changed shows in no way. -/
theorem KeepsWays.stamp (h : before.KeepsWays after) (place : Place) :
    before.KeepsWays (after.stamp place) := ⟨h.here, h.directory, h.link⟩

/-! ## 2. Making directories -/

/-- The tree has only grown: the ways are kept, and what was there is there unchanged. -/
structure Grows (before after : FileTree) : Prop extends before.KeepsWays after where
  entry : ∀ {place entry}, before.get? place = some entry → after.get? place = some entry

theorem Grows.refl (tree : FileTree) : tree.Grows tree := ⟨.refl tree, id⟩

theorem Grows.trans {last : FileTree} (h : before.Grows after) (h' : after.Grows last) :
    before.Grows last :=
  ⟨h.toKeepsWays.trans h'.toKeepsWays, fun hentry => h'.entry (h.entry hentry)⟩

/-- A path still names what it named. -/
theorem Grows.find? (h : before.Grows after) {path : Path} {entry : Entry}
    (hfound : before.find? path = some entry) : after.find? path = some entry := by
  obtain ⟨place, hplace, hentry⟩ := Option.bind_eq_some_iff.mp hfound
  refine Option.bind_eq_some_iff.mpr ⟨place, h.locate? hplace, ?_⟩
  unfold entryAt? at hentry ⊢
  split at hentry
  · next hroot => rw [if_pos hroot]; exact hentry
  · next hroot => rw [if_neg hroot]; exact h.entry hentry

/-- A file still has the content that it had. -/
theorem Grows.content? (h : before.Grows after) {path : Path} {content : Content}
    (hcontent : before.content? path = some content) : after.content? path = some content := by
  unfold FileTree.content? at hcontent ⊢
  cases hfound : before.find? path with
  | none =>
    rw [hfound] at hcontent
    cases hcontent
  | some entry =>
    rw [h.find? hfound]
    rw [hfound] at hcontent
    exact hcontent

/-- A directory that is made stands where nothing was. -/
theorem Grows.makeDirectory {path : Path} (hmade : before.makeDirectory path = some after) :
    before.Grows after := by
  obtain ⟨place, -, hmade⟩ := Option.bind_eq_some_iff.mp hmade
  split at hmade
  · cases hmade
  · next hfree =>
    split at hmade
    · cases hmade
      have hnone : before.get? place = none := by
        simp only [Bool.or_eq_true, decide_eq_true_eq, not_or] at hfree
        exact Option.not_isSome_iff_eq_none.mp hfree.2
      refine ⟨.stamp (.put (by simp [hnone]) (by simp [hnone]) rfl) place, ?_⟩
      intro other entry hentry
      have hother : other ≠ place := by
        rintro rfl
        rw [hnone] at hentry
        cases hentry
      have hput := get?_put before place other (.directory newDirectoryMode)
      rw [if_neg hother] at hput
      exact hput.trans hentry
    · cases hmade

/-- Directories that are made, one after the other. -/
inductive Lays (before : FileTree) : FileTree → Prop
  | none : before.Lays before
  | one {made after : FileTree} {path : Path} : before.Lays made →
      made.makeDirectory path = some after → before.Lays after

/-- What making a directory and those above it comes to: which answer it gives for a path, and which
tree it leaves. -/
inductive LaysPath (before : FileTree) : Path → Bool → FileTree → Prop
  | empty {path : Path} (htext : path.text = "") : before.LaysPath path true before
  | made {path : Path} {after : FileTree} (htext : path.text ≠ "")
    (hone : before.makeDirectory path = some after) : before.LaysPath path true after
  | there {path : Path} (htext : path.text ≠ "") (hdirectory : before.isDirectory path = true) :
    before.LaysPath path true before
  /-- Something else is there, or there is nothing above. -/
  | stuck {path : Path} : before.LaysPath path false before
  | failed {path parent : Path} {after : FileTree} (htext : path.text ≠ "")
    (hparent : path.parent? = some parent) (habove : before.LaysPath parent false after) :
    before.LaysPath path false after
  | last {path parent : Path} {laid after : FileTree} (htext : path.text ≠ "")
    (hparent : path.parent? = some parent) (habove : before.LaysPath parent true laid)
    (hone : laid.makeDirectory path = some after) : before.LaysPath path true after
  /-- All above is there, and still it cannot be made. -/
  | refused {path parent : Path} {laid : FileTree} {done : Bool} (htext : path.text ≠ "")
    (hparent : path.parent? = some parent) (habove : before.LaysPath parent true laid)
    (hnone : laid.makeDirectory path = none) (hdone : laid.isDirectory path = done) :
    before.LaysPath path done laid

theorem laysPath_layDirectoriesFuel (fuel : Nat) :
    ∀ path : Path, tree.LaysPath path (tree.layDirectoriesFuel fuel path).1
      (tree.layDirectoriesFuel fuel path).2 := by
  induction fuel with
  | zero => exact fun _ => .stuck
  | succ fuel ih =>
    intro path
    rw [layDirectoriesFuel]
    split
    · next htext => exact .empty htext
    next htext =>
    split
    · next made hone => exact .made htext hone
    split
    · next hdirectory => exact .there htext hdirectory
    split
    · exact .stuck
    split
    · exact .stuck
    next parent hparent =>
    have habove := ih parent
    split
    · next laid hlaid =>
      rw [hlaid] at habove
      exact .failed htext hparent habove
    · next laid hlaid =>
      rw [hlaid] at habove
      split
      · next made hone => exact .last htext hparent habove hone
      · next hnone => exact .refused htext hparent habove hnone rfl

theorem LaysPath.of_layDirectoriesFuel {fuel : Nat} {path : Path} {done : Bool}
    (h : before.layDirectoriesFuel fuel path = (done, after)) : before.LaysPath path done after := by
  have hlays := before.laysPath_layDirectoriesFuel fuel path
  rwa [h] at hlays

/-- **Making a directory and those above it comes to that**, whether or not it succeeds. -/
theorem LaysPath.lays {path : Path} {done : Bool} (h : before.LaysPath path done after) :
    before.Lays after := by
  induction h with
  | empty | there | stuck => exact .none
  | made _ hone => exact .one .none hone
  | failed _ _ _ ih => exact ih
  | last _ _ _ hone ih => exact .one ih hone
  | refused _ _ _ _ _ ih => exact ih

/-- Nothing has to be made for the empty path. -/
theorem LaysPath.eq_of_empty {path : Path} {done : Bool} (h : before.LaysPath path done after)
    (hempty : path.text = "") : after = before := by
  cases h with
  | empty | there | stuck => rfl
  | made htext | failed htext | last htext | refused htext => exact absurd hempty htext

theorem lays_layDirectories (path : Path) : tree.Lays (tree.layDirectories path).2 := by
  rw [layDirectories]
  split
  · exact .none
  · exact (laysPath_layDirectoriesFuel _ path).lays

/-- Directories that are made do no more than that. -/
theorem Grows.of_lays (h : before.Lays after) : before.Grows after := by
  induction h with
  | none => exact .refl before
  | one _ hone ih => exact ih.trans (.makeDirectory hone)

/-- Nor does making sure of the directory for copies, whether or not it succeeds. -/
theorem Grows.ensureDirectory (directory : Path) (tree : FileTree) :
    tree.Grows (WorkingCopy.ensureDirectory directory tree).2 := by
  unfold WorkingCopy.ensureDirectory
  split
  · exact .refl tree
  · exact .of_lays (tree.lays_layDirectories directory)

theorem Grows.of_ensureDirectory {directory : Path} {done : Bool}
    (h : WorkingCopy.ensureDirectory directory before = (done, after)) : before.Grows after := by
  have hgrows := Grows.ensureDirectory directory before
  rwa [h] at hgrows

/-! ## 3. Copying a file -/

/-- What is at a place that is not the root. -/
theorem find?_of_place {path : Path} {place : Place} (hplace : tree.locate? path = some place)
    (hroot : place ≠ []) : tree.find? path = tree.get? place := by
  rw [find?, hplace, Option.bind_some, entryAt?, if_neg hroot]

/-- **What a write that succeeds does**: it puts a file with the content where a file or nothing
was, or it writes to a device. -/
theorem writeContent_cases {mode : Nat} {path : Path} {content : Content}
    (hwritten : before.writeContent mode path content = some after) :
    ∃ place, before.locate? path = some place ∧ place ≠ [] ∧ before.KeepsWays after ∧
      ((∃ kept, after.get? place = some (.file kept content)) ∨
        ∃ kept device, after.get? place = some (.device kept device)) := by
  obtain ⟨place, hplace, hwritten⟩ := Option.bind_eq_some_iff.mp hwritten
  have hput : ∀ kept, (((before.put place (.file kept content)).stamp place).get? place) =
      some (.file kept content) := by
    intro kept
    have hsame := get?_put before place place (.file kept content)
    rwa [if_pos rfl] at hsame
  split at hwritten
  · cases hwritten
  · next hroot =>
    refine ⟨place, hplace, hroot, ?_⟩
    split at hwritten
    · next old content' hfile =>
      cases hwritten
      exact ⟨.stamp (.put (by simp [hfile]) (by simp [hfile]) rfl) place, Or.inl ⟨old, hput old⟩⟩
    · next kept hdevice =>
      cases hwritten
      exact ⟨.refl before, Or.inr ⟨kept, .null, hdevice⟩⟩
    · cases hwritten
    · next hnone =>
      split at hwritten
      · cases hwritten
        exact ⟨.stamp (.put (by simp [hnone]) (by simp [hnone]) rfl) place,
          Or.inl ⟨mode, hput mode⟩⟩
      · cases hwritten

/-- Another mode for a file or a device leaves it what it is. -/
theorem find?_setMode {path : Path} {place : Place} {entry : Entry} {mode : Nat}
    (hplace : before.locate? path = some place) (hroot : place ≠ [])
    (hentry : before.get? place = some entry) (hdirectory : entry.isDirectory = false)
    (hlink : entry.isLink = false) (hset : before.setMode path mode = some after) :
    after.find? path = some (entry.withMode mode) := by
  have hfound : before.find? path = some entry := (find?_of_place hplace hroot).trans hentry
  have hafter : after = before.put place (entry.withMode mode) := by
    have hput : before.setMode path mode = some (before.put place (entry.withMode mode)) := by
      simp [FileTree.setMode, hplace, hfound, hroot]
    exact Option.some.inj (hset.symm.trans hput)
  have hways : before.KeepsWays after := by
    rw [hafter]
    refine .put ?_ ?_ ?_
    · rintro kept hkept
      rw [hentry] at hkept
      cases hkept
      cases hdirectory
    · rintro target hkept
      rw [hentry] at hkept
      cases hkept
      cases hlink
    · cases entry <;> first | rfl | cases hlink
  rw [find?_of_place (hways.locate? hplace) hroot, hafter, get?_put, if_pos rfl]

/-- **A copy that is a file has the content of its source**; it could have gone to a device. -/
theorem content?_copy {source target : Path} {content : Content}
    (hcopied : before.copy source target = some after)
    (hsource : before.content? source = some content)
    (hfile : (after.find? target).any Entry.isFile = true) :
    after.content? target = some content := by
  obtain ⟨entry, hentry, hcopied⟩ := Option.bind_eq_some_iff.mp hcopied
  cases entry with
  | directory | link | pipe | device => cases hcopied
  | file mode found =>
    obtain rfl : found = content := by
      rw [content?, hentry] at hsource
      exact Option.some.inj hsource
    obtain ⟨written, hwritten, hset⟩ := Option.bind_eq_some_iff.mp hcopied
    obtain ⟨place, hplace, hroot, hways, ⟨kept, hput⟩ | ⟨kept, device, hput⟩⟩ :=
      writeContent_cases hwritten
    · have hfound := find?_setMode (hways.locate? hplace) hroot hput rfl rfl hset
      rw [content?, hfound]
      rfl
    · have hfound := find?_setMode (hways.locate? hplace) hroot hput rfl rfl hset
      rw [hfound] at hfile
      exact absurd hfile Bool.false_ne_true

end FileTree

namespace WorkingCopy

variable {directory source : Path} {files after : FileTree}

/-- **What making a copy comes to**: none is made, and at most the directory is, or some of those
above it; or the source is there, and is copied into the directory under the name of a copy. -/
theorem copySource_cases {made : Option Path}
    (hmade : copySource directory source files = (made, after)) :
    (made = none ∧ (after = files ∨ after = (ensureDirectory directory files).2)) ∨
    ∃ name ready, made = some (directory.join ⟨name⟩) ∧ files.contains source = true ∧
      nameFor? source = some name ∧ ensureDirectory directory files = (true, ready) ∧
      ready.copy source (directory.join ⟨name⟩) = some after := by
  unfold copySource at hmade
  split at hmade
  · cases hmade
    exact Or.inl ⟨rfl, Or.inl rfl⟩
  next hthere =>
  split at hmade
  · cases hmade
    exact Or.inl ⟨rfl, Or.inl rfl⟩
  next name hname =>
  split at hmade
  · next above habove =>
    cases hmade
    exact Or.inl ⟨rfl, Or.inr (congrArg Prod.snd habove).symm⟩
  next ready hready =>
  dsimp only at hmade
  split at hmade
  · cases hmade
    exact Or.inl ⟨rfl, Or.inr (congrArg Prod.snd hready).symm⟩
  next done hdone =>
  cases hmade
  exact Or.inr ⟨name, ready, rfl, by simpa using hthere, hname, hready, hdone⟩

/-- **A working copy that is a file has the content of its source.** -/
theorem copySource_content {copy : Path} {content : Content}
    (hmade : copySource directory source files = (some copy, after))
    (hsource : files.content? source = some content)
    (hfile : (after.find? copy).any Entry.isFile = true) :
    after.content? copy = some content := by
  obtain ⟨hnone, -⟩ | ⟨name, ready, hcopy, -, -, hready, hdone⟩ := copySource_cases hmade
  · cases hnone
  obtain rfl := Option.some.inj hcopy
  have hgrows := FileTree.Grows.of_ensureDirectory hready
  exact FileTree.content?_copy hdone (hgrows.content? hsource) hfile

end WorkingCopy

end RenderSync
