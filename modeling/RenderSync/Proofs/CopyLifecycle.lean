import RenderSync.Proofs.Rooms
import RenderSync.Proofs.WorkingCopy
import RenderSync.WorkingCopy.Witnessed

/-!
# The life of a working copy

A working copy is opened, closed, reloaded and given other sources, in any order.  Here nothing is
asked of its user, who may refuse to take a copy as well as to let it go, now and not later; and
between the operations anybody may write and remove files, as long as the directory for copies is
left alone (`FileTree.Spares`).

Two states are all that ever comes up.  Either no copy is held and nothing is in the directory, or
one is in use and is the only file there; `CopyState.Tidy` says which, and that the calls of the
user fit to that.  Leaving and entering lead from one to the other or change nothing (`Tidy.leave`,
`Tidy.enter`), so every operation leads to one of the two (`Tidy.perform_served`), and so does a
whole run (`CopyRun.Reached.tidy`).  What can be relied on because of that is in `CopyRun.Orderly`.

A failed closing is what `isWanted` has to be kept apart for: the copy stays in use though it is not
wanted, and another source is then only taken down.
-/

namespace RenderSync

variable {ρ : Type}

/-! ## 1. Calls -/

/-- A call of the user of a copy. -/
inductive CopyCall where
  | opened (copy : Path)
  | closed
deriving DecidableEq

namespace CopyCall

/-- The call puts a copy to use. -/
def isOpened : CopyCall → Bool
  | opened _ => true
  | closed => false

/-- **Calls in turn**, and the copy that is in use after the last of them. -/
inductive Alternating : Option Path → List CopyCall → Prop where
  | start : Alternating none []
  | opened {calls : List CopyCall} (copy : Path) :
      Alternating none calls → Alternating (some copy) (calls ++ [.opened copy])
  | closed {calls : List CopyCall} {copy : Path} :
      Alternating (some copy) calls → Alternating none (calls ++ [.closed])

variable {calls : List CopyCall} {used : Option Path}

end CopyCall

/-- The same use, by a user who notes the calls that succeed. -/
def CopyUse.noted (use : CopyUse ρ) : CopyUse (ρ × List CopyCall) where
  opened files copy user :=
    let (done, later) := use.opened files copy user.1
    (done, later, if done then user.2 ++ [.opened copy] else user.2)
  closed files user :=
    let (done, later) := use.closed files user.1
    (done, later, if done then user.2 ++ [.closed] else user.2)

/-- What is noted of an opening. -/
theorem CopyUse.opened_notes (use : CopyUse ρ) {files : FileTree} {copy : Path}
    {user later : ρ × List CopyCall} {done : Bool}
    (h : use.noted.opened files copy user = (done, later)) :
    later.2 = if done then user.2 ++ [.opened copy] else user.2 := by
  cases h
  rfl

/-- What is noted of a closing. -/
theorem CopyUse.closed_notes (use : CopyUse ρ) {files : FileTree} {user later : ρ × List CopyCall}
    {done : Bool} (h : use.noted.closed files user = (done, later)) :
    later.2 = if done then user.2 ++ [.closed] else user.2 := by
  cases h
  rfl

/-- Notes make no difference. -/
theorem CopyUse.noted_forgets (use : CopyUse ρ) : use.noted.Forgets use Prod.fst where
  opened _ _ _ := rfl
  closed _ _ := rfl

/-! ## 2. Leaving and entering -/

/-- What is in use is all that is in the directory: nothing, or a copy with its content. -/
def FileTree.Keeps (directory : Path) : Option (Path × Content) → FileTree → Prop
  | none, tree => tree.IsVacant directory
  | some (copy, content), tree => tree.Holds directory copy content

/-- Others do not change that. -/
theorem FileTree.Keeps.spared {directory : Path} {used : Option (Path × Content)}
    {before after : FileTree} (hrooted : before.IsRooted) (h : before.Keeps directory used)
    (hspares : before.Spares directory after) : after.Keeps directory used := by
  cases used with
  | none => exact IsVacant.spared h hspares
  | some used => exact Holds.spared hrooted h hspares

namespace CopyState

/-- **A copy is held exactly while it is in use**, and with what content; so say the flags, the
directory and the calls. -/
structure Tidy (directory : Path) (used : Option (Path × Content))
    (state : CopyState (ρ × List CopyCall)) : Prop where
  place : state.held.directory = directory
  isOpen : state.held.isOpen = used.isSome
  copy : state.held.copy = used.map Prod.fst
  rooted : state.files.IsRooted
  files : state.files.Keeps directory used
  calls : CopyCall.Alternating (used.map Prod.fst) state.user.2

variable {directory : Path} {used : Option (Path × Content)}
  {state : CopyState (ρ × List CopyCall)}

theorem Tidy.copy_isSome (h : state.Tidy directory used) :
    state.held.copy.isSome = state.held.isOpen := by
  rw [h.copy, h.isOpen, Option.isSome_map]

theorem Tidy.want (h : state.Tidy directory used) (wanted : Bool) :
    (state.want wanted).Tidy directory used :=
  ⟨h.place, h.isOpen, h.copy, h.rooted, h.files, h.calls⟩

theorem Tidy.pointed (h : state.Tidy directory used) (source : Option Path) :
    (state.pointed source).Tidy directory used :=
  ⟨h.place, h.isOpen, h.copy, h.rooted, h.files, h.calls⟩

/-- **Leaving** gives up what is in use, or nothing comes of it because the user refuses.  Of the
files only the copy goes. -/
theorem Tidy.leave (use : CopyUse ρ) (h : state.Tidy directory used) :
    ∃ later, (state.leave use.noted).2.Tidy directory later ∧
      (state.leave use.noted).2.files.Grows state.files ∧
      (later = used ∧ (state.leave use.noted).2.user.2 = state.user.2 ∨
        later = none ∧ (state.leave use.noted).2.user.2 = state.user.2 ++ [.closed]) := by
  cases used with
  | none =>
    rw [leave_of_no_copy h.copy]
    exact ⟨none, h, .refl _, Or.inl ⟨rfl, rfl⟩⟩
  | some used =>
    obtain ⟨copy, content⟩ := used
    rcases hclosed : use.noted.closed state.files state.user with ⟨_ | _, user⟩
    · have hnotes : user.2 = state.user.2 := use.closed_notes hclosed
      rw [leave_of_refused h.copy h.isOpen hclosed]
      refine ⟨some (copy, content), ⟨h.place, h.isOpen, h.copy, h.rooted, h.files, ?_⟩, .refl _,
        Or.inl ⟨rfl, hnotes⟩⟩
      rw [hnotes]
      exact h.calls
    · have hnotes : user.2 = state.user.2 ++ [.closed] := use.closed_notes hclosed
      obtain ⟨files, hremoved, hrooted, hvacant, hgrows⟩ := FileTree.Holds.remove h.rooted h.files
      rw [leave_of_released h.copy h.isOpen hclosed hremoved]
      refine ⟨none, ⟨h.place, rfl, rfl, hrooted, hvacant, ?_⟩, hgrows, Or.inr ⟨rfl, hnotes⟩⟩
      rw [hnotes]
      exact .closed h.calls

/-- **Entering** puts a copy to use that has the content of the source, or nothing comes of it. -/
theorem Tidy.enter (use : CopyUse ρ) (h : state.Tidy directory used) :
    ∃ later, (state.enter use.noted).2.Tidy directory later ∧
      (later = used ∧ (state.enter use.noted).2.user.2 = state.user.2 ∨
        ∃ copy content, later = some (copy, content) ∧
          state.held.source.bind state.files.content? = some content ∧
          (state.enter use.noted).2.user.2 = state.user.2 ++ [.opened copy]) := by
  cases used with
  | some used =>
    rw [enter_of_isOpen h.isOpen]
    exact ⟨some used, h, Or.inl ⟨rfl, rfl⟩⟩
  | none =>
    have hopen : state.held.isOpen = false := h.isOpen
    have hcopy : state.held.copy = none := h.copy
    have hvacant : state.files.IsVacant state.held.directory := h.place ▸ h.files
    cases hsource : state.held.source with
    | none =>
      rw [enter_of_no_source hopen hsource]
      exact ⟨none, h, Or.inl ⟨rfl, rfl⟩⟩
    | some source =>
      rcases hmade : WorkingCopy.copySource state.held.directory source state.files with
        ⟨_ | copy, files⟩
      · obtain ⟨hrooted, hvacant⟩ := WorkingCopy.copySource_none h.rooted hvacant hmade
        rw [enter_of_not_made hopen hcopy hsource hmade]
        exact ⟨none, ⟨h.place, hopen, hcopy, hrooted, h.place ▸ hvacant, h.calls⟩,
          Or.inl ⟨rfl, rfl⟩⟩
      obtain ⟨hrooted, content, hcontent, hholds⟩ :=
        WorkingCopy.copySource_some h.rooted hvacant hmade
      rcases hopened : use.noted.opened files copy state.user with ⟨_ | _, user⟩
      · -- what was copied is removed, and all is as before
        have hnotes : user.2 = state.user.2 := use.opened_notes hopened
        obtain ⟨after, hremoved, hrooted, hvacant, -⟩ := hholds.remove hrooted
        rw [enter_of_refused hopen hcopy hsource hmade hopened, hremoved]
        refine ⟨none, ⟨h.place, hopen, hcopy, hrooted, h.place ▸ hvacant, ?_⟩,
          Or.inl ⟨rfl, hnotes⟩⟩
        rw [hnotes]
        exact h.calls
      · have hnotes : user.2 = state.user.2 ++ [.opened copy] := use.opened_notes hopened
        rw [enter_eq hopen hcopy hsource hmade hopened]
        refine ⟨some (copy, content), ⟨h.place, rfl, rfl, hrooted, h.place ▸ hholds, ?_⟩,
          Or.inr ⟨copy, content, rfl, hcontent, hnotes⟩⟩
        rw [hnotes]
        exact .opened copy h.calls

/-! ## 3. Operations -/

/-- What may be asked of a working copy. -/
inductive Operation where
  | setSource (source : Option Path)
  | openCopy
  | closeCopy
  | reload
deriving DecidableEq

/-- Does what is asked. -/
def perform (use : CopyUse ρ) (state : CopyState ρ) : Operation → Bool × CopyState ρ
  | .setSource source => state.setSource use source
  | .openCopy => state.openCopy use
  | .closeCopy => state.closeCopy use
  | .reload => state.reload use

/-- A user who remembers more is served like one who does not. -/
theorem perform_map {ρ' : Type} {use : CopyUse ρ} {plain : CopyUse ρ'} {forget : ρ → ρ'}
    (h : use.Forgets plain forget) (operation : Operation) (state : CopyState ρ) :
    (state.map forget).perform plain operation =
      ((state.perform use operation).1, (state.perform use operation).2.map forget) := by
  cases operation with
  | setSource source => exact setSource_map h source state
  | openCopy => exact openCopy_map h state
  | closeCopy => exact closeCopy_map h state
  | reload => exact reload_map h state

/-- So is one who notes the calls. -/
theorem perform_noted (use : CopyUse ρ) (operation : Operation)
    (state : CopyState (ρ × List CopyCall)) :
    (state.map Prod.fst).perform use operation =
      ((state.perform use.noted operation).1,
        (state.perform use.noted operation).2.map Prod.fst) :=
  perform_map use.noted_forgets operation state

/-- **One operation has led from one copy to another**: without a call to the same, and after calls
to none or to one with the content that the source had before. -/
structure Served (directory : Path) (used later : Option (Path × Content))
    (before after : CopyState (ρ × List CopyCall)) : Prop where
  tidy : after.Tidy directory later
  kept : after.user.2 = before.user.2 → later = used
  fresh : after.user.2 ≠ before.user.2 → ∀ {copy content}, later = some (copy, content) →
    after.held.source.bind before.files.content? = some content

theorem Tidy.enter_served (use : CopyUse ρ) (h : state.Tidy directory used) :
    ∃ later, Served directory used later state (state.enter use.noted).2 := by
  obtain ⟨later, htidy, ⟨rfl, hcalls⟩ | ⟨copy, content, rfl, hcontent, hcalls⟩⟩ := h.enter use
  · exact ⟨later, htidy, fun _ => rfl, fun hmore => absurd hcalls hmore⟩
  · refine ⟨_, htidy, fun hsame => by simp [hcalls] at hsame, fun _ => ?_⟩
    rintro _ _ ⟨⟩
    rw [(enter_keeps use.noted h.copy_isSome).2.1]
    exact hcontent

theorem Tidy.leave_served (use : CopyUse ρ) (h : state.Tidy directory used) :
    ∃ later, Served directory used later state (state.leave use.noted).2 := by
  obtain ⟨later, htidy, -, ⟨rfl, hcalls⟩ | ⟨rfl, hcalls⟩⟩ := h.leave use
  · exact ⟨later, htidy, fun _ => rfl, fun hmore => absurd hcalls hmore⟩
  · exact ⟨none, htidy, fun hsame => by simp [hcalls] at hsame, fun _ => nofun⟩

/-- **A reload leaves and enters**, or does nothing: where the user does not let the copy go it
stays in use as it is. -/
theorem Tidy.reload_served (use : CopyUse ρ) (h : state.Tidy directory used) :
    ∃ later, Served directory used later state (state.reload use.noted).2 := by
  cases hwanted : state.held.isWanted with
  | false =>
    rw [reload_of_not_wanted hwanted]
    exact ⟨used, h, fun _ => rfl, fun hmore => absurd rfl hmore⟩
  | true =>
    rcases hleave : state.leave use.noted with ⟨_ | _, left⟩
    · rw [reload_of_kept hwanted hleave]
      simpa only [hleave] using h.leave_served use
    rw [reload_of_left hwanted hleave]
    obtain ⟨between, hbetween, hgrows, hleft⟩ := h.leave use
    rw [hleave] at hbetween hgrows hleft
    dsimp only at hbetween hgrows hleft
    obtain ⟨later, htidy, ⟨rfl, hsame⟩ | ⟨copy, content, rfl, hcontent, hopened⟩⟩ :=
      hbetween.enter use
    · -- entering has changed nothing
      rcases hleft with ⟨rfl, hcalls⟩ | ⟨rfl, hcalls⟩
      · exact ⟨later, htidy, fun _ => rfl, fun hmore => absurd (hsame.trans hcalls) hmore⟩
      · exact ⟨none, htidy, fun hkept => by simp [hsame.trans hcalls] at hkept, fun _ => nofun⟩
    · -- the new copy is one of the source as it was before the old copy went
      refine ⟨_, htidy, fun hkept => ?_, fun _ => ?_⟩
      · rcases hleft with ⟨-, hcalls⟩ | ⟨-, hcalls⟩ <;> simp [hopened, hcalls] at hkept
      · rintro _ _ ⟨⟩
        rw [(enter_keeps use.noted hbetween.copy_isSome).2.1]
        obtain ⟨source, hsome, hcontent⟩ := Option.bind_eq_some_iff.mp hcontent
        rw [hsome]
        exact hgrows.content? hcontent

/-- **Every operation serves**, whatever the user does. -/
theorem Tidy.perform_served (use : CopyUse ρ) (h : state.Tidy directory used)
    (operation : Operation) :
    ∃ later, Served directory used later state (state.perform use.noted operation).2 := by
  cases operation with
  | setSource source =>
    obtain ⟨later, htidy, hkept, hfresh⟩ := (h.pointed source).reload_served use
    exact ⟨later, htidy, hkept, hfresh⟩
  | openCopy =>
    obtain ⟨later, htidy, hkept, hfresh⟩ := (h.want true).enter_served use
    exact ⟨later, htidy, hkept, hfresh⟩
  | closeCopy =>
    obtain ⟨later, htidy, hkept, hfresh⟩ := (h.want false).leave_served use
    exact ⟨later, htidy, hkept, hfresh⟩
  | reload => exact h.reload_served use

end CopyState

/-! ## 4. Runs -/

/-- A working copy in the course of its life. -/
structure CopyRun (ρ : Type) where
  state : CopyState (ρ × List CopyCall)
  /-- What was in the source when its copy was put to use. -/
  original : Option Content

namespace CopyRun

/-- The calls that have succeeded, oldest first. -/
def calls (run : CopyRun ρ) : List CopyCall := run.state.user.2

/-- No source yet, no copy and no calls. -/
def start (directory : Path) (files : FileTree) (user : ρ) : CopyRun ρ :=
  ⟨⟨.start directory, files, user, []⟩, none⟩

/-- An operation; if a call of the user succeeds, what was in the source before is remembered. -/
def perform (use : CopyUse ρ) (operation : CopyState.Operation) (run : CopyRun ρ) :
    Bool × CopyRun ρ :=
  let (answer, after) := run.state.perform use.noted operation
  (answer,
    { state := after
      original :=
        if after.user.2 = run.calls then run.original
        else after.held.source.bind run.state.files.content? })

/-- Others have changed the files, and the user has changed for reasons of its own. -/
def meanwhile (files : FileTree) (user : ρ) (run : CopyRun ρ) : CopyRun ρ :=
  { run with state := { run.state with files := files, user := (user, run.calls) } }

/-- **Runs**: from a directory in which nothing is, through operations in any order, between which
others leave the directory alone. -/
inductive Reached (use : CopyUse ρ) (directory : Path) : CopyRun ρ → Prop where
  | start {files : FileTree} (user : ρ) : files.IsRooted → files.IsVacant directory →
      Reached use directory (.start directory files user)
  | performed {run : CopyRun ρ} (operation : CopyState.Operation) : Reached use directory run →
      Reached use directory (run.perform use operation).2
  | meanwhile {run : CopyRun ρ} {files : FileTree} (user : ρ) : Reached use directory run →
      run.state.files.Spares directory files → Reached use directory (run.meanwhile files user)

variable {use : CopyUse ρ} {directory : Path} {run : CopyRun ρ}

/-- **Along a run** a copy is held exactly while it is in use, and its content is what was in the
source when it was put to use. -/
theorem Reached.tidy (h : Reached use directory run) :
    ∃ used, run.state.Tidy directory used ∧
      ∀ {copy content}, used = some (copy, content) → run.original = some content := by
  induction h with
  | start user hrooted hvacant =>
    exact ⟨none, ⟨rfl, rfl, rfl, hrooted, hvacant, .start⟩, nofun⟩
  | @performed run operation _ ih =>
    obtain ⟨used, htidy, horiginal⟩ := ih
    obtain ⟨later, htidy, hkept, hfresh⟩ := htidy.perform_served use operation
    refine ⟨later, htidy, fun hlater => ?_⟩
    by_cases hcalls : (run.state.perform use.noted operation).2.user.2 = run.calls
    · exact (if_pos hcalls).trans (horiginal (hkept hcalls ▸ hlater))
    · exact (if_neg hcalls).trans (hfresh hcalls hlater)
  | meanwhile user _ hspares ih =>
    obtain ⟨used, htidy, horiginal⟩ := ih
    exact ⟨used, ⟨htidy.place, htidy.isOpen, htidy.copy, hspares.rooted htidy.rooted,
      htidy.files.spared htidy.rooted hspares, htidy.calls⟩, horiginal⟩

/-- **What can be relied on** at any moment. -/
structure Orderly (use : CopyUse ρ) (directory : Path) (run : CopyRun ρ) : Prop where
  /-- A copy is held while one is in use and at no other time. -/
  copy_iff : run.state.held.isOpen = true ↔ run.state.held.copy.isSome = true
  /-- One is in use if the last call has put it to use. -/
  opened_iff : run.state.held.isOpen = true ↔ ∃ copy, run.calls.getLast? = some (.opened copy)
  /-- The first call puts a copy to use, the second gives it up, and so on in turn. -/
  alternating : ∀ {place call}, run.calls[place]? = some call →
    (call.isOpened = true ↔ place % 2 = 0)
  /-- Nothing is in the directory while no copy is in use. -/
  vacant : run.state.held.isOpen = false → ∀ names, names ≠ [] →
    run.state.files.below directory names = none
  /-- The copy in use is the only file there, and has the content that the source had when the copy
  was put to use. -/
  copied : run.state.held.isOpen = true → ∃ name mode content,
    run.state.held.copy = some (directory.join ⟨name⟩) ∧
      run.calls.getLast? = some (.opened (directory.join ⟨name⟩)) ∧
      run.original = some content ∧
      run.state.files.content? (directory.join ⟨name⟩) = some content ∧
      ∀ names, names ≠ [] → run.state.files.below directory names =
        if names = [name] then some (.file mode content) else none
  /-- Opening says whether a copy is in use then, -/
  openCopy : (run.perform use .openCopy).1 = (run.perform use .openCopy).2.state.held.isOpen
  /-- and that is so if one was in use before, or can be made and is taken. -/
  openCopy_iff : (run.perform use .openCopy).1 = true ↔
    run.state.held.isOpen = true ∨ run.state.CanEnter use.noted
  /-- Closing says whether none is in use then, -/
  closeCopy : (run.perform use .closeCopy).1 = !(run.perform use .closeCopy).2.state.held.isOpen
  /-- and that is so if none was before, or it is let go. -/
  closeCopy_iff : (run.perform use .closeCopy).1 = true ↔
    run.state.held.isOpen = false ∨ (use.closed run.state.files run.state.user.1).1 = true

/-- A source beside an empty directory for copies. -/
def besideWork : FileTree where
  entries := [(["work"], .directory 0o755), (["a.so"], .file 0o755 (.octets [1]))]
  here := []

/-- The source is put to use, -/
def takenUp : CopyRun CopyWitness :=
  let run := ((start ⟨"/work"⟩ besideWork CopyWitness.start).perform CopyWitness.use
    (.setSource (some ⟨"/a.so"⟩))).2
  (run.perform CopyWitness.use .openCopy).2

/-- and while it is built anew, its user does not let the copy go. -/
def clungTo : CopyRun CopyWitness :=
  let files := (takenUp.state.files.write ⟨"/a.so"⟩ [2]).getD takenUp.state.files
  ((takenUp.meanwhile files ⟨false, true, []⟩).perform CopyWitness.use .closeCopy).2

/-- Later on it does; the source is put to use anew, -/
def swapped : CopyRun CopyWitness :=
  let run := ((clungTo.meanwhile clungTo.state.files .start).perform CopyWitness.use .openCopy).2
  (run.perform CopyWitness.use .reload).2

end CopyRun

end RenderSync
