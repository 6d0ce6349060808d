import RenderSync.Proofs.CopyLifecycle

/-!
# What a copy in use was made from

A working copy knows its source and whether a copy is in use, but not which source that copy was
made from.  The two part where another source is taken down while the copy stays in use: where its
user refuses to let it go, and where use is not wanted any more but could not be ended.  The answer
of the operation tells of the first and not of the second, and nothing in the state tells of
either.

`SourcedCopy` keeps the origin of the copy beside the state, and `SourcedCopy.Faithful` says that
the source is the origin while a copy is in use.  An operation either leaves the copy in use alone
(`CopyState.Stays`), or after it nothing is in use or a fresh copy of the source is
(`CopyState.Renews`); which of the two is decided by `CopyState.Keeps`.  So the source is the origin
after an operation, whatever came before it, unless the operation keeps the copy and points
elsewhere (`SourcedCopy.Reached.faithful_perform_iff`).

Nothing is asked of the user, of the files or of the directory, which may change in any way between
the operations.
-/

namespace RenderSync

variable {ρ : Type}

namespace CopyState

variable {use : CopyUse ρ} {state before after : CopyState (ρ × List CopyCall)}

/-! ## 1. What an operation does to the copy in use -/

/-- The source after an operation. -/
def Operation.target : Operation → Option Path → Option Path
  | .setSource source, _ => source
  | _, source => source

/-- **The operation leaves the copy in use alone**: it does not ask for its end, it asks for nothing
because use is not wanted, or the user refuses. -/
def Keeps (use : CopyUse ρ) (operation : Operation) (state : CopyState (ρ × List CopyCall)) :
    Prop :=
  state.held.isOpen = true ∧
    match operation with
    | .openCopy => True
    | .closeCopy => (use.closed state.files state.user.1).1 = false
    | .reload | .setSource _ =>
      state.held.isWanted = true → (use.closed state.files state.user.1).1 = false

/-- The copy in use is the one that was in use before. -/
structure Stays (before after : CopyState (ρ × List CopyCall)) : Prop where
  directory : after.held.directory = before.held.directory
  isOpen : after.held.isOpen = before.held.isOpen
  copy : after.held.copy = before.held.copy
  calls : after.user.2 = before.user.2

/-- The copy in use was made of a source by the working copy itself. -/
def Made (source : Option Path) (state : CopyState ρ) : Prop :=
  ∃ path copy tree copied, source = some path ∧ state.held.copy = some copy ∧
    WorkingCopy.copySource state.held.directory path tree = (some copy, copied)

/-- **If a copy is in use it was put to use just now**, and was made of the source. -/
structure Renews (before after : CopyState (ρ × List CopyCall)) : Prop where
  directory : after.held.directory = before.held.directory
  copy_isSome : after.held.copy.isSome = after.held.isOpen
  calls : ∃ more, after.user.2 = before.user.2 ++ more ∧ (after.held.isOpen = true → more ≠ [])
  made : after.held.isOpen = true → after.Made after.held.source

/-- Where a copy is in use there is a call more. -/
theorem Renews.calls_ne (h : before.Renews after) (hopen : after.held.isOpen = true) :
    after.user.2 ≠ before.user.2 := by
  obtain ⟨more, hmore, hne⟩ := h.calls
  rw [hmore]
  exact fun hsame => hne hopen (List.append_right_eq_self.mp hsame)

/-- What was given up may be replaced. -/
theorem Renews.trans {middle : CopyState (ρ × List CopyCall)} (h : before.Renews middle)
    (h' : middle.Renews after) : before.Renews after := by
  obtain ⟨first, hfirst, -⟩ := h.calls
  obtain ⟨second, hsecond, hne⟩ := h'.calls
  refine ⟨h'.directory.trans h.directory, h'.copy_isSome,
    ⟨first ++ second, ?_, fun hopen hnil => ?_⟩, h'.made⟩
  · rw [hsecond, hfirst, List.append_assoc]
  · exact hne hopen (List.append_eq_nil_iff.mp hnil).2

/-- Without a copy in use, entering renews. -/
theorem enter_renews (use : CopyUse ρ) (hopen : state.held.isOpen = false)
    (hcopy : state.held.copy = none) : state.Renews (state.enter use.noted).2 := by
  rcases enter_cases use.noted hopen hcopy with
    ⟨source, copy, files, user, hsource, hmade, hused, he⟩ | ⟨files, user, he, huser⟩
  · have hnotes : user.2 = state.user.2 ++ [.opened copy] := use.opened_notes hused
    rw [he]
    exact ⟨rfl, rfl, ⟨_, hnotes, fun _ => List.cons_ne_nil _ _⟩,
      fun _ => ⟨source, copy, state.files, files, hsource, rfl, hmade⟩⟩
  · have hnotes : user.2 = state.user.2 := by
      rcases huser with rfl | ⟨tried, copy, hrefused⟩
      · rfl
      · exact use.opened_notes hrefused
    rw [he]
    refine ⟨rfl, by rw [hcopy, hopen]; rfl, ⟨[], by rw [hnotes, List.append_nil], ?_⟩, ?_⟩
    · exact fun hnow => absurd (hopen.symm.trans hnow) Bool.false_ne_true
    · exact fun hnow => absurd (hopen.symm.trans hnow) Bool.false_ne_true

/-- What the user does not let go stays. -/
theorem leave_stays (hcopy : state.held.copy.isSome = state.held.isOpen)
    (hopen : state.held.isOpen = true)
    (hrefused : (use.closed state.files state.user.1).1 = false) :
    (state.leave use.noted).1 = false ∧ state.Stays (state.leave use.noted).2 ∧
      (state.leave use.noted).2.held.source = state.held.source := by
  obtain ⟨copy, hcopy⟩ := Option.isSome_iff_exists.mp (hcopy.trans hopen)
  rcases hclosed : use.noted.closed state.files state.user with ⟨done, user⟩
  obtain rfl : done = false := (congrArg Prod.fst hclosed).symm.trans hrefused
  rw [leave_of_refused hcopy hopen hclosed]
  exact ⟨rfl, ⟨rfl, rfl, rfl, use.closed_notes hclosed⟩, rfl⟩

/-- What it lets go is given up. -/
theorem leave_renews (use : CopyUse ρ) (hcopy : state.held.copy.isSome = state.held.isOpen)
    (hyields : state.held.isOpen = true → (use.closed state.files state.user.1).1 = true) :
    ∃ left, state.leave use.noted = (true, left) ∧ left.held.source = state.held.source ∧
      left.held.isOpen = false ∧ left.held.copy = none ∧ state.Renews left := by
  cases hopen : state.held.isOpen with
  | false =>
    have hnone := WorkingCopy.copy_eq_none hcopy hopen
    refine ⟨state, leave_of_no_copy hnone, rfl, hopen, hnone, rfl, hcopy,
      ⟨[], (List.append_nil _).symm, ?_⟩, ?_⟩
    · exact fun hnow => absurd (hopen.symm.trans hnow) Bool.false_ne_true
    · exact fun hnow => absurd (hopen.symm.trans hnow) Bool.false_ne_true
  | true =>
    obtain ⟨copy, hcopy⟩ := Option.isSome_iff_exists.mp (hcopy.trans hopen)
    rcases hclosed : use.noted.closed state.files state.user with ⟨done, user⟩
    obtain rfl : done = true := (congrArg Prod.fst hclosed).symm.trans (hyields hopen)
    have hnotes : user.2 = state.user.2 ++ [.closed] := use.closed_notes hclosed
    refine ⟨⟨{ state.held with copy := none, isOpen := false },
      (state.files.remove copy).getD state.files, user⟩, ?_, rfl, rfl, rfl, rfl, rfl,
      ⟨_, hnotes, nofun⟩, nofun⟩
    simp [leave, discard, hcopy, hopen, hclosed]

/-! ## 2. Operations -/

/-- A reload keeps the copy in use or renews it. -/
theorem reload_cases (use : CopyUse ρ) (hcopy : state.held.copy.isSome = state.held.isOpen) :
    (state.reload use.noted).2.held.source = state.held.source ∧
      (state.Keeps use .reload → state.Stays (state.reload use.noted).2) ∧
      (¬ state.Keeps use .reload → state.Renews (state.reload use.noted).2) := by
  cases hwanted : state.held.isWanted with
  | false =>
    -- nothing is done, so that what is in use is kept, and otherwise nothing is in use
    rw [reload_of_not_wanted hwanted]
    refine ⟨rfl, fun _ => ⟨rfl, rfl, rfl, rfl⟩, fun hkeeps => ?_⟩
    have hopen : state.held.isOpen = false := Bool.eq_false_iff.mpr fun hnow =>
      hkeeps ⟨hnow, fun hnow => absurd (hwanted.symm.trans hnow) Bool.false_ne_true⟩
    refine ⟨rfl, hcopy, ⟨[], (List.append_nil _).symm, ?_⟩, ?_⟩
    · exact fun hnow => absurd (hopen.symm.trans hnow) Bool.false_ne_true
    · exact fun hnow => absurd (hopen.symm.trans hnow) Bool.false_ne_true
  | true =>
    by_cases hkeeps : state.Keeps use .reload
    · obtain ⟨hanswer, hstays, hsource⟩ := leave_stays hcopy hkeeps.1 (hkeeps.2 hwanted)
      rw [reload_of_kept hwanted (Prod.ext hanswer rfl)]
      exact ⟨hsource, fun _ => hstays, fun hnot => absurd hkeeps hnot⟩
    · have hyields : state.held.isOpen = true →
          (use.closed state.files state.user.1).1 = true := by
        intro hopen
        cases hclosed : (use.closed state.files state.user.1).1 with
        | true => rfl
        | false => exact absurd ⟨hopen, fun _ => hclosed⟩ hkeeps
      obtain ⟨left, hleave, hsource, hopen, hnone, hrenews⟩ := leave_renews use hcopy hyields
      rw [reload_of_left hwanted hleave]
      refine ⟨?_, fun hnow => absurd hnow hkeeps, fun _ => ?_⟩
      · rw [(enter_keeps use.noted hrenews.copy_isSome).2.1, hsource]
      · exact hrenews.trans (enter_renews use hopen hnone)

/-- **An operation keeps the copy in use or renews it.** -/
theorem perform_cases (use : CopyUse ρ) (hcopy : state.held.copy.isSome = state.held.isOpen)
    (operation : Operation) :
    (state.perform use.noted operation).2.held.source = operation.target state.held.source ∧
      (state.Keeps use operation → state.Stays (state.perform use.noted operation).2) ∧
      (¬ state.Keeps use operation → state.Renews (state.perform use.noted operation).2) := by
  cases operation with
  | reload => exact reload_cases use hcopy
  | setSource source =>
    have hpointed : (state.pointed source).held.copy.isSome = (state.pointed source).held.isOpen :=
      hcopy
    obtain ⟨hsource, hstays, hrenews⟩ := reload_cases use hpointed
    refine ⟨hsource, fun hkeeps => ?_, fun hkeeps => ?_⟩
    · obtain ⟨hdirectory, hopen, hcopy, hcalls⟩ := hstays hkeeps
      exact ⟨hdirectory, hopen, hcopy, hcalls⟩
    · obtain ⟨hdirectory, hcopy, hcalls, hmade⟩ := hrenews hkeeps
      exact ⟨hdirectory, hcopy, hcalls, hmade⟩
  | openCopy =>
    have hwished : (state.want true).held.copy.isSome = (state.want true).held.isOpen := hcopy
    have hsource := (enter_keeps use.noted hwished).2.1
    refine ⟨hsource, fun hkeeps => ?_, fun hkeeps => ?_⟩
    · have hopen : (state.want true).held.isOpen = true := hkeeps.1
      rw [perform, openCopy, enter_of_isOpen hopen]
      exact ⟨rfl, rfl, rfl, rfl⟩
    · have hopen : (state.want true).held.isOpen = false :=
        Bool.eq_false_iff.mpr fun hnow => hkeeps ⟨hnow, trivial⟩
      obtain ⟨hdirectory, hcopy, hcalls, hmade⟩ :=
        enter_renews use hopen (WorkingCopy.copy_eq_none hcopy hopen)
      exact ⟨hdirectory, hcopy, hcalls, hmade⟩
  | closeCopy =>
    have hunwished : (state.want false).held.copy.isSome = (state.want false).held.isOpen := hcopy
    by_cases hkeeps : state.Keeps use .closeCopy
    · obtain ⟨-, ⟨hdirectory, hopen, hcopy, hcalls⟩, hsource⟩ :=
        leave_stays hunwished hkeeps.1 hkeeps.2
      exact ⟨hsource, fun _ => ⟨hdirectory, hopen, hcopy, hcalls⟩, fun hnot => absurd hkeeps hnot⟩
    · have hyields : (state.want false).held.isOpen = true →
          (use.closed state.files state.user.1).1 = true := by
        intro hopen
        cases hclosed : (use.closed state.files state.user.1).1 with
        | true => rfl
        | false => exact absurd ⟨hopen, hclosed⟩ hkeeps
      obtain ⟨left, hleave, hsource, -, -, ⟨hdirectory, hcopy, hcalls, hmade⟩⟩ :=
        leave_renews use hunwished hyields
      rw [perform, closeCopy, hleave]
      exact ⟨hsource, fun hnow => absurd hnow hkeeps, fun _ => ⟨hdirectory, hcopy, hcalls, hmade⟩⟩

end CopyState

/-! ## 3. Runs -/

/-- A working copy in the course of its life, with what its copy was made from. -/
structure SourcedCopy (ρ : Type) where
  state : CopyState (ρ × List CopyCall)
  /-- The source when the copy in use was put to use. -/
  origin : Option Path

namespace SourcedCopy

/-- No source yet, no copy and no calls. -/
def start (directory : Path) (files : FileTree) (user : ρ) : SourcedCopy ρ :=
  ⟨⟨.start directory, files, user, []⟩, none⟩

/-- An operation; if a call of the user succeeds, the source is remembered. -/
def perform (use : CopyUse ρ) (operation : CopyState.Operation) (run : SourcedCopy ρ) :
    Bool × SourcedCopy ρ :=
  let (answer, after) := run.state.perform use.noted operation
  (answer,
    { state := after
      origin := if after.user.2 = run.state.user.2 then run.origin else after.held.source })

/-- The files have changed, and the user has changed for reasons of its own. -/
def meanwhile (files : FileTree) (user : ρ) (run : SourcedCopy ρ) : SourcedCopy ρ :=
  { run with state := { run.state with files := files, user := (user, run.state.user.2) } }

/-- **Runs**: operations in any order, between which anything may happen to the files and the
user. -/
inductive Reached (use : CopyUse ρ) : SourcedCopy ρ → Prop where
  | start (directory : Path) (files : FileTree) (user : ρ) :
      Reached use (.start directory files user)
  | performed {run : SourcedCopy ρ} (operation : CopyState.Operation) : Reached use run →
      Reached use (run.perform use operation).2
  | meanwhile {run : SourcedCopy ρ} (files : FileTree) (user : ρ) : Reached use run →
      Reached use (run.meanwhile files user)

variable {use : CopyUse ρ} {run : SourcedCopy ρ}

/-- **While a copy is in use it was made from the source.** -/
def Faithful (run : SourcedCopy ρ) : Prop :=
  run.state.held.isOpen = true → run.state.held.source = run.origin

/-- What is known of every run: a copy is held while it is in use, and it was made of its
origin. -/
structure Sound (run : SourcedCopy ρ) : Prop where
  copy_isSome : run.state.held.copy.isSome = run.state.held.isOpen
  made : run.state.held.isOpen = true → run.state.Made run.origin

/-- A copy that an operation keeps has the origin that it had, -/
theorem perform_kept (h : run.Sound) {operation : CopyState.Operation}
    (hkeeps : run.state.Keeps use operation) :
    run.state.Stays (run.perform use operation).2.state ∧
      (run.perform use operation).2.origin = run.origin := by
  obtain ⟨-, hstays, -⟩ := CopyState.perform_cases use h.copy_isSome operation
  exact ⟨hstays hkeeps, if_pos (hstays hkeeps).calls⟩

/-- and one that is in use afterwards though it was not kept has the source for it. -/
theorem perform_renewed (h : run.Sound) {operation : CopyState.Operation}
    (hkeeps : ¬ run.state.Keeps use operation) :
    run.state.Renews (run.perform use operation).2.state ∧
      (run.perform use operation).2.Faithful := by
  obtain ⟨-, -, hrenews⟩ := CopyState.perform_cases use h.copy_isSome operation
  exact ⟨hrenews hkeeps, fun hopen => (if_neg ((hrenews hkeeps).calls_ne hopen)).symm⟩

/-- **Every operation keeps that.** -/
theorem Sound.perform (use : CopyUse ρ) (h : run.Sound) (operation : CopyState.Operation) :
    (run.perform use operation).2.Sound := by
  by_cases hkeeps : run.state.Keeps use operation
  · obtain ⟨hstays, horigin⟩ := perform_kept h hkeeps
    refine ⟨by rw [hstays.copy, hstays.isOpen, h.copy_isSome], fun hopen => ?_⟩
    obtain ⟨path, copy, tree, copied, hpath, hcopy, hmade⟩ := h.made (hstays.isOpen ▸ hopen)
    exact ⟨path, copy, tree, copied, horigin.trans hpath, hstays.copy.trans hcopy,
      hstays.directory ▸ hmade⟩
  · obtain ⟨hrenews, hfaithful⟩ := perform_renewed h hkeeps
    exact ⟨hrenews.copy_isSome, fun hopen => hfaithful hopen ▸ hrenews.made hopen⟩

theorem Reached.sound (h : Reached use run) : run.Sound := by
  induction h with
  | start directory files user => exact ⟨rfl, nofun⟩
  | performed operation _ ih => exact ih.perform use operation
  | meanwhile files user _ ih => exact ⟨ih.copy_isSome, ih.made⟩

/-- **The source is the origin after an operation**, unless that has kept the copy in use and has
pointed elsewhere; and the origin is what the copy in use was made of. -/
theorem Reached.names_origin_iff (h : Reached use run) (operation : CopyState.Operation) :
    ((run.perform use operation).2.Faithful ↔
      ¬ (run.state.Keeps use operation ∧ operation.target run.state.held.source ≠ run.origin)) ∧
    ((run.perform use operation).2.state.held.isOpen = true →
      (run.perform use operation).2.state.Made (run.perform use operation).2.origin) := by
  have hsound := h.sound
  refine ⟨?_, (hsound.perform use operation).made⟩
  by_cases hkeeps : run.state.Keeps use operation
  · obtain ⟨hstays, horigin⟩ := perform_kept hsound hkeeps
    obtain ⟨hsource, -⟩ := CopyState.perform_cases use hsound.copy_isSome operation
    have hopen : (run.perform use operation).2.state.held.isOpen = true :=
      hstays.isOpen.trans hkeeps.1
    have hfaithful : (run.perform use operation).2.Faithful ↔
        operation.target run.state.held.source = run.origin := by
      rw [← hsource, ← horigin]
      exact ⟨fun hnow => hnow hopen, fun hsame _ => hsame⟩
    simp [hfaithful, hkeeps]
  · simp [(perform_renewed hsound hkeeps).2, hkeeps]

/-- Two sources beside an empty directory for copies. -/
def besideTwo : FileTree where
  entries := [(["work"], .directory 0o755), (["a.so"], .file 0o755 (.octets [1])),
    (["b.so"], .file 0o755 (.octets [2]))]
  here := []

/-- The first source is put to use, and its user will not let go. -/
def clinging : SourcedCopy CopyWitness :=
  let run := ((start ⟨"/work"⟩ besideTwo .start).perform CopyWitness.use
    (.setSource (some ⟨"/a.so"⟩))).2
  (run.perform CopyWitness.use .openCopy).2.meanwhile
    (run.perform CopyWitness.use .openCopy).2.state.files ⟨false, true, []⟩

/-- The second source is asked for in vain; from now on the user would let go. -/
def pointedAway : SourcedCopy CopyWitness :=
  let run := (clinging.perform CopyWitness.use (.setSource (some ⟨"/b.so"⟩))).2
  run.meanwhile run.state.files .start

theorem pointedAway_reached : Reached CopyWitness.use pointedAway := by
  have hstart : Reached CopyWitness.use (start ⟨"/work"⟩ besideTwo CopyWitness.start) :=
    .start _ _ _
  have hclinging : Reached CopyWitness.use clinging :=
    ((hstart.performed _).performed _).meanwhile _ _
  exact (hclinging.performed _).meanwhile _ _

/-- **A source that could not be swapped to is named all the same**, though the copy in use is still
that of the other one. -/
theorem refused_swap_points_away :
    Reached CopyWitness.use pointedAway ∧ pointedAway.state.held.isOpen = true ∧
      pointedAway.state.held.source = some ⟨"/b.so"⟩ ∧ pointedAway.origin = some ⟨"/a.so"⟩ ∧
      pointedAway.state.held.copy = some ⟨"/work/locked.a.so"⟩ ∧
      pointedAway.state.files.content? ⟨"/work/locked.a.so"⟩ = some (.octets [1]) ∧
      pointedAway.state.files.content? ⟨"/b.so"⟩ = some (.octets [2]) :=
  ⟨pointedAway_reached, by decide +kernel, by decide +kernel, by decide +kernel, by decide +kernel,
    by decide +kernel, by decide +kernel⟩

/-- Asking for use again does not mend that, but a reload does. -/
theorem pointedAway_reloads :
    Reached CopyWitness.use pointedAway ∧
      ¬ (pointedAway.perform CopyWitness.use .openCopy).2.Faithful ∧
      (pointedAway.perform CopyWitness.use .reload).2.Faithful ∧
      (pointedAway.perform CopyWitness.use .reload).2.origin = some ⟨"/b.so"⟩ := by
  have hopen : pointedAway.state.held.isOpen = true := by decide +kernel
  have hwanted : pointedAway.state.held.isWanted = true := by decide +kernel
  refine ⟨pointedAway_reached, fun hfaithful => ?_, ?_, by decide +kernel⟩
  · exact (pointedAway_reached.names_origin_iff .openCopy).1.mp hfaithful
      ⟨⟨hopen, trivial⟩, by decide +kernel⟩
  · refine (pointedAway_reached.names_origin_iff .reload).1.mpr ?_
    rintro ⟨⟨-, hrefused⟩, -⟩
    exact absurd (hrefused hwanted) (by decide +kernel)

end SourcedCopy

end RenderSync
