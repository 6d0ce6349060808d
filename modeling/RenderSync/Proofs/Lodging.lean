import RenderSync.Proofs.CopyOrigin
import RenderSync.Proofs.SharedRooms

/-!
# A working copy among others

In a directory for copies there may be those of others.  `CopyState.making?` is the copy that an
operation makes, and `CopyState.Lodged` is what one party knows of the directory: its own copy is
inside, with the content that it had when it was put to use (`CopyUse.remembering`), and so are the
copies of others.

An operation concerns the name of its own copy and the name of the copy that it makes, and no other
(`Lodged.perform_of_not_making`, `Lodged.perform_of_making`).
-/

namespace RenderSync

variable {ρ : Type}

/-! ## 1. What was in a copy -/

/-- The same use, by a user who remembers what was in the copy that was put to use last. -/
def CopyUse.remembering (use : CopyUse ρ) : CopyUse (ρ × Option Content) where
  opened files copy user :=
    let (done, later) := use.opened files copy user.1
    (done, later, if done then files.content? copy else user.2)
  closed files user :=
    let (done, later) := use.closed files user.1
    (done, later, user.2)

/-- Remembering makes no difference. -/
theorem CopyUse.remembering_forgets (use : CopyUse ρ) : use.remembering.Forgets use Prod.fst where
  opened _ _ _ := rfl
  closed _ _ := rfl

/-- A user who remembers is served like one who does not. -/
theorem CopyState.perform_remembering (use : CopyUse ρ) (operation : CopyState.Operation)
    (state : CopyState (ρ × Option Content)) :
    (state.map Prod.fst).perform use operation =
      ((state.perform use.remembering operation).1,
        (state.perform use.remembering operation).2.map Prod.fst) :=
  perform_map use.remembering_forgets operation state

theorem CopyUse.opened_remembers (use : CopyUse ρ) {files : FileTree} {copy : Path}
    {user later : ρ × Option Content} {done : Bool}
    (h : use.remembering.opened files copy user = (done, later)) :
    later.2 = if done then files.content? copy else user.2 := by
  cases h
  rfl

theorem CopyUse.closed_remembers (use : CopyUse ρ) {files : FileTree}
    {user later : ρ × Option Content} {done : Bool}
    (h : use.remembering.closed files user = (done, later)) : later.2 = user.2 := by
  cases h
  rfl

namespace CopyState

/-! ## 2. The copy that an operation makes -/

/-- The copy that entering makes, and the files then. -/
def made? (state : CopyState ρ) : Option (Path × FileTree) :=
  state.held.source.bind fun source =>
    match WorkingCopy.copySource state.held.directory source state.files with
    | (some copy, files) => some (copy, files)
    | (none, _) => none

/-- The state from which a reload enters anew, if it does. -/
def reentrance? (use : CopyUse ρ) (state : CopyState ρ) : Option (CopyState ρ) :=
  if !state.held.isWanted then none
  else
    match state.leave use with
    | (true, left) => some left
    | (false, _) => none

/-- The state from which an operation enters anew, if it does. -/
def entrance? (use : CopyUse ρ) (operation : Operation) (state : CopyState ρ) :
    Option (CopyState ρ) :=
  match operation with
  | .openCopy => if state.held.isOpen then none else some (state.want true)
  | .closeCopy => none
  | .reload => state.reentrance? use
  | .setSource source => (state.pointed source).reentrance? use

/-- **The copy that an operation makes**, with the files and the user to whom it is given. -/
def making? (use : CopyUse ρ) (operation : Operation) (state : CopyState ρ) :
    Option (Path × FileTree × ρ) :=
  (state.entrance? use operation).bind fun entering =>
    entering.made?.map fun (copy, files) => (copy, files, entering.user)

/-- Leaving keeps the directory and the source. -/
theorem leave_held (use : CopyUse ρ) (state : CopyState ρ) :
    (state.leave use).2.held.directory = state.held.directory ∧
      (state.leave use).2.held.source = state.held.source := by
  have hdiscard : ∀ state : CopyState ρ, state.discard.held.directory = state.held.directory ∧
      state.discard.held.source = state.held.source := by
    intro state
    unfold discard
    split <;> exact ⟨rfl, rfl⟩
  unfold leave
  split
  · exact ⟨rfl, rfl⟩
  · split
    · exact hdiscard state
    · split
      · exact hdiscard _
      · exact ⟨rfl, rfl⟩

theorem reentrance?_held {use : CopyUse ρ} {state entering : CopyState ρ}
    (h : state.reentrance? use = some entering) :
    entering.held.directory = state.held.directory ∧ entering.held.source = state.held.source := by
  unfold reentrance? at h
  split at h
  · cases h
  · have hleft := leave_held use state
    split at h
    · next left hleave =>
      rw [hleave] at hleft
      cases h
      exact hleft
    · cases h

/-- **The copy that an operation makes** is one of the source that it leaves behind, and has its
name. -/
theorem making?_name {use : CopyUse ρ} {operation : Operation} {state : CopyState ρ} {copy : Path}
    {files : FileTree} {user : ρ} (h : state.making? use operation = some (copy, files, user)) :
    ∃ source name, operation.target state.held.source = some source ∧
      WorkingCopy.nameFor? source = some name ∧ copy = state.held.directory.join ⟨name⟩ := by
  obtain ⟨entering, hentrance, hentered⟩ := Option.bind_eq_some_iff.mp h
  have hheld : entering.held.directory = state.held.directory ∧
      entering.held.source = operation.target state.held.source := by
    cases operation with
    | setSource source => exact reentrance?_held hentrance
    | reload => exact reentrance?_held hentrance
    | openCopy =>
      unfold entrance? at hentrance
      dsimp only at hentrance
      split at hentrance
      · cases hentrance
      · cases hentrance
        exact ⟨rfl, rfl⟩
    | closeCopy => cases hentrance
  obtain ⟨⟨made, after⟩, hmade, heq⟩ := Option.map_eq_some_iff.mp hentered
  cases heq
  obtain ⟨source, hsource, hcopied⟩ := Option.bind_eq_some_iff.mp hmade
  rw [hheld.1] at hcopied
  rw [hheld.2] at hsource
  split at hcopied
  · next made after heq =>
    cases hcopied
    obtain ⟨hnone, -⟩ | ⟨name, ready, hcopy, -, hname, -, -⟩ := WorkingCopy.copySource_cases heq
    · cases hnone
    · exact ⟨source, name, hsource, hname, Option.some.inj hcopy⟩
  · cases hcopied

/-! ## 3. One party among others -/

open FileTree

/-- **What one party knows of the directory**: what is inside, and under which name its own copy. -/
structure Lodged (directory : Path) (inside : String → Option Content) (used : Option String)
    (state : CopyState (ρ × Option Content)) : Prop where
  place : state.held.directory = directory
  isOpen : state.held.isOpen = used.isSome
  copy : state.held.copy = used.map fun name => directory.join ⟨name⟩
  remembered : ∀ name, used = some name → ∃ content,
    inside name = some content ∧ state.user.2 = some content
  houses : state.files.Houses directory inside

variable {use : CopyUse ρ} {directory : Path} {inside : String → Option Content}
  {used : Option String} {state : CopyState (ρ × Option Content)}

theorem Lodged.copy_isSome (h : state.Lodged directory inside used) :
    state.held.copy.isSome = state.held.isOpen := by
  rw [h.copy, h.isOpen, Option.isSome_map]

/-- Without a copy in use there is nothing to be remembered. -/
theorem Lodged.unused (hplace : state.held.directory = directory)
    (hopen : state.held.isOpen = false) (hcopy : state.held.copy = none)
    (hhouses : state.files.Houses directory inside) : state.Lodged directory inside none :=
  ⟨hplace, hopen, hcopy, fun _ h => absurd h (Option.some_ne_none _).symm, hhouses⟩

theorem Lodged.want (h : state.Lodged directory inside used) (wanted : Bool) :
    (state.want wanted).Lodged directory inside used :=
  ⟨h.place, h.isOpen, h.copy, h.remembered, h.houses⟩

theorem Lodged.pointed (h : state.Lodged directory inside used) (source : Option Path) :
    (state.pointed source).Lodged directory inside used :=
  ⟨h.place, h.isOpen, h.copy, h.remembered, h.houses⟩

/-- **Leaving** concerns no name but that of the copy that is in use. -/
theorem Lodged.leave (use : CopyUse ρ) (h : state.Lodged directory inside used) :
    (∃ left remaining, state.leave use.remembering = (true, left) ∧
      left.Lodged directory remaining none ∧
      ∀ name, used ≠ some name → remaining name = inside name) ∨
    ∃ kept, state.leave use.remembering = (false, kept) ∧ kept.Lodged directory inside used := by
  cases used with
  | none =>
    rw [leave_of_no_copy h.copy]
    exact Or.inl ⟨state, inside, rfl, h, fun _ _ => rfl⟩
  | some name =>
    rcases hclosed : use.remembering.closed state.files state.user with ⟨_ | _, user⟩
    · rw [leave_of_refused h.copy h.isOpen hclosed]
      refine Or.inr ⟨_, rfl, h.place, h.isOpen, h.copy, fun name hname => ?_, h.houses⟩
      rw [show user.2 = state.user.2 from use.closed_remembers hclosed]
      exact h.remembered name hname
    · obtain ⟨content, hinside, -⟩ := h.remembered name rfl
      obtain ⟨files, hremoved, hhouses⟩ := h.houses.remove hinside
      rw [leave_of_released h.copy h.isOpen hclosed hremoved]
      refine Or.inl ⟨_, _, rfl, .unused h.place rfl rfl hhouses, fun other hother => ?_⟩
      rw [changed, if_neg fun hsame => hother (congrArg some hsame.symm)]

/-- Entering changes nothing inside where it makes no copy. -/
theorem Lodged.enter_of_not_made (use : CopyUse ρ) (h : state.Lodged directory inside none)
    (hmade : state.made? = none) :
    (state.enter use.remembering).2.Lodged directory inside none := by
  have hopen : state.held.isOpen = false := h.isOpen
  cases hsource : state.held.source with
  | none =>
    rw [enter_of_no_source hopen hsource]
    exact h
  | some source =>
    rcases hcopied : WorkingCopy.copySource state.held.directory source state.files with
      ⟨_ | copy, files⟩
    · have hhouses := h.place ▸ h.houses
      rw [CopyState.enter_of_not_made hopen h.copy hsource hcopied]
      exact .unused h.place hopen h.copy (h.place ▸ hhouses.copySource_none hcopied)
    · simp [made?, hsource, hcopied] at hmade

/-- **A copy that entering makes** is inside under its name if its user takes it, and otherwise
nothing is under that name. -/
theorem Lodged.enter_of_made (use : CopyUse ρ) (h : state.Lodged directory inside none)
    {copy : Path} {files : FileTree} (hmade : state.made? = some (copy, files)) :
    ∃ name, Path.IsName name ∧ copy = directory.join ⟨name⟩ ∧
      ((use.remembering.opened files copy state.user).1 = true ∧
          (state.enter use.remembering).2.Lodged directory
            (changed inside name (files.content? copy)) (some name) ∨
        (use.remembering.opened files copy state.user).1 = false ∧
          (state.enter use.remembering).2.Lodged directory (changed inside name none) none) := by
  have hopen : state.held.isOpen = false := h.isOpen
  obtain ⟨source, hsource, hcopied⟩ := Option.bind_eq_some_iff.mp hmade
  replace hcopied :
      WorkingCopy.copySource state.held.directory source state.files = (some copy, files) := by
    split at hcopied
    · next heq => simpa [heq] using hcopied
    · cases hcopied
  have hhouses := h.place ▸ h.houses
  obtain ⟨name, content, -, hname, hcopy, -, hnow⟩ := hhouses.copySource_some hcopied
  rw [h.place] at hcopy hnow
  have hinside : changed inside name (some content) name = some content := if_pos rfl
  have hcontent : files.content? copy = some content := by
    rw [hcopy, hnow.content? hname, hinside]
  refine ⟨name, hname, hcopy, ?_⟩
  rcases hopened : use.remembering.opened files copy state.user with ⟨_ | _, user⟩
  · obtain ⟨after, hremoved, hafter⟩ := hnow.remove hinside
    have hchanged : changed (changed inside name (some content)) name none =
        changed inside name none := by
      funext other
      simp only [changed]
      split <;> rfl
    rw [← hcopy] at hremoved
    rw [enter_of_refused hopen h.copy hsource hcopied hopened, hremoved]
    exact Or.inr ⟨rfl, .unused h.place hopen h.copy (hchanged ▸ hafter)⟩
  · have hremembered : user.2 = files.content? copy := use.opened_remembers hopened
    rw [enter_eq hopen h.copy hsource hcopied hopened, hcontent]
    refine Or.inl ⟨rfl, h.place, rfl, congrArg some hcopy, fun other hother => ?_, hnow⟩
    obtain rfl := Option.some.inj hother
    exact ⟨content, hinside, hremembered.trans hcontent⟩

/-! ## 4. Operations -/

/-- Where a reload does not enter anew, its own copy stays or nothing comes of leaving it. -/
theorem Lodged.reload_of_none (use : CopyUse ρ) (h : state.Lodged directory inside used)
    (hentrance : state.reentrance? use.remembering = none) :
    (state.reload use.remembering).2.Lodged directory inside used := by
  cases hwanted : state.held.isWanted with
  | false =>
    rw [reload_of_not_wanted hwanted]
    exact h
  | true =>
    rcases h.leave use with ⟨left, -, hleave, -⟩ | ⟨kept, hleave, hkept⟩
    · simp [reentrance?, hwanted, hleave] at hentrance
    · rw [reload_of_kept hwanted hleave]
      exact hkept

/-- Where it does, its own copy is gone, and all else is as before. -/
theorem Lodged.reload_of_some (use : CopyUse ρ) (h : state.Lodged directory inside used)
    {entering : CopyState (ρ × Option Content)}
    (hentrance : state.reentrance? use.remembering = some entering) :
    state.reload use.remembering = entering.enter use.remembering ∧
      ∃ remaining, entering.Lodged directory remaining none ∧
        ∀ name, used ≠ some name → remaining name = inside name := by
  cases hwanted : state.held.isWanted with
  | false => simp [reentrance?, hwanted] at hentrance
  | true =>
    rcases h.leave use with ⟨left, remaining, hleave, hleft, hsame⟩ | ⟨kept, hleave, -⟩
    · obtain rfl : left = entering := by simpa [reentrance?, hwanted, hleave] using hentrance
      exact ⟨reload_of_left hwanted hleave, remaining, hleft, hsame⟩
    · simp [reentrance?, hwanted, hleave] at hentrance

/-- **An operation that does not enter anew** concerns no name but that of the copy in use. -/
theorem Lodged.perform_of_none (use : CopyUse ρ) (h : state.Lodged directory inside used)
    {operation : Operation} (hentrance : state.entrance? use.remembering operation = none) :
    ∃ later remaining,
      (state.perform use.remembering operation).2.Lodged directory remaining later ∧
      (later = used ∨ later = none) ∧ ∀ name, used ≠ some name → remaining name = inside name := by
  cases operation with
  | setSource source =>
    exact ⟨used, inside, (h.pointed source).reload_of_none use hentrance, Or.inl rfl,
      fun _ _ => rfl⟩
  | reload => exact ⟨used, inside, h.reload_of_none use hentrance, Or.inl rfl, fun _ _ => rfl⟩
  | openCopy =>
    have hopen : (state.want true).held.isOpen = true := by
      cases hopen : state.held.isOpen with
      | true => exact hopen
      | false => simp [entrance?, hopen] at hentrance
    rw [perform, openCopy, enter_of_isOpen hopen]
    exact ⟨used, inside, h.want true, Or.inl rfl, fun _ _ => rfl⟩
  | closeCopy =>
    rw [perform, closeCopy]
    rcases (h.want false).leave use with
      ⟨left, remaining, hleave, hleft, hsame⟩ | ⟨kept, hleave, hkept⟩
    · rw [hleave]
      exact ⟨none, remaining, hleft, Or.inr rfl, hsame⟩
    · rw [hleave]
      exact ⟨used, inside, hkept, Or.inl rfl, fun _ _ => rfl⟩

/-- **One that does** has given up the copy in use, if there was one. -/
theorem Lodged.perform_of_some (use : CopyUse ρ) (h : state.Lodged directory inside used)
    {operation : Operation} {entering : CopyState (ρ × Option Content)}
    (hentrance : state.entrance? use.remembering operation = some entering) :
    state.perform use.remembering operation = entering.enter use.remembering ∧
      ∃ remaining, entering.Lodged directory remaining none ∧
        ∀ name, used ≠ some name → remaining name = inside name := by
  cases operation with
  | setSource source => exact (h.pointed source).reload_of_some use hentrance
  | reload => exact h.reload_of_some use hentrance
  | openCopy =>
    cases hopen : state.held.isOpen with
    | true => simp [entrance?, hopen] at hentrance
    | false =>
      obtain rfl : state.want true = entering := by simpa [entrance?, hopen] using hentrance
      have hnone : used = none := by
        have hused := h.isOpen
        rw [hopen] at hused
        exact Option.isNone_iff_eq_none.mp (Option.isSome_eq_false_iff.mp hused.symm)
      subst hnone
      exact ⟨rfl, inside, h.want true, fun _ _ => rfl⟩
  | closeCopy => cases hentrance

/-- **An operation that makes no copy** concerns no name but that of the copy in use. -/
theorem Lodged.perform_of_not_making (use : CopyUse ρ) (h : state.Lodged directory inside used)
    {operation : Operation} (hmaking : state.making? use.remembering operation = none) :
    ∃ later remaining,
      (state.perform use.remembering operation).2.Lodged directory remaining later ∧
      (later = used ∨ later = none) ∧ ∀ name, used ≠ some name → remaining name = inside name := by
  cases hentrance : state.entrance? use.remembering operation with
  | none => exact h.perform_of_none use hentrance
  | some entering =>
    obtain ⟨heq, remaining, hentering, hsame⟩ := h.perform_of_some use hentrance
    have hmade : entering.made? = none := by
      rw [making?, hentrance, Option.bind_some] at hmaking
      exact Option.map_eq_none_iff.mp hmaking
    rw [heq]
    exact ⟨none, remaining, hentering.enter_of_not_made use hmade, Or.inr rfl, hsame⟩

/-- **One that makes a copy** concerns also the name of that, under which the copy is if its user
takes it, and nothing otherwise. -/
theorem Lodged.perform_of_making (use : CopyUse ρ) (h : state.Lodged directory inside used)
    {operation : Operation} {copy : Path} {files : FileTree} {user : ρ × Option Content}
    (hmaking : state.making? use.remembering operation = some (copy, files, user)) :
    ∃ name later remaining, Path.IsName name ∧ copy = directory.join ⟨name⟩ ∧
      (state.perform use.remembering operation).2.Lodged directory remaining later ∧
      (∀ other, other ≠ name → used ≠ some other → remaining other = inside other) ∧
      ((use.remembering.opened files copy user).1 = true ∧ later = some name ∧
          remaining name = files.content? copy ∨
        (use.remembering.opened files copy user).1 = false ∧ later = none ∧
          remaining name = none) := by
  obtain ⟨entering, hentrance, hentered⟩ := Option.bind_eq_some_iff.mp hmaking
  obtain ⟨⟨copy', files'⟩, hmade, heq⟩ := Option.map_eq_some_iff.mp hentered
  cases heq
  obtain ⟨hperform, remaining, hentering, hsame⟩ := h.perform_of_some use hentrance
  obtain ⟨name, hname, hcopy, hafter⟩ := hentering.enter_of_made use hmade
  have hothers : ∀ content other, other ≠ name → used ≠ some other →
      changed remaining name content other = inside other := by
    intro content other hother hused
    rw [changed, if_neg hother, hsame other hused]
  rw [hperform]
  rcases hafter with ⟨htaken, hafter⟩ | ⟨hrefused, hafter⟩
  · exact ⟨name, _, _, hname, hcopy, hafter, hothers _, Or.inl ⟨htaken, rfl, if_pos rfl⟩⟩
  · exact ⟨name, _, _, hname, hcopy, hafter, hothers _, Or.inr ⟨hrefused, rfl, if_pos rfl⟩⟩

end CopyState

end RenderSync
