import RenderSync.Proofs.WorkingCopy
import RenderSync.Reconciler.Basic

/-!
# The library step of a pass, over one working copy

The library step knows a library only through three operations and what it says of itself, so it
is the same for every working copy whose user lets go: `copyControls` makes a library of one, for
any use.  What the step comes to depends on four things: whether the copy is in use, whether that
is wanted of it still, whether its source is the path that is wanted now, and what is wanted now.
The equations of section 2 go through all of them.

Two facts are read off them.  A step leaves the path as it is wanted (`libraryStep_path`); and if
it succeeds it leaves the copy in use exactly where that is wanted, with one exception
(`libraryStep_isOpen`).  The exception is a *stray wish*: nothing is in
use, nothing shall be, but an earlier attempt that failed has left the wish behind, and now the
path changes.  Pointing the copy to the new path then puts that to use.  The step after it finds
the path settled and gives the copy up (`libraryStep_again`).
-/

namespace RenderSync

variable {ρ : Type}

/-- A working copy as the library of a pass.  There is no server. -/
def copyControls (use : CopyUse ρ) : ResourceControls (CopyState ρ) where
  library state := ⟨state.held.isOpen, state.held.source⟩
  setPath := CopyState.setSource use
  load := CopyState.openCopy use
  unload := CopyState.closeCopy use
  server _ := ⟨false, none⟩
  connect _ state := (.ok (), state)
  disconnect state := state

/-- The library step over one working copy. -/
def libraryStep (use : CopyUse ρ) (wanted : LibraryDesired) :
    CopyState ρ → Except ReconcileError Unit × CopyState ρ :=
  (copyControls use).matchLibrary wanted

namespace WorkingCopy

/-- The source is the path that is wanted. -/
def pointsTo (path : Option Path) (held : WorkingCopy) : Bool := Path.sameOption held.source path

/-- What a load is made from: the path that is wanted, but in the writing that was there before if
that leads to the same place. -/
def sourceFor (path : Option Path) (held : WorkingCopy) : Option Path :=
  if held.pointsTo path then held.source else path

/-- **A stray wish**: nothing is in use, but it is wanted still, and the path will change. -/
structure Strays (path : Option Path) (held : WorkingCopy) : Prop where
  isOpen : held.isOpen = false
  isWanted : held.isWanted = true
  moves : held.pointsTo path = false

instance (path : Option Path) (held : WorkingCopy) : Decidable (held.Strays path) :=
  decidable_of_iff (held.isOpen = false ∧ held.isWanted = true ∧ held.pointsTo path = false)
    ⟨fun ⟨hopen, hwanted, hmoves⟩ => ⟨hopen, hwanted, hmoves⟩,
      fun h => ⟨h.isOpen, h.isWanted, h.moves⟩⟩

end WorkingCopy

namespace CopyState

variable {use : CopyUse ρ} {state : CopyState ρ} {wanted : LibraryDesired}

/-! ## 1. The parts of the step -/

/-- A load that was tried, as the result of a step. -/
def reported (path : Option Path) (tried : Bool × CopyState ρ) :
    Except ReconcileError Unit × CopyState ρ :=
  (if tried.1 then .ok () else .error (.libraryLoad (path.getD ⟨""⟩)), tried.2)

@[simp] theorem reported_true (path : Option Path) (state : CopyState ρ) :
    reported path (true, state) = (.ok (), state) := rfl

/-- A reported load is right exactly if it was done. -/
theorem reported_ok_iff {path : Option Path} {tried : Bool × CopyState ρ} :
    (reported path tried).1 = .ok () ↔ tried.1 = true := by
  obtain ⟨_ | _, state⟩ := tried
  · exact ⟨nofun, nofun⟩
  · exact ⟨fun _ => rfl, fun _ => rfl⟩

theorem matchUnloaded_of_unwanted (hwanted : wanted.loaded = false)
    (hopen : state.held.isOpen = true) (hyield : ∀ files user, (use.closed files user).1 = true)
    (hcopy : state.held.copy.isSome = state.held.isOpen) :
    (copyControls use).matchUnloaded wanted state = (.ok (), (state.want false).left use) := by
  have hclose : (copyControls use).unload state = (true, (state.want false).left use) :=
    closeCopy_eq state hyield hcopy
  have hloaded : ((copyControls use).library state).loaded = true := hopen
  simp [ResourceControls.matchUnloaded, hclose, hloaded, hwanted]

theorem matchUnloaded_of_closed (hopen : state.held.isOpen = false) :
    (copyControls use).matchUnloaded wanted state = (.ok (), state) := by
  have hloaded : ((copyControls use).library state).loaded = false := hopen
  simp [ResourceControls.matchUnloaded, hloaded]

theorem matchUnloaded_of_wanted (hwanted : wanted.loaded = true) :
    (copyControls use).matchUnloaded wanted state = (.ok (), state) := by
  simp [ResourceControls.matchUnloaded, hwanted]

theorem matchPath_of_same (hsame : state.held.pointsTo wanted.path = true) :
    (copyControls use).matchPath wanted state = (.ok (), state) := if_pos hsame

theorem matchPath_of_moves (use : CopyUse ρ) (hmoves : state.held.pointsTo wanted.path = false) :
    (copyControls use).matchPath wanted state =
      reported wanted.path (state.setSource use wanted.path) := by
  have hset : (copyControls use).setPath wanted.path state =
      state.setSource use wanted.path := rfl
  have hpath : Path.sameOption ((copyControls use).library state).path wanted.path = false := hmoves
  rcases htried : state.setSource use wanted.path with ⟨_ | _, tried⟩ <;> rw [htried] at hset
  · simp [ResourceControls.matchPath, hpath, hset, reported]
  · simp [ResourceControls.matchPath, hpath, hset]

theorem matchLoaded_of_done (hdone : wanted.loaded = state.held.isOpen ∨ wanted.loaded = false ∨
    wanted.path = none) : (copyControls use).matchLoaded wanted state = (.ok (), state) := by
  have hloaded : ((copyControls use).library state).loaded = state.held.isOpen := rfl
  cases hpath : wanted.path with
  | none => simp [ResourceControls.matchLoaded, hpath]
  | some path =>
    rcases hdone with hdone | hdone | hdone
    · cases hopen : state.held.isOpen <;> simp [ResourceControls.matchLoaded, hpath, hloaded,
        hdone, hopen]
    · simp [ResourceControls.matchLoaded, hpath, hdone]
    · rw [hpath] at hdone
      cases hdone

theorem matchLoaded_of_missing {path : Path} (hwanted : wanted.loaded = true)
    (hpath : wanted.path = some path) (hopen : state.held.isOpen = false) :
    (copyControls use).matchLoaded wanted state =
      reported wanted.path (state.openCopy use) := by
  have hload : (copyControls use).load state = state.openCopy use := rfl
  have hloaded : ((copyControls use).library state).loaded = false := hopen
  rcases htried : state.openCopy use with ⟨_ | _, tried⟩ <;> rw [htried] at hload
  · simp [ResourceControls.matchLoaded, hpath, hwanted, hloaded, hload, reported]
  · simp [ResourceControls.matchLoaded, hpath, hwanted, hloaded, hload]

/-- The step, part by part. -/
theorem libraryStep_eq (use : CopyUse ρ) (wanted : LibraryDesired) (state : CopyState ρ) :
    libraryStep use wanted state =
      ResourceControls.inTurn ((copyControls use).matchUnloaded wanted)
        (ResourceControls.inTurn ((copyControls use).matchPath wanted)
          ((copyControls use).matchLoaded wanted)) state := rfl

/-- A part that succeeds hands its state on. -/
theorem inTurn_of_ok {ε σ : Type} {first second : σ → Except ε Unit × σ} {state next : σ}
    (h : first state = (.ok (), next)) :
    ResourceControls.inTurn first second state = second next := by
  simp only [ResourceControls.inTurn, h]

/-- A part that leaves nothing to do ends the step, whether or not it succeeded. -/
theorem inTurn_of_last {ε σ : Type} {first second : σ → Except ε Unit × σ} {state : σ}
    (h : (first state).1 = .ok () → second (first state).2 = (.ok (), (first state).2)) :
    ResourceControls.inTurn first second state = first state := by
  rcases hfirst : first state with ⟨e | ⟨⟩, next⟩
  · simp only [ResourceControls.inTurn, hfirst]
  · rw [hfirst] at h
    simp only [ResourceControls.inTurn, hfirst]
    exact h rfl

/-! ## 2. The step, case by case -/

/-- What is in use and shall not be is given up for good; the path is only taken down. -/
theorem libraryStep_of_unwanted (hwanted : wanted.loaded = false)
    (hopen : state.held.isOpen = true) (hyield : ∀ files user, (use.closed files user).1 = true)
    (hcopy : state.held.copy.isSome = state.held.isOpen) :
    libraryStep use wanted state =
      (.ok (), if state.held.pointsTo wanted.path then (state.want false).left use
        else ((state.want false).left use).pointed wanted.path) := by
  have hunloaded := matchUnloaded_of_unwanted hwanted hopen hyield hcopy
  rw [libraryStep_eq, inTurn_of_ok hunloaded]
  cases hpath : state.held.pointsTo wanted.path with
  | true =>
    have hsame : ((state.want false).left use).held.pointsTo wanted.path = true := hpath
    rw [inTurn_of_ok (matchPath_of_same hsame)]
    exact matchLoaded_of_done (Or.inr (Or.inl hwanted))
  | false =>
    have hmoves : ((state.want false).left use).held.pointsTo wanted.path = false := hpath
    have hstill : ((state.want false).left use).held.isWanted = false := rfl
    have hmoved := matchPath_of_moves use hmoves
    rw [setSource_of_not_wanted _ _ hstill, reported_true] at hmoved
    rw [inTurn_of_ok hmoved]
    exact matchLoaded_of_done (Or.inr (Or.inl hwanted))

/-- A path that does not change is no reason to do anything, unless the library shall be
loaded. -/
theorem libraryStep_of_settled (hpath : state.held.pointsTo wanted.path = true)
    (hdone : state.held.isOpen = wanted.loaded ∨
      (state.held.isOpen = false ∧ wanted.path = none)) :
    libraryStep use wanted state = (.ok (), state) := by
  have hunloaded : (copyControls use).matchUnloaded wanted state = (.ok (), state) := by
    rcases hdone with hdone | ⟨hopen, -⟩
    · cases hopen : state.held.isOpen with
      | false => exact matchUnloaded_of_closed hopen
      | true => exact matchUnloaded_of_wanted (hdone ▸ hopen)
    · exact matchUnloaded_of_closed hopen
  rw [libraryStep_eq, inTurn_of_ok hunloaded, inTurn_of_ok (matchPath_of_same hpath)]
  refine matchLoaded_of_done ?_
  rcases hdone with hdone | ⟨-, hnone⟩
  · exact Or.inl hdone.symm
  · exact Or.inr (Or.inr hnone)

/-- What is wanted and not in use is put to use from the source as it was written before. -/
theorem libraryStep_of_missing {path : Path} (hwanted : wanted.loaded = true)
    (hsome : wanted.path = some path) (hpath : state.held.pointsTo wanted.path = true)
    (hopen : state.held.isOpen = false) :
    libraryStep use wanted state = reported wanted.path (state.openCopy use) := by
  rw [libraryStep_eq, inTurn_of_ok (matchUnloaded_of_closed hopen),
    inTurn_of_ok (matchPath_of_same hpath)]
  exact matchLoaded_of_missing hwanted hsome hopen

/-- A path that changes where nothing is wanted is taken down, and what is left is to load it if
that is wanted now. -/
theorem libraryStep_of_fresh (use : CopyUse ρ) (hstill : state.held.isWanted = false)
    (hopen : state.held.isOpen = false) (hpath : state.held.pointsTo wanted.path = false) :
    libraryStep use wanted state =
      (copyControls use).matchLoaded wanted (state.pointed wanted.path) := by
  have hmoved := matchPath_of_moves use hpath
  rw [setSource_of_not_wanted _ _ hstill, reported_true] at hmoved
  rw [libraryStep_eq, inTurn_of_ok (matchUnloaded_of_closed hopen), inTurn_of_ok hmoved]

/-- **A path that changes while use is wanted of the copy**: the old copy goes and the new one is
put to use, whether or not the pass wants that. -/
theorem libraryStep_of_swap (hstill : state.held.isWanted = true)
    (hkept : state.held.isOpen = true → wanted.loaded = true)
    (hpath : state.held.pointsTo wanted.path = false)
    (hyield : ∀ files user, (use.closed files user).1 = true)
    (hcopy : state.held.copy.isSome = state.held.isOpen) :
    libraryStep use wanted state =
      reported wanted.path (((state.pointed wanted.path).left use).enter use) := by
  have hunloaded : (copyControls use).matchUnloaded wanted state = (.ok (), state) := by
    cases hopen : state.held.isOpen with
    | false => exact matchUnloaded_of_closed hopen
    | true => exact matchUnloaded_of_wanted (hkept hopen)
  have hmoved := matchPath_of_moves use hpath
  rw [setSource_of_wanted _ _ hstill hyield hcopy] at hmoved
  rw [libraryStep_eq, inTurn_of_ok hunloaded, ← hmoved]
  refine inTurn_of_last fun hok => ?_
  rw [hmoved] at hok ⊢
  have hopened : (((state.pointed wanted.path).left use).enter use).2.held.isOpen = true := by
    rw [enter_isOpen _ rfl]
    exact reported_ok_iff.mp hok
  cases hwanted : wanted.loaded with
  | false => exact matchLoaded_of_done (Or.inr (Or.inl hwanted))
  | true => exact matchLoaded_of_done (Or.inl (hwanted.trans hopened.symm))

/-! ## 3. Loads that are due -/

/-- A load is due: it is wanted, there is a path, and what is in use, if anything, comes from
another one. -/
structure Due (wanted : LibraryDesired) (held : WorkingCopy) : Prop where
  loaded : wanted.loaded = true
  path : wanted.path.isSome = true
  missing : (held.pointsTo wanted.path && held.isOpen) = false

/-- The state from which a load is tried: the old copy is given up, and the source is pointed to
the path that is wanted, if that is another one. -/
def poised (use : CopyUse ρ) (path : Option Path) (state : CopyState ρ) : CopyState ρ :=
  ((if state.held.pointsTo path then state else state.pointed path).left use).want true

@[simp] theorem poised_source (use : CopyUse ρ) (path : Option Path) (state : CopyState ρ) :
    (state.poised use path).held.source = state.held.sourceFor path := by
  cases hpath : state.held.pointsTo path <;>
    simp [poised, hpath, left, pointed, WorkingCopy.sourceFor]

@[simp] theorem poised_directory (use : CopyUse ρ) (path : Option Path) (state : CopyState ρ) :
    (state.poised use path).held.directory = state.held.directory := by
  cases hpath : state.held.pointsTo path <;> simp [poised, hpath, left, pointed]

theorem poised_files (use : CopyUse ρ) (path : Option Path) (state : CopyState ρ) :
    (state.poised use path).files = state.discard.files := by
  cases hpath : state.held.pointsTo path with
  | true => simp only [poised, hpath, if_true]; rfl
  | false =>
    simp only [poised, hpath, Bool.false_eq_true, if_false]
    exact discard_files_congr rfl rfl

theorem poised_sound {fits : Option Path → ρ → Prop} (hr : use.Respects fits)
    (h : state.held.Sound fits state.user) (path : Option Path) :
    (state.poised use path).held.Sound fits (state.poised use path).user := by
  have haimed : (if state.held.pointsTo path then state else state.pointed path).held.Sound fits
      (if state.held.pointsTo path then state else state.pointed path).user := by
    split
    · exact h
    · exact h.withSource path
  exact ⟨rfl, fun _ => rfl, (haimed.left hr).fits⟩

/-- **A load that is due is tried from there**, and all depends on what becomes of it. -/
theorem libraryStep_of_due {fits : Option Path → ρ → Prop} (hr : use.Respects fits)
    (h : state.held.Sound fits state.user) (hdue : Due wanted state.held) :
    libraryStep use wanted state =
      reported wanted.path ((state.poised use wanted.path).enter use) := by
  obtain ⟨path, hsome⟩ := Option.isSome_iff_exists.mp hdue.path
  cases hpath : state.held.pointsTo wanted.path with
  | true =>
    have hopen : state.held.isOpen = false := by
      have hmissing := hdue.missing
      rwa [hpath, Bool.true_and] at hmissing
    have hpoised : state.poised use wanted.path = state.want true := by
      simp only [poised, hpath, if_true, left_of_closed hopen (h.copy_eq_none hopen)]
    rw [libraryStep_of_missing hdue.loaded hsome hpath hopen, hpoised]
    rfl
  | false =>
    have hpoised : state.poised use wanted.path =
        ((state.pointed wanted.path).left use).want true := by
      simp only [poised, hpath, Bool.false_eq_true, if_false]
    cases hstill : state.held.isWanted with
    | false =>
      have hopen := h.isOpen_eq_false hstill
      have hleft : (state.pointed wanted.path).left use = state.pointed wanted.path :=
        left_of_closed hopen (h.copy_eq_none hopen)
      have hclosed : (state.pointed wanted.path).held.isOpen = false := hopen
      rw [libraryStep_of_fresh use hstill hopen hpath,
        matchLoaded_of_missing hdue.loaded hsome hclosed, hpoised, hleft]
      rfl
    | true =>
      have hwant : ((state.pointed wanted.path).left use).want true =
          (state.pointed wanted.path).left use := by
        rw [want, left, pointed, ← hstill]
      rw [libraryStep_of_swap hstill (fun _ => hdue.loaded) hpath hr.yields h.copy_isSome,
        hpoised, hwant]

/-! ## 4. What the step leaves -/

/-- **The five ways through the step**, with what they come to. -/
inductive StepWay (use : CopyUse ρ) (wanted : LibraryDesired) (state : CopyState ρ) :
    Except ReconcileError Unit × CopyState ρ → Prop where
  /-- What is in use and shall not be is given up. -/
  | givenUp (hwanted : wanted.loaded = false) (hopen : state.held.isOpen = true) :
    StepWay use wanted state (.ok (), if state.held.pointsTo wanted.path then
      (state.want false).left use else ((state.want false).left use).pointed wanted.path)
  /-- There is nothing to do. -/
  | settled (hpath : state.held.pointsTo wanted.path = true)
    (hdone : state.held.isOpen = wanted.loaded ∨
      state.held.isOpen = false ∧ wanted.path = none) : StepWay use wanted state (.ok (), state)
  /-- A load is tried. -/
  | tried (hdue : Due wanted state.held) : StepWay use wanted state
    (reported wanted.path ((state.poised use wanted.path).enter use))
  /-- The path is taken down. -/
  | pointed (hpath : state.held.pointsTo wanted.path = false) (hopen : state.held.isOpen = false)
    (hstill : state.held.isWanted = false) (hrest : wanted.loaded = false ∨ wanted.path = none) :
    StepWay use wanted state (.ok (), state.pointed wanted.path)
  /-- The path is swapped although it is not to be used. -/
  | swapped (hpath : state.held.pointsTo wanted.path = false) (hstill : state.held.isWanted = true)
    (hrest : wanted.loaded = false ∧ state.held.isOpen = false ∨ wanted.path = none) :
    StepWay use wanted state
      (reported wanted.path (((state.pointed wanted.path).left use).enter use))

/-- **Every step goes one of these ways**, for a working copy that is sound. -/
theorem libraryStep_way {fits : Option Path → ρ → Prop} (hr : use.Respects fits)
    (h : state.held.Sound fits state.user) (wanted : LibraryDesired) :
    StepWay use wanted state (libraryStep use wanted state) := by
  by_cases hdue : Due wanted state.held
  · rw [libraryStep_of_due hr h hdue]
    exact .tried hdue
  by_cases hgo : wanted.loaded = false ∧ state.held.isOpen = true
  · rw [libraryStep_of_unwanted hgo.1 hgo.2 hr.yields h.copy_isSome]
    exact .givenUp hgo.1 hgo.2
  -- what is in use is wanted from here on, and what is wanted is in use or has no path
  have hkept : state.held.isOpen = true → wanted.loaded = true := by
    intro hopen
    cases hwanted : wanted.loaded with
    | false => exact absurd ⟨hwanted, hopen⟩ hgo
    | true => rfl
  have hload : wanted.loaded = true →
      state.held.pointsTo wanted.path = true ∧ state.held.isOpen = true ∨ wanted.path = none := by
    intro hwanted
    cases hsome : wanted.path with
    | none => exact Or.inr rfl
    | some path =>
      cases hmissing : state.held.pointsTo wanted.path && state.held.isOpen with
      | false => exact absurd ⟨hwanted, by rw [hsome]; rfl, hmissing⟩ hdue
      | true => exact Or.inl (hsome ▸ Bool.and_eq_true_iff.mp hmissing)
  have hrest : state.held.pointsTo wanted.path = false →
      wanted.loaded = false ∨ wanted.path = none := by
    intro hpath
    cases hwanted : wanted.loaded with
    | false => exact Or.inl rfl
    | true =>
      refine Or.inr ((hload hwanted).resolve_left fun hsame => ?_)
      exact Bool.false_ne_true (hpath.symm.trans hsame.1)
  cases hpath : state.held.pointsTo wanted.path with
  | true =>
    have hdone : state.held.isOpen = wanted.loaded ∨
        state.held.isOpen = false ∧ wanted.path = none := by
      cases hopen : state.held.isOpen with
      | true => exact Or.inl (hkept hopen).symm
      | false =>
        cases hwanted : wanted.loaded with
        | false => exact Or.inl rfl
        | true =>
          refine Or.inr ⟨rfl, (hload hwanted).resolve_left fun hsame => ?_⟩
          exact Bool.false_ne_true (hopen.symm.trans hsame.2)
    rw [libraryStep_of_settled hpath hdone]
    exact .settled hpath hdone
  | false =>
    cases hstill : state.held.isWanted with
    | false =>
      have hopen := h.isOpen_eq_false hstill
      rw [libraryStep_of_fresh use hstill hopen hpath,
        matchLoaded_of_done (Or.inr (hrest hpath))]
      exact .pointed hpath hopen hstill (hrest hpath)
    | true =>
      rw [libraryStep_of_swap hstill hkept hpath hr.yields h.copy_isSome]
      refine .swapped hpath hstill ((hrest hpath).imp (fun hwanted => ⟨hwanted, ?_⟩) id)
      cases hopen : state.held.isOpen with
      | false => rfl
      | true => exact absurd (hwanted.symm.trans (hkept hopen)) Bool.false_ne_true

/-- The step keeps the invariant, whatever comes of it. -/
theorem libraryStep_sound {fits : Option Path → ρ → Prop} (hr : use.Respects fits)
    (h : state.held.Sound fits state.user) (wanted : LibraryDesired) :
    (libraryStep use wanted state).2.held.Sound fits (libraryStep use wanted state).2.user := by
  have hgiven : ((state.want false).left use).held.Sound fits ((state.want false).left use).user :=
    ⟨rfl, fun hopen => absurd hopen Bool.false_ne_true, (h.left hr).fits⟩
  have hpointed : (state.pointed wanted.path).held.Sound fits (state.pointed wanted.path).user :=
    h.withSource wanted.path
  have hway := libraryStep_way hr h wanted
  generalize libraryStep use wanted state = result at hway ⊢
  cases hway with
  | givenUp hwanted hopen =>
    dsimp only
    split
    · exact hgiven
    · exact hgiven.withSource wanted.path
  | settled hpath hdone => exact h
  | tried hdue => exact (poised_sound hr h wanted.path).enter hr rfl
  | pointed hpath hopen hstill hrest => exact hpointed
  | swapped hpath hstill hrest => exact (hpointed.left hr).enter hr hstill

/-- **The step leaves the path that is wanted**, even if it fails. -/
theorem libraryStep_path {fits : Option Path → ρ → Prop} (hr : use.Respects fits)
    (h : state.held.Sound fits state.user) (wanted : LibraryDesired) :
    (libraryStep use wanted state).2.held.pointsTo wanted.path = true := by
  have hway := libraryStep_way hr h wanted
  generalize libraryStep use wanted state = result at hway ⊢
  cases hway with
  | givenUp hwanted hopen =>
    dsimp only
    split
    · next hpath => exact hpath
    · exact Path.sameOption_refl wanted.path
  | settled hpath hdone => exact hpath
  | tried hdue =>
    have hcopy : (state.poised use wanted.path).held.copy.isSome =
        (state.poised use wanted.path).held.isOpen := rfl
    have hsource := (enter_keeps use hcopy).2.1
    rw [reported, WorkingCopy.pointsTo, hsource, poised_source, WorkingCopy.sourceFor]
    cases hpath : state.held.pointsTo wanted.path with
    | true => exact hpath
    | false => exact Path.sameOption_refl wanted.path
  | pointed hpath hopen hstill hrest => exact Path.sameOption_refl wanted.path
  | swapped hpath hstill hrest =>
    have hcopy : ((state.pointed wanted.path).left use).held.copy.isSome =
        ((state.pointed wanted.path).left use).held.isOpen := rfl
    have hsource := (enter_keeps use hcopy).2.1
    rw [reported, WorkingCopy.pointsTo, hsource]
    exact Path.sameOption_refl wanted.path

/-- **A step that succeeds leaves in use what is wanted**, except where a stray wish puts the new
path to use. -/
theorem libraryStep_isOpen {fits : Option Path → ρ → Prop} (hr : use.Respects fits)
    (h : state.held.Sound fits state.user) (wanted : LibraryDesired)
    (hpath : wanted.loaded = true → wanted.path.isSome = true)
    (hok : (libraryStep use wanted state).1 = .ok ()) :
    (libraryStep use wanted state).2.held.isOpen = wanted.loaded ↔
      ¬(wanted.loaded = false ∧ state.held.Strays wanted.path) := by
  have hrests : wanted.path = none → wanted.loaded = false := by
    intro hnone
    rw [← Bool.not_eq_true]
    intro hwanted
    have hsome := hpath hwanted
    rw [hnone] at hsome
    exact Bool.false_ne_true hsome
  have hway := libraryStep_way hr h wanted
  generalize libraryStep use wanted state = result at hway hok ⊢
  cases hway with
  | givenUp hwanted hopen =>
    refine iff_of_true ?_ fun hstray => ?_
    · rw [hwanted]
      dsimp only
      split <;> rfl
    · exact Bool.false_ne_true (hstray.2.isOpen.symm.trans hopen)
  | settled hsame hdone =>
    refine iff_of_true ?_ fun hstray => ?_
    · rcases hdone with hdone | ⟨hopen, hnone⟩
      · exact hdone
      · exact hopen.trans (hrests hnone).symm
    · exact Bool.false_ne_true (hstray.2.moves.symm.trans hsame)
  | tried hdue =>
    refine iff_of_true ?_ fun hstray => ?_
    · have hcopy : (state.poised use wanted.path).held.copy.isSome =
          (state.poised use wanted.path).held.isOpen := rfl
      rw [hdue.loaded, reported, enter_isOpen _ hcopy]
      exact reported_ok_iff.mp hok
    · exact Bool.false_ne_true (hstray.1.symm.trans hdue.loaded)
  | pointed hmoves hopen hstill hrest =>
    refine iff_of_true ?_ fun hstray => ?_
    · exact hopen.trans (hrest.elim id hrests).symm
    · exact Bool.false_ne_true (hstill.symm.trans hstray.2.isWanted)
  | swapped hmoves hstill hrest =>
    have hentered := reported_ok_iff.mp hok
    rcases hrest with ⟨hwanted, hopen⟩ | hnone
    · refine iff_of_false ?_ fun hnot => hnot ⟨hwanted, hopen, hstill, hmoves⟩
      rw [hwanted, reported, enter_isOpen _ rfl, hentered]
      exact Bool.noConfusion
    · have hrefused : (((state.pointed wanted.path).left use).enter use).1 = false := by
        rw [enter_of_no_source rfl hnone]
      exact absurd (hrefused.symm.trans hentered) Bool.false_ne_true

/-- Where a load that is due can be done, a step that wants the library succeeds. -/
theorem libraryStep_ok {fits : Option Path → ρ → Prop} (hr : use.Respects fits)
    (h : state.held.Sound fits state.user) (hwanted : wanted.loaded = true)
    (hpath : wanted.path.isSome = true)
    (hload : Due wanted state.held → ((state.poised use wanted.path).enter use).1 = true) :
    (libraryStep use wanted state).1 = .ok () := by
  have hway := libraryStep_way hr h wanted
  generalize libraryStep use wanted state = result at hway ⊢
  cases hway with
  | givenUp hnot hopen => rfl
  | settled hsame hdone => rfl
  | tried hdue => exact reported_ok_iff.mpr (hload hdue)
  | pointed hmoves hopen hstill hrest => rfl
  | swapped hmoves hstill hrest =>
    rcases hrest with ⟨hnot, -⟩ | hnone
    · exact absurd (hnot.symm.trans hwanted) Bool.false_ne_true
    · rw [hnone] at hpath
      exact absurd hpath Bool.false_ne_true

/-- **A step that finds the path settled, and in use what is wanted, needs nothing.**  What is in
use without being wanted is given up. -/
theorem libraryStep_again {fits : Option Path → ρ → Prop} (hr : use.Respects fits)
    (h : state.held.Sound fits state.user) (hsame : state.held.pointsTo wanted.path = true)
    (hopen : wanted.loaded = true → state.held.isOpen = true) :
    (libraryStep use wanted state).1 = .ok () ∧
      (libraryStep use wanted state).2.held.isOpen = wanted.loaded := by
  have hway := libraryStep_way hr h wanted
  generalize libraryStep use wanted state = result at hway ⊢
  cases hway with
  | givenUp hwanted hopen =>
    refine ⟨rfl, ?_⟩
    rw [hwanted]
    dsimp only
    split <;> rfl
  | settled _ hdone =>
    refine ⟨rfl, ?_⟩
    rcases hdone with hdone | ⟨hclosed, -⟩
    · exact hdone
    · cases hwanted : wanted.loaded with
      | false => exact hclosed
      | true => exact hopen hwanted
  | tried hdue =>
    have hmissing := hdue.missing
    rw [hsame, hopen hdue.loaded] at hmissing
    exact absurd hmissing.symm Bool.false_ne_true
  | pointed hmoves hopen hstill hrest =>
    exact absurd (hmoves.symm.trans hsame) Bool.false_ne_true
  | swapped hmoves hstill hrest =>
    exact absurd (hmoves.symm.trans hsame) Bool.false_ne_true

end CopyState

end RenderSync
