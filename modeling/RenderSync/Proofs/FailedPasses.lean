import RenderSync.Proofs.Convergence

/-!
# What a failed pass leaves

A pass fails in its server step or in its library step, and the error says in which
(`matchAll_error`).  What the step that failed leaves is told apart here.

A library step fails only while it loads something.  Whatever was loaded before has gone by then,
and the path has been taken down, so it leaves nothing loaded and no working copy, at the path that
is wanted (`libraryStep_failed`).  What is in effect is therefore what it was before exactly if
nothing was loaded and the path was that one already (`failed_library_kept_iff`); any other pass
that fails like this moves the path to a library that was not entered, and may lose the one that
was.
-/

namespace RenderSync

/-! ## 1. Which step an error comes from -/

namespace ResourceControls

variable {σ : Type} {controls : ResourceControls σ} {state : σ} {e : ReconcileError}

/-- What fails one after the other fails in one of the two. -/
theorem inTurn_error {first second : σ → Except ReconcileError Unit × σ}
    (h : (inTurn first second state).1 = .error e) :
    first state = (.error e, (inTurn first second state).2) ∨
      (first state).1 = .ok () ∧ (second (first state).2).1 = .error e := by
  unfold inTurn at h ⊢
  rcases hfirst : first state with ⟨e' | ⟨⟩, next⟩ <;> rw [hfirst] at h
  · obtain rfl : e' = e := Except.error.inj h
    exact Or.inl rfl
  · exact Or.inr ⟨rfl, h⟩

/-- The library step fails with an error of its own. -/
theorem matchLibrary_error {wanted : LibraryDesired}
    (h : (controls.matchLibrary wanted state).1 = .error e) : ∀ cause, e ≠ .server cause := by
  have hunloaded : ∀ {state}, (controls.matchUnloaded wanted state).1 = .error e →
      ∀ cause, e ≠ .server cause := by
    intro state h
    unfold matchUnloaded at h
    split at h
    · split at h <;> cases h
      nofun
    · cases h
  have hpointed : ∀ {state}, (controls.matchPath wanted state).1 = .error e →
      ∀ cause, e ≠ .server cause := by
    intro state h
    unfold matchPath at h
    split at h
    · cases h
    · split at h <;> cases h
      nofun
  have hloaded : ∀ {state}, (controls.matchLoaded wanted state).1 = .error e →
      ∀ cause, e ≠ .server cause := by
    intro state h
    unfold matchLoaded at h
    split at h
    · cases h
    · split at h
      · split at h <;> cases h
        nofun
      · cases h
  rcases inTurn_error h with hfirst | ⟨-, hrest⟩
  · exact hunloaded (congrArg Prod.fst hfirst)
  · rcases inTurn_error hrest with hsecond | ⟨-, hlast⟩
    · exact hpointed (congrArg Prod.fst hsecond)
    · exact hloaded hlast

/-- **A pass that fails says in which step**: with the server's error it ends with the server step,
with any other one the server step was done. -/
theorem matchAll_error {desired : DesiredState}
    (h : (controls.matchAll desired state).1 = .error e) :
    (∃ cause, e = .server cause ∧
      controls.matchServer desired.server state =
        (.error (.server cause), (controls.matchAll desired state).2)) ∨
    (∀ cause, e ≠ .server cause) ∧ (controls.matchServer desired.server state).1 = .ok () := by
  rcases inTurn_error h with hserver | ⟨hserver, hlibrary⟩
  · obtain ⟨cause, rfl, -⟩ := matchServer_error (congrArg Prod.fst hserver)
    exact Or.inl ⟨cause, rfl, hserver⟩
  · exact Or.inr ⟨matchLibrary_error hlibrary, hserver⟩

end ResourceControls

/-! ## 2. A library step that fails -/

/-- The path stays exactly if it is the one that is wanted. -/
theorem WorkingCopy.sourceFor_eq_iff {held : WorkingCopy} {path : Option Path} :
    held.sourceFor path = held.source ↔ held.pointsTo path = true := by
  unfold sourceFor
  split
  · next hpoints => exact iff_of_true rfl hpoints
  · next hmoves =>
    refine iff_of_false (fun hsame => hmoves ?_) hmoves
    rw [pointsTo, ← hsame]
    exact Path.sameOption_refl path

namespace CopyState

variable {ρ : Type} {use : CopyUse ρ} {wanted : LibraryDesired} {state : CopyState ρ}
  {e : ReconcileError}

/-- A copy that could not be put to use is out of use, and there is none. -/
theorem enter_failed (use : CopyUse ρ) (state : CopyState ρ)
    (h : state.held.copy.isSome = state.held.isOpen)
    (hfailed : (state.enter use).1 = false) :
    (state.enter use).2.held.isOpen = false ∧ (state.enter use).2.held.copy = none ∧
      (state.enter use).2.held.source = state.held.source := by
  cases hopen : state.held.isOpen with
  | true =>
    rw [enter_of_isOpen hopen] at hfailed
    cases hfailed
  | false =>
    have hcopy := WorkingCopy.copy_eq_none h hopen
    rcases enter_cases use hopen hcopy with ⟨_, _, _, _, _, _, _, he⟩ | ⟨_, _, he, _⟩
    · rw [he] at hfailed
      cases hfailed
    · rw [he]
      exact ⟨hopen, hcopy, rfl⟩

/-- **A library step that fails leaves nothing in use**, and no copy, at the path that is
wanted. -/
theorem libraryStep_failed {fits : Option Path → ρ → Prop} (hr : use.Respects fits)
    (h : state.held.Sound fits state.user) (hfailed : (libraryStep use wanted state).1 = .error e) :
    (libraryStep use wanted state).2.held.isOpen = false ∧
      (libraryStep use wanted state).2.held.copy = none ∧
      (libraryStep use wanted state).2.held.source = state.held.sourceFor wanted.path := by
  have hreported : ∀ {tried : Bool × CopyState ρ}, (reported wanted.path tried).1 = .error e →
      tried.1 = false := by
    rintro ⟨_ | _, tried⟩ herror
    · rfl
    · cases herror
  have hway := libraryStep_way hr h wanted
  generalize libraryStep use wanted state = result at hway hfailed ⊢
  -- of the ways that a step can go only the two that load something can fail, and they load last
  cases hway with
  | givenUp hwanted hopen => cases hfailed
  | settled hpath hdone => cases hfailed
  | tried hdue =>
    obtain ⟨hopen, hcopy, hsource⟩ := enter_failed use
      (state.poised use wanted.path) rfl (hreported hfailed)
    exact ⟨hopen, hcopy, hsource.trans (poised_source use wanted.path state)⟩
  | pointed hpath hopen hstill hrest => cases hfailed
  | swapped hpath hstill hrest =>
    obtain ⟨hopen, hcopy, hsource⟩ := enter_failed use
      ((state.pointed wanted.path).left use) rfl (hreported hfailed)
    refine ⟨hopen, hcopy, hsource.trans ?_⟩
    rw [WorkingCopy.sourceFor, hpath]
    rfl

end CopyState

variable {ι : Type} {loader : LibraryLoader ι}

/-! ## 3. Passes whose library step fails -/

/-- **A pass that fails in its library step leaves nothing loaded**, and no copy, at the path that
is wanted. -/
theorem EngineResources.matchAll_library_failed {resources : EngineResources ι}
    (h : resources.Sound loader) {desired : DesiredState} {e : ReconcileError}
    (hfailed : ((controls loader).matchAll desired resources).1 = .error e)
    (hlibrary : ∀ cause, e ≠ .server cause) :
    let after := ((controls loader).matchAll desired resources).2.library
    after.current = ⟨false, resources.library.held.sourceFor desired.library.path⟩ ∧
      after.held.copy = none := by
  rcases ResourceControls.matchAll_error hfailed with ⟨cause, hcause, -⟩ | ⟨-, hserver⟩
  · exact absurd hcause (hlibrary cause)
  intro after
  have hstep := matchAll_of_ok hserver
  have hheld : after.held = (libraryStep (LibrarySlot.use loader) desired.library
      (resources.served loader desired).copyState).2.held :=
    congrArg (fun done => done.2.library.held) hstep
  rw [hstep] at hfailed
  obtain ⟨hopen, hcopy, hsource⟩ := CopyState.libraryStep_failed
    (LibrarySlot.use_respects loader) (h.served_copyState desired) hfailed
  rw [served_held h desired] at hsource
  refine ⟨?_, hheld ▸ hcopy⟩
  rw [Library.current, hheld, hopen, hsource]

namespace Engine

variable {engine : Engine ι}

/-- **A pass that fails in its library step leaves nothing loaded, at the path that is wanted**, so
that the library is reported as it was before exactly if nothing was loaded and the path was that
one already. -/
theorem failed_library_kept_iff (h : engine.Reachable loader) (desired : DesiredState)
    (now : Moment) {e : ReconcileError}
    (hfailed : ((engine.wanting desired).reconcile loader now).1 = .error e)
    (hlibrary : ∀ cause, e ≠ .server cause) :
    let before := engine.resources.library
    let after := ((engine.wanting desired).reconcile loader now).2.resources.library
    after.current = ⟨false, before.held.sourceFor desired.library.path⟩ ∧
      after.held.copy = none ∧
      (after.current = before.current ↔
        before.current.loaded = false ∧
          Path.sameOption before.current.path desired.library.path = true) := by
  intro before after
  have hsound : engine.resources.Sound loader := h.sound
  obtain ⟨hafter, hcopy⟩ := EngineResources.matchAll_library_failed hsound hfailed hlibrary
  refine ⟨hafter, hcopy, ?_⟩
  have hcurrent : after.current = ⟨false, before.held.sourceFor desired.library.path⟩ := hafter
  have hpath : Path.sameOption before.current.path desired.library.path =
      before.held.pointsTo desired.library.path := rfl
  rw [hcurrent, hpath]
  constructor
  · intro hkept
    have hloaded : false = before.current.loaded := congrArg LibraryCurrent.loaded hkept
    have hsame : before.held.sourceFor desired.library.path = before.held.source :=
      congrArg LibraryCurrent.path hkept
    exact ⟨hloaded.symm, WorkingCopy.sourceFor_eq_iff.mp hsame⟩
  · rintro ⟨hloaded, hpoints⟩
    rw [WorkingCopy.sourceFor_eq_iff.mpr hpoints, ← hloaded]
    rfl

/-- Without the file that it looks for an engine fails again, and stays as it is. -/
theorem failedOnce_stays :
    failedOnce.Reachable Recorder.loader ∧
      ((failedOnce.wanting (libraryAt true "/a.so")).reconcile Recorder.loader 1).1 =
        .error (.libraryLoad ⟨"/a.so"⟩) ∧
      (∀ cause, ReconcileError.libraryLoad ⟨"/a.so"⟩ ≠ .server cause) ∧
      ((failedOnce.wanting (libraryAt true "/a.so")).reconcile Recorder.loader
        1).2.resources.library.current = failedOnce.resources.library.current :=
  ⟨failedOnce_reachable, by decide +kernel, nofun,
    (failed_library_kept_iff (e := .libraryLoad ⟨"/a.so"⟩) failedOnce_reachable
      (libraryAt true "/a.so") 1 (by decide +kernel) nofun).2.2.mpr (by decide +kernel)⟩

/-- An engine that has loaded the library that there is. -/
def loadedHere : Engine Recorder :=
  (Engine.start smallOptions (smallWorld [textFile "b.so" "B"] [])).moves Recorder.loader
    [.apply 0 fun _ => libraryAt true "/b.so"]

/-- **A swap to a file that is missing loses the library that was loaded**, and reports the path of
the missing one. -/
theorem failed_swap_loses_library :
    loadedHere.Reachable Recorder.loader ∧
      loadedHere.resources.library.current = ⟨true, some ⟨"/b.so"⟩⟩ ∧
      ((loadedHere.wanting (libraryAt true "/a.so")).reconcile Recorder.loader 1).1 =
        .error (.libraryLoad ⟨"/a.so"⟩) ∧
      ((loadedHere.wanting (libraryAt true "/a.so")).reconcile Recorder.loader
        1).2.resources.library.current = ⟨false, some ⟨"/a.so"⟩⟩ :=
  ⟨⟨_, _, _, rfl⟩, by decide +kernel, by decide +kernel, by decide +kernel⟩

end Engine

end RenderSync
