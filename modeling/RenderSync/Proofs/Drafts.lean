import RenderSync.Proofs.Interleaving
import RenderSync.Proofs.Quiescence
import RenderSync.Reconciler.Drafting
import RenderSync.Reconciler.Rehearsal

/-!
# What becomes of a draft

No edit is lost.  A draft that was opened takes the place of what is desired once, when it is
committed or when it is given up, and a pass is made for it then.  So passes are counted by what was
asked for, drafts that were opened and edits that were applied at once, however the drafts were
closed (`Drafting.Asked.finish`).  In between the books are balanced: what was asked for and has had
no pass is an open draft (`Drafting.Balanced`).

A draft is a copy of all that is desired.  Who gives his up last decides about everything, also
about what he has not edited.

What a draft asks for comes about in one pass where nothing fails; `Rehearsal.commit_converges` says
so of a rehearsal that accepts everything.  A library that is wanted has to have a path by then.
-/

namespace RenderSync

/-- The status after an edit that was applied tells of its pass. -/
theorem Reconciler.apply_tells {σ : Type} (controls : ResourceControls σ) (now : Moment)
    (edit : DesiredState → DesiredState) (reconciler : Reconciler) (state : σ) :
    let wanted := edit reconciler.desired
    (reconciler.apply controls now edit state).2.1.status.TellsOf reconciler.status now
      (controls.matchAll wanted state).1
      ((controls.current (controls.matchAll wanted state).2).meets wanted) :=
  ReconcileStatus.tellsOf_after ..

namespace Drafting

variable {σ : Type} {controls : ResourceControls σ} {drafting : Drafting σ}

/-! ## 1. One draft -/

/-- The names that have a draft. -/
def taken (drafting : Drafting σ) : List String := drafting.drafts.map Prod.fst

/-- Whether a name has a draft. -/
def isOpen (drafting : Drafting σ) (name : String) : Bool :=
  (drafting.drafts.lookup name).isSome

theorem isOpen_iff {name : String} : drafting.isOpen name = true ↔ name ∈ drafting.taken := by
  rw [isOpen, taken]
  induction drafting.drafts with
  | nil => simp
  | cons entry rest ih =>
    rw [List.lookup_cons, List.map_cons, List.mem_cons, ← ih]
    cases hname : name == entry.1 with
    | true => simp [eq_of_beq hname]
    | false => simp [beq_eq_false_iff_ne.mp hname]

/-- A name that is not there need not be taken away. -/
theorem filter_of_not_mem {names : List String} {name : String} (h : name ∉ names) :
    names.filter (· != name) = names := by
  refine List.filter_eq_self.mpr fun other hmem => ?_
  have hne : other ≠ name := fun hsame => h (hsame ▸ hmem)
  simpa using hne

/-- Where every name is there once, one is less when a name is taken away. -/
theorem length_filter_of_mem {names : List String} {name : String} (hnodup : names.Nodup)
    (hmem : name ∈ names) : (names.filter (· != name)).length + 1 = names.length := by
  rw [← hnodup.erase_eq_filter name, List.length_erase_of_mem hmem]
  exact Nat.sub_add_cancel (List.length_pos_of_mem hmem)

/-- Without a draft nothing is committed. -/
theorem commit_of_none {name : String} (h : drafting.drafts.lookup name = none) (now : Moment) :
    drafting.commit controls now name = (none, drafting) := by
  rw [commit, h]

/-- **A draft that is committed takes the place of what is desired**, its pass is counted, and it is
not open any more. -/
theorem commit_of_lookup {name : String} {draft : DesiredState}
    (h : drafting.drafts.lookup name = some draft) (now : Moment) :
    (drafting.commit controls now name).1 =
        some (controls.matchAll draft drafting.state).1 ∧
      (drafting.commit controls now name).2.reconciler.desired = draft ∧
      (drafting.commit controls now name).2.reconciler.status.TellsOf
        drafting.reconciler.status now (controls.matchAll draft drafting.state).1
        ((controls.current (controls.matchAll draft drafting.state).2).meets draft) ∧
      (drafting.commit controls now name).2.state = (controls.matchAll draft drafting.state).2 ∧
      (drafting.commit controls now name).2.drafts =
        drafting.drafts.filter (·.1 != name) := by
  rw [commit, h]
  exact ⟨rfl, rfl, drafting.reconciler.apply_tells controls now (fun _ => draft) _, rfl, rfl⟩

/-- Drafts under other names stay as they are. -/
theorem lookup_commit {name other : String} (hother : other ≠ name) (now : Moment) :
    (drafting.commit controls now name).2.drafts.lookup other = drafting.drafts.lookup other := by
  cases hdraft : drafting.drafts.lookup name with
  | none => rw [commit_of_none hdraft]
  | some draft =>
    obtain ⟨-, -, -, -, hdrafts⟩ := commit_of_lookup hdraft now
    rw [hdrafts, lookup_filter_ne, if_neg (by simpa using hother)]

/-- One name less is taken. -/
theorem taken_commit (name : String) (now : Moment) :
    (drafting.commit controls now name).2.taken = drafting.taken.filter (· != name) := by
  cases hdraft : drafting.drafts.lookup name with
  | none =>
    have hfree : name ∉ drafting.taken := by
      rw [← isOpen_iff, isOpen, hdraft]
      exact Bool.false_ne_true
    rw [commit_of_none hdraft, filter_of_not_mem hfree]
  | some draft =>
    obtain ⟨-, -, -, -, hdrafts⟩ := commit_of_lookup hdraft now
    rw [taken, hdrafts, taken, List.filter_map]
    rfl

/-! ## 2. Books that are balanced -/

/-- A run with the number of passes that were asked for: each draft that was opened is good for one,
and each edit that was applied at once. -/
inductive Asked (controls : ResourceControls σ) : Nat → Drafting σ → Prop where
  | start (desired : DesiredState) (state : σ) : Asked controls 0 (start desired state)
  | openDraft {asked : Nat} {drafting : Drafting σ} (h : Asked controls asked drafting)
    (now : Moment) (name : String) :
    Asked controls (asked + 1) (drafting.openDraft controls now name)
  /-- The first edit under a name opens a draft. -/
  | edit {asked : Nat} {drafting : Drafting σ} (h : Asked controls asked drafting)
    (change : DesiredState → DesiredState) (name : String) :
    Asked controls (if drafting.isOpen name then asked else asked + 1)
      (drafting.edit change name).2
  | commit {asked : Nat} {drafting : Drafting σ} (h : Asked controls asked drafting)
    (now : Moment) (name : String) : Asked controls asked (drafting.commit controls now name).2
  | apply {asked : Nat} {drafting : Drafting σ} (h : Asked controls asked drafting)
    (now : Moment) (change : DesiredState → DesiredState) :
    Asked controls (asked + 1) (drafting.pass (Reconciler.apply controls now change)).2

/-- **The books are balanced**: a name has one draft at most, and what was asked for and is not an
open draft has had its pass. -/
structure Balanced (asked : Nat) (drafting : Drafting σ) : Prop where
  named : drafting.taken.Nodup
  counted : ∃ made, made + drafting.taken.length = asked ∧
    drafting.reconciler.status.passes = .ofNat made

/-- A draft that is committed has its pass. -/
theorem Balanced.commit {asked : Nat} (h : drafting.Balanced asked) (now : Moment)
    (name : String) : (drafting.commit controls now name).2.Balanced asked := by
  obtain ⟨hnamed, made, hmade, hpasses⟩ := h
  cases hdraft : drafting.drafts.lookup name with
  | none =>
    rw [commit_of_none hdraft]
    exact ⟨hnamed, made, hmade, hpasses⟩
  | some draft =>
    have hmem : name ∈ drafting.taken := isOpen_iff.mp (by rw [isOpen, hdraft]; rfl)
    have hfewer := length_filter_of_mem hnamed hmem
    obtain ⟨-, -, htells, -⟩ := commit_of_lookup hdraft now
    refine ⟨?_, made + 1, ?_, ?_⟩
    · rw [taken_commit]
      exact hnamed.filter _
    · rw [taken_commit]
      omega
    · rw [htells.passes, hpasses, UInt64.ofNat_add]
      rfl

/-- A draft under a name that had none has still to have its pass. -/
theorem Balanced.cons {asked : Nat} (h : drafting.Balanced asked) {name : String}
    (hnew : name ∉ drafting.taken) (draft : DesiredState) :
    ({ drafting with drafts := (name, draft) :: drafting.drafts } : Drafting σ).Balanced
      (asked + 1) := by
  obtain ⟨hnamed, made, hmade, hpasses⟩ := h
  refine ⟨List.nodup_cons.mpr ⟨hnew, hnamed⟩, made, ?_, hpasses⟩
  have hone : ({ drafting with drafts := (name, draft) :: drafting.drafts } : Drafting σ).taken =
      name :: drafting.taken := rfl
  rw [hone, List.length_cons]
  omega

/-- A draft that is edited has still to have its pass, as it had before, if it was open. -/
theorem Balanced.edit {asked : Nat} (h : drafting.Balanced asked)
    (change : DesiredState → DesiredState) (name : String) :
    (drafting.edit change name).2.Balanced
      (if drafting.isOpen name then asked else asked + 1) := by
  have hedited : (drafting.edit change name).2.taken =
      name :: drafting.taken.filter (· != name) := by
    simp only [taken, List.filter_map]
    rfl
  have hnamed : (name :: drafting.taken.filter (· != name)).Nodup :=
    List.nodup_cons.mpr ⟨by simp, h.named.filter _⟩
  obtain ⟨made, hmade, hpasses⟩ := h.counted
  refine ⟨hedited ▸ hnamed, made, ?_, hpasses⟩
  rw [hedited, List.length_cons]
  split
  · next hopen => rw [length_filter_of_mem h.named (isOpen_iff.mp hopen), hmade]
  · next hclosed =>
    rw [filter_of_not_mem fun hmem => hclosed (isOpen_iff.mpr hmem)]
    omega

/-- An edit that is applied at once has its pass. -/
theorem Balanced.apply {asked : Nat} (h : drafting.Balanced asked) (now : Moment)
    (change : DesiredState → DesiredState) :
    (drafting.pass (Reconciler.apply controls now change)).2.Balanced (asked + 1) := by
  obtain ⟨hnamed, made, hmade, hpasses⟩ := h
  have hsame : (drafting.pass (Reconciler.apply controls now change)).2.taken =
      drafting.taken := rfl
  have htells := drafting.reconciler.apply_tells controls now change drafting.state
  refine ⟨hnamed, made + 1, ?_, htells.passes.trans ?_⟩
  · rw [hsame]
    omega
  · rw [hpasses, UInt64.ofNat_add]
    rfl

/-- **Every step keeps them**, so they are balanced in every run. -/
theorem Asked.balanced {asked : Nat} (h : Asked controls asked drafting) :
    drafting.Balanced asked := by
  induction h with
  | start => exact ⟨List.nodup_nil, 0, rfl, rfl⟩
  | openDraft h now name ih =>
    -- the draft that had the name is committed first, so the name is free
    refine (ih.commit now name).cons ?_ _
    rw [taken_commit]
    simp
  | edit h change name ih => exact ih.edit change name
  | commit h now name ih => exact ih.commit now name
  | apply h now change ih => exact ih.apply now change

/-! ## 3. Giving up -/

/-- Commits the drafts of some names, one after the other. -/
def commitAll (controls : ResourceControls σ) (now : Moment) (names : List String)
    (drafting : Drafting σ) : Drafting σ :=
  names.foldl (fun drafting name => (drafting.commit controls now name).2) drafting

/-- Where all names that are taken have their turn no draft is left, and the last one counts. -/
theorem Balanced.commitAll {asked : Nat} (controls : ResourceControls σ) (now : Moment)
    (names : List String) :
    ∀ drafting : Drafting σ, drafting.Balanced asked → names.Perm drafting.taken →
      (drafting.commitAll controls now names).Balanced asked ∧
        (drafting.commitAll controls now names).drafts = [] ∧
        ∀ name draft, names.getLast? = some name → drafting.drafts.lookup name = some draft →
          (drafting.commitAll controls now names).reconciler.desired = draft := by
  induction names with
  | nil =>
    intro drafting h hnames
    exact ⟨h, List.map_eq_nil_iff.mp hnames.symm.eq_nil, nofun⟩
  | cons first rest ih =>
    intro drafting h hnames
    have hnodup : (first :: rest).Nodup := hnames.nodup_iff.mpr h.named
    have hrest : rest.Perm (drafting.commit controls now first).2.taken := by
      have hfirst : (first :: rest).filter (· != first) = rest := by
        rw [List.filter_cons_of_neg (by simp),
          filter_of_not_mem (List.nodup_cons.mp hnodup).1]
      rw [taken_commit, ← hfirst]
      exact hnames.filter _
    obtain ⟨hbalanced, hnone, hlast⟩ := ih _ (h.commit now first) hrest
    refine ⟨hbalanced, hnone, fun name draft hname hdraft => ?_⟩
    cases rest with
    | nil =>
      obtain rfl : first = name := by simpa using hname
      exact (commit_of_lookup hdraft now).2.1
    | cons second others =>
      rw [List.getLast?_cons_cons] at hname
      have hne : name ≠ first := fun hsame =>
        (List.nodup_cons.mp hnodup).1 (hsame ▸ List.mem_of_getLast? hname)
      exact hlast name draft hname ((lookup_commit hne now).trans hdraft)

/-- **No draft is lost.**  When all drafts have been given up there has been one pass for each that
was ever opened and for each edit that was applied at once, and what is desired is the draft that
came last. -/
theorem Asked.finish {asked : Nat} (h : Asked controls asked drafting) (now : Moment) :
    (drafting.finish controls now).drafts = [] ∧
      (drafting.finish controls now).reconciler.status.passes = .ofNat asked ∧
      ∀ name draft, drafting.names.getLast? = some name →
        drafting.drafts.lookup name = some draft →
        (drafting.finish controls now).reconciler.desired = draft := by
  have hnames : drafting.names.Perm drafting.taken := List.mergeSort_perm ..
  obtain ⟨⟨-, made, hmade, hpasses⟩, hnone, hlast⟩ :=
    h.balanced.commitAll controls now drafting.names drafting hnames
  refine ⟨hnone, ?_, hlast⟩
  have hall : made = asked := by
    rw [taken, hnone] at hmade
    exact hmade
  exact hall ▸ hpasses

end Drafting

namespace Rehearsal

open ResourceControls

variable {rehearsal : Rehearsal}

/-! ## 4. Where nothing fails -/

/-- Everything will succeed. -/
structure Accepts (rehearsal : Rehearsal) : Prop where
  loads : rehearsal.loads = true
  unloads : rehearsal.unloads = true
  setsPath : rehearsal.setPathMode = .accepts
  connects : rehearsal.connectMode = .accepts

/-- A connection that has to go is gone, and one that stays is as it should be. -/
theorem Accepts.cleared (h : rehearsal.Accepts) (wanted : ServerDesired) :
    (controls.cleared wanted rehearsal).Accepts ∧
      (controls.cleared wanted rehearsal).current.library = rehearsal.current.library ∧
      ((controls.cleared wanted rehearsal).current.server.connected = true →
        (controls.cleared wanted rehearsal).current.server.applies wanted.config = true) := by
  rw [ResourceControls.cleared]
  split
  · exact ⟨⟨h.loads, h.unloads, h.setsPath, h.connects⟩, rfl, (absurd · Bool.false_ne_true)⟩
  · next hkept =>
    refine ⟨h, rfl, fun hconnected => ?_⟩
    have hserver : (controls.server rehearsal).connected = true := hconnected
    rw [mustDrop, hserver, Bool.true_and, Bool.not_eq_true, Bool.or_eq_false_iff,
      Bool.not_eq_false', Bool.not_eq_false'] at hkept
    exact hkept.2

theorem connect_of_accepts (h : rehearsal.connectMode = .accepts) (config : ServerConfig) :
    controls.connect config rehearsal =
      (.ok (), (rehearsal.note ("connect " ++ config.address ++ " " ++
        config.location.name)).withServer ⟨true, some config⟩) := by
  simp [controls, connect, h, ConnectMode.error?]

/-- The server comes to be as it is wanted. -/
theorem Accepts.matchServer (h : rehearsal.Accepts) (wanted : ServerDesired) :
    ∃ after : Rehearsal, controls.matchServer wanted rehearsal = (.ok (), after) ∧
      after.Accepts ∧ after.current.library = rehearsal.current.library ∧
      after.current.server.connected = wanted.connected ∧
      (wanted.connected = true → after.current.server.applies wanted.config = true) := by
  obtain ⟨haccepts, hlibrary, hstays⟩ := h.cleared wanted
  cases hwanted : wanted.connected with
  | false =>
    obtain ⟨hloads, hunloads, hpath, hconnects⟩ := haccepts
    exact ⟨_, matchServer_unwanted hwanted, ⟨hloads, hunloads, hpath, hconnects⟩, hlibrary, rfl,
      (absurd · Bool.false_ne_true)⟩
  | true =>
    cases hconnected : (controls.server (controls.cleared wanted rehearsal)).connected with
    | true =>
      exact ⟨_, matchServer_connected hwanted hconnected, haccepts, hlibrary, hconnected,
        fun _ => hstays hconnected⟩
    | false =>
      obtain ⟨hloads, hunloads, hpath, hconnects⟩ := haccepts
      have hstep := matchServer_closed hwanted hconnected
      rw [connect_of_accepts hconnects] at hstep
      exact ⟨_, hstep, ⟨hloads, hunloads, hpath, hconnects⟩, hlibrary, rfl,
        fun _ => wanted.config.same_refl⟩

/-- A library that is not wanted is unloaded. -/
theorem Accepts.matchUnloaded (h : rehearsal.Accepts) (wanted : LibraryDesired) :
    ∃ after : Rehearsal, controls.matchUnloaded wanted rehearsal = (.ok (), after) ∧
      after.Accepts ∧ after.current.server = rehearsal.current.server ∧
      (after.current.library.loaded = true → wanted.loaded = true) := by
  obtain ⟨hloads, hunloads, hpath, hconnects⟩ := h
  cases hunwanted : !wanted.loaded && rehearsal.current.library.loaded with
  | true =>
    have hstep : controls.matchUnloaded wanted rehearsal = (.ok (), (rehearsal.note
        "unload").withLibrary { rehearsal.current.library with loaded := false }) := by
      simp [ResourceControls.matchUnloaded, controls, hunwanted, unload, hunloads]
    exact ⟨_, hstep, ⟨hloads, hunloads, hpath, hconnects⟩, rfl, (absurd · Bool.false_ne_true)⟩
  | false =>
    have hstep : controls.matchUnloaded wanted rehearsal = (.ok (), rehearsal) := by
      simp [ResourceControls.matchUnloaded, controls, hunwanted]
    refine ⟨_, hstep, ⟨hloads, hunloads, hpath, hconnects⟩, rfl, fun hloaded => ?_⟩
    rw [hloaded, Bool.and_true, Bool.not_eq_false'] at hunwanted
    exact hunwanted

/-- The library is pointed to the path that is wanted, and stays loaded or not. -/
theorem Accepts.matchPath (h : rehearsal.Accepts) (wanted : LibraryDesired) :
    ∃ after : Rehearsal, controls.matchPath wanted rehearsal = (.ok (), after) ∧
      after.Accepts ∧ after.current.server = rehearsal.current.server ∧
      after.current.library.loaded = rehearsal.current.library.loaded ∧
      Path.sameOption after.current.library.path wanted.path = true := by
  obtain ⟨hloads, hunloads, hpath, hconnects⟩ := h
  cases hsame : Path.sameOption rehearsal.current.library.path wanted.path with
  | true =>
    have hstep : controls.matchPath wanted rehearsal = (.ok (), rehearsal) := by
      simp [ResourceControls.matchPath, controls, hsame]
    exact ⟨_, hstep, ⟨hloads, hunloads, hpath, hconnects⟩, rfl, rfl, hsame⟩
  | false =>
    have hstep : controls.matchPath wanted rehearsal =
        (.ok (), (rehearsal.note ("set_path " ++ (wanted.path.map Path.text).getD "-")).withLibrary
          { rehearsal.current.library with path := wanted.path }) := by
      simp [ResourceControls.matchPath, controls, hsame, setPath, hpath]
    exact ⟨_, hstep, ⟨hloads, hunloads, hpath, hconnects⟩, rfl, rfl, Path.sameOption_refl _⟩

/-- A library that is wanted and has a path is loaded. -/
theorem Accepts.matchLoaded (h : rehearsal.Accepts) {wanted : LibraryDesired}
    (hready : wanted.loaded = true → wanted.path.isSome = true)
    (hwanted : rehearsal.current.library.loaded = true → wanted.loaded = true) :
    ∃ after : Rehearsal, controls.matchLoaded wanted rehearsal = (.ok (), after) ∧
      after.Accepts ∧ after.current.server = rehearsal.current.server ∧
      after.current.library.loaded = wanted.loaded ∧
      after.current.library.path = rehearsal.current.library.path := by
  obtain ⟨hloads, hunloads, hpath, hconnects⟩ := h
  cases hdue : wanted.loaded && !rehearsal.current.library.loaded with
  | true =>
    rw [Bool.and_eq_true, Bool.not_eq_true'] at hdue
    obtain ⟨path, hsome⟩ := Option.isSome_iff_exists.mp (hready hdue.1)
    have hstep : controls.matchLoaded wanted rehearsal = (.ok (), (rehearsal.note
        "load").withLibrary { rehearsal.current.library with loaded := true }) := by
      simp [ResourceControls.matchLoaded, controls, hsome, hdue, load, hloads]
    exact ⟨_, hstep, ⟨hloads, hunloads, hpath, hconnects⟩, rfl, hdue.1.symm, rfl⟩
  | false =>
    have hstep : controls.matchLoaded wanted rehearsal = (.ok (), rehearsal) := by
      unfold ResourceControls.matchLoaded
      split
      · rfl
      · simp [controls, hdue]
    refine ⟨_, hstep, ⟨hloads, hunloads, hpath, hconnects⟩, rfl, ?_, rfl⟩
    cases hloaded : rehearsal.current.library.loaded with
    | true => exact (hwanted hloaded).symm
    | false => simpa [hloaded] using hdue.symm

/-- **Where nothing fails one pass is enough**, unless a library is wanted that has no path yet. -/
theorem Accepts.matchAll (h : rehearsal.Accepts) (desired : DesiredState)
    (hready : desired.library.loaded = true → desired.library.path.isSome = true) :
    ∃ after : Rehearsal, controls.matchAll desired rehearsal = (.ok (), after) ∧
      after.Accepts ∧ (controls.current after).meets desired = true := by
  obtain ⟨served, hserve, hserved, -, hconnected, happlies⟩ := h.matchServer desired.server
  obtain ⟨unloaded, hunload, hunloaded, hserver₁, hgone⟩ := hserved.matchUnloaded desired.library
  obtain ⟨pointed, hpoint, hpointed, hserver₂, hkept, hpath⟩ :=
    hunloaded.matchPath desired.library
  obtain ⟨loaded, hload, hloaded, hserver₃, hlibrary, hsame⟩ :=
    hpointed.matchLoaded hready fun h => hgone (hkept ▸ h)
  have hserver : loaded.current.server = served.current.server :=
    hserver₃.trans (hserver₂.trans hserver₁)
  refine ⟨loaded, ?_, hloaded, ?_⟩
  · simp only [ResourceControls.matchAll, ResourceControls.matchLibrary, inTurn, hserve, hunload,
      hpoint, hload]
  · have hcurrent : controls.current loaded = loaded.current := rfl
    rw [hcurrent, CurrentState.meets, hserver, hconnected, hlibrary, hsame, hpath]
    cases hwanted : desired.server.connected with
    | true => simp [happlies hwanted]
    | false => simp

/-- **A draft that is committed is brought about**, and a pass after it changes nothing but the
record of what was asked for. -/
theorem commit_converges {drafting : Drafting Rehearsal} (h : drafting.state.Accepts) {name : String}
    {draft : DesiredState} (hdraft : drafting.drafts.lookup name = some draft)
    (hready : draft.library.loaded = true → draft.library.path.isSome = true) (now : Moment) :
    (drafting.commit controls now name).1 = some (.ok ()) ∧
      (drafting.commit controls now name).2.reconciler.status.converged = true ∧
      controls.matchAll draft (drafting.commit controls now name).2.state =
        (.ok (), if draft.server.connected then (drafting.commit controls now name).2.state
          else (drafting.commit controls now name).2.state.disconnect) := by
  obtain ⟨hresult, -, htells, hstate, -⟩ := Drafting.commit_of_lookup hdraft now
  obtain ⟨after, hpass, -, hmeets⟩ := h.matchAll draft hready
  rw [hpass] at hresult htells hstate
  refine ⟨hresult, htells.converged.mpr ⟨rfl, hmeets⟩, ?_⟩
  rw [hstate]
  exact matchAll_of_meets controls after hmeets rfl

end Rehearsal

end RenderSync
