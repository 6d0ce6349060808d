import RenderSync.Proofs.Library
import RenderSync.Proofs.LibraryLog

/-!
# What a loaded library knows

Uniform values and object instances are told at once, and to every fresh instance; programs are
told late, by each of the two passes on its own.  The slot keeps what was set, and for each pass
whether it has still to tell the programs.

`LibrarySlot.Mirrors` ties the slot to a log (`LibraryLog`): every field is what the log says it
is, and a pass has programs pending exactly while they are due (`LibraryLog.due`).
`LibrarySlot.Informed` is about the log alone: the instance has received what was set last, and the
log is in order.  Setting, telling, drawing, loading and unloading keep both (`LibrarySlot.Tracks`),
and each of these says so in one lemma.

An instance that has no place for object instances is never told any.  That it does not acquire one
later is asked of the loader (`LibraryLoader.IsFixed`).
-/

namespace RenderSync

variable {ι : Type}

/-- Whether an instance takes object instances does not depend on what it has received. -/
def LibraryLoader.IsFixed (loader : LibraryLoader ι) : Prop :=
  ∀ call loaded, loader.takesInstances (loader.receive call loaded) = loader.takesInstances loaded

theorem LibraryLoader.IsFixed.foldl {loader : LibraryLoader ι} (h : loader.IsFixed)
    (calls : List LibraryCall) (loaded : ι) :
    loader.takesInstances (calls.foldl (fun made call => loader.receive call made) loaded) =
      loader.takesInstances loaded := by
  induction calls generalizing loaded with
  | nil => rfl
  | cons call rest ih => rw [List.foldl_cons, ih, h]

/-- The same instances, made of other contents. -/
def LibraryLoader.loading (loader : LibraryLoader ι) (load : Content → Except LibraryError ι) :
    LibraryLoader ι := { loader with load := load }

namespace LibrarySlot

variable {loader : LibraryLoader ι} {slot : LibrarySlot ι} {log : LibraryLog ι} {loaded : ι}

/-! ## 1. Telling -/

/-- Tells the loaded library several things, one after the other. -/
def tell (loader : LibraryLoader ι) (calls : List LibraryCall) (slot : LibrarySlot ι) :
    LibrarySlot ι :=
  calls.foldl (fun told call => told.ask loader call) slot

/-- **Only the instance and the record change when something is told.** -/
theorem tell_of_some (slot : LibrarySlot ι) (calls : List LibraryCall)
    (h : slot.loaded = some loaded) :
    slot.tell loader calls =
      { slot with
        loaded := some (calls.foldl (fun made call => loader.receive call made) loaded)
        events := slot.events ++ calls.map .received } := by
  induction calls generalizing slot loaded with
  | nil => simp [tell, ← h]
  | cons call rest ih =>
    have hasked : slot.ask loader call =
        { slot with
          loaded := some (loader.receive call loaded)
          events := slot.events ++ [.received call] } := by rw [ask, h]; rfl
    rw [tell, List.foldl_cons, hasked]
    simp [tell] at ih
    simp [ih]

/-- The programs that a pass has still to tell. -/
def owed : LibraryPass → LibrarySlot ι → Option (List ShaderSource)
  | .final, slot => if slot.renderPending then slot.programs else none
  | .viewport, slot => if slot.viewportPending then slot.programs else none

/-- A pass has nothing to tell any more. -/
def settled : LibraryPass → LibrarySlot ι → LibrarySlot ι
  | .final, slot => { slot with renderPending := false }
  | .viewport, slot => { slot with viewportPending := false }

/-- The final pass is a round. -/
theorem render_eq (h : slot.loaded = some loaded) (width height : UInt32) (preview : Bool) :
    (slot.render loader width height preview).2 =
      (slot.tell loader (LibraryLog.round (slot.owed .final) (.setUp width height)
        (.render width height preview (Frame.empty width height).size))).settled .final := by
  obtain ⟨_, programs, renderPending, viewportPending, uniformValues, objectInstances, changes,
    events⟩ := slot
  obtain rfl := h
  cases renderPending <;> cases programs <;> rfl

/-- So is the viewport pass. -/
theorem viewportRender_eq (h : slot.loaded = some loaded) (width height : UInt32) :
    (slot.viewportRender loader width height).2 =
      (slot.tell loader (LibraryLog.round (slot.owed .viewport) (.viewportSetUp width height)
        (.viewportRender width height))).settled .viewport := by
  obtain ⟨_, programs, renderPending, viewportPending, uniformValues, objectInstances, changes,
    events⟩ := slot
  obtain rfl := h
  cases viewportPending <;> cases programs <;> rfl

/-- What a fresh instance is told. -/
def introduction (loader : LibraryLoader ι) (fresh : ι) (slot : LibrarySlot ι) :
    List LibraryCall :=
  slot.uniformValues.toList.map .uniformValues ++
    if loader.takesInstances fresh then slot.objectInstances.toList.map .objectInstances else []

/-- A fresh instance is told what is known. -/
theorem replay_eq (hfixed : loader.IsFixed) (slot : LibrarySlot ι) (h : slot.loaded = some loaded) :
    slot.replay loader = slot.tell loader (slot.introduction loader loaded) := by
  obtain ⟨_, programs, renderPending, viewportPending, uniformValues, objectInstances, changes,
    events⟩ := slot
  obtain rfl := h
  cases htakes : loader.takesInstances loaded <;> cases uniformValues <;> cases objectInstances <;>
    simp [replay, introduction, tell, askInstances, ask, note, htakes, hfixed _ loaded]

/-! ## 2. The slot and the log -/

open LibraryLog

/-- **The slot is what the log says it is.** -/
structure Mirrors (loader : LibraryLoader ι) (slot : LibrarySlot ι) (log : LibraryLog ι) :
    Prop where
  events : slot.events = log.filterMap LibraryMoment.event?
  loaded : slot.loaded = log.instance? loader
  programs : slot.programs = log.latest LibraryCall.programs?
  uniformValues : slot.uniformValues = log.latest LibraryCall.uniformValues?
  objectInstances : slot.objectInstances = log.latest LibraryCall.objectInstances?
  renderPending : slot.renderPending = (log.due .final).isSome
  viewportPending : slot.viewportPending = (log.due .viewport).isSome

/-- What is told and draws nothing leaves the slot what the log says. -/
theorem Mirrors.told (h : slot.Mirrors loader log) (hloaded : slot.loaded = some loaded)
    {calls : List LibraryCall} (hdraws : ∀ pass : LibraryPass, calls.any pass.draws = false) :
    (slot.tell loader calls).Mirrors loader (log ++ batch calls) := by
  have hheld : log.instance? loader = some loaded := h.loaded.symm.trans hloaded
  rw [tell_of_some slot calls hloaded]
  exact
    { events := by simp [h.events]
      loaded := by simp [hheld]
      programs := by simp [h.programs]
      uniformValues := by simp [h.uniformValues]
      objectInstances := by simp [h.objectInstances]
      renderPending := by simp [due, hdraws, h.renderPending]
      viewportPending := by simp [due, hdraws, h.viewportPending] }

/-- **The instance knows what it has to know**: the uniform values and, if it takes any, the object
instances that were set last; programs are told in order. -/
structure Informed (loader : LibraryLoader ι) (log : LibraryLog ι) : Prop where
  orderly : Orderly log
  uniformValues : ∀ loaded, log.instance? loader = some loaded →
    log.received LibraryCall.uniformValues? = log.latest LibraryCall.uniformValues?
  objectInstances : ∀ loaded, log.instance? loader = some loaded →
    log.received LibraryCall.objectInstances? =
      if loader.takesInstances loaded then log.latest LibraryCall.objectInstances? else none

/-- The slot and the log fit, and the instance is informed. -/
structure Tracks (loader : LibraryLoader ι) (slot : LibrarySlot ι) (log : LibraryLog ι) : Prop where
  mirrors : slot.Mirrors loader log
  informed : Informed loader log

/-- Nothing of that is about the contents that instances are made of. -/
theorem Tracks.loading (h : slot.Tracks loader log) (load : Content → Except LibraryError ι) :
    slot.Tracks (loader.loading load) log :=
  ⟨⟨h.mirrors.events, h.mirrors.loaded, h.mirrors.programs, h.mirrors.uniformValues,
    h.mirrors.objectInstances, h.mirrors.renderPending, h.mirrors.viewportPending⟩,
    ⟨h.informed.orderly, h.informed.uniformValues, h.informed.objectInstances⟩⟩

/-- An empty slot has an empty log. -/
theorem Tracks.empty : (LibrarySlot.empty : LibrarySlot ι).Tracks loader [] :=
  ⟨⟨rfl, rfl, rfl, rfl, rfl, rfl, rfl⟩, ⟨.start, nofun, nofun⟩⟩

/-! ## 3. Operations -/

/-- Calls that neither draw nor tell anything that was set. -/
def IsPlain (call : LibraryCall) : Prop :=
  (call.programs? = none ∧ ∀ pass : LibraryPass, pass.draws call = false) ∧
    call.uniformValues? = none ∧ call.objectInstances? = none

/-- **A plain call** changes nothing of what is known. -/
theorem Tracks.ask (hfixed : loader.IsFixed) (h : slot.Tracks loader log) {call : LibraryCall}
    (hplain : IsPlain call) :
    ∃ events : List (LibraryEvent ι),
      (slot.ask loader call).Tracks loader (log ++ events.map .happened) := by
  obtain ⟨haside, huniforms, hobjects⟩ := hplain
  cases hloaded : slot.loaded with
  | none =>
    refine ⟨[], ?_⟩
    rw [LibrarySlot.ask, hloaded, List.map_nil, List.append_nil]
    exact h
  | some loaded =>
    have hheld : log.instance? loader = some loaded := h.mirrors.loaded.symm.trans hloaded
    have htracks : (slot.tell loader [call]).Tracks loader (log ++ batch [call]) := by
      refine ⟨h.mirrors.told hloaded (by simp [haside.2]),
        h.informed.orderly.asides fun other hother => ?_, fun held hnow => ?_, fun held hnow => ?_⟩
      · obtain rfl := List.mem_singleton.mp hother
        exact haside
      · simpa [huniforms] using h.informed.uniformValues _ hheld
      · obtain rfl : loader.receive call loaded = held := by simpa [hheld] using hnow
        simpa [hobjects, hfixed call loaded] using h.informed.objectInstances _ hheld
    exact ⟨[.received call], htracks⟩

/-- What was set is only kept at first; the slot with it is what the log says. -/
def keep (slot : LibrarySlot ι) : LibraryCall → LibrarySlot ι
  | .programs sources => slot.setPrograms sources
  | .uniformValues values => { slot with uniformValues := some values }
  | .objectInstances instances => { slot with objectInstances := some instances }
  | _ => slot

/-- **What is set is kept.** -/
theorem Mirrors.keep (h : slot.Mirrors loader log) (call : LibraryCall) :
    (slot.keep call).Mirrors loader (log ++ [.set call]) := by
  have hevents : slot.events =
      (log ++ [LibraryMoment.set call]).filterMap LibraryMoment.event? := by
    rw [List.filterMap_append, h.events]
    exact (List.append_nil _).symm
  have hloaded : slot.loaded = (log ++ [LibraryMoment.set call]).instance? loader := by
    rw [instance?_append, h.loaded]
    rfl
  have hkept : ∀ {α : Type} {kind : LibraryCall → Option α} {known : Option α},
      known = log.latest kind → kind call = none →
        known = (log ++ [LibraryMoment.set call]).latest kind := by
    intro α kind known hknown hother
    rw [latest_append, hknown, LibraryMoment.sets?.eq_def]
    simp only [hother, Option.none_or]
  have hdue : call.programs? = none → ∀ pass,
      (log ++ [LibraryMoment.set call]).due pass = log.due pass := by
    intro hother pass
    refine due_append log pass hother fun before => ?_
    cases call with
    | programs => cases hother
    | _ => rfl
  cases call with
  | programs sources =>
    have hprograms : some sources =
        (log ++ [LibraryMoment.set (.programs sources)]).latest LibraryCall.programs? := by
      rw [latest_append]
      rfl
    have hdue : ∀ pass,
        true = ((log ++ [LibraryMoment.set (.programs sources)]).due pass).isSome := by
      intro pass
      rw [due, hasDrawn_append, ← hprograms]
      rfl
    exact ⟨hevents, hloaded, hprograms, hkept h.uniformValues rfl, hkept h.objectInstances rfl,
      hdue .final, hdue .viewport⟩
  | uniformValues values =>
    refine ⟨hevents, hloaded, hkept h.programs rfl, ?_, hkept h.objectInstances rfl,
      hdue rfl .final ▸ h.renderPending, hdue rfl .viewport ▸ h.viewportPending⟩
    rw [latest_append]
    rfl
  | objectInstances instances =>
    refine ⟨hevents, hloaded, hkept h.programs rfl, hkept h.uniformValues rfl, ?_,
      hdue rfl .final ▸ h.renderPending, hdue rfl .viewport ▸ h.viewportPending⟩
    rw [latest_append]
    rfl
  | _ =>
    exact ⟨hevents, hloaded, hkept h.programs rfl, hkept h.uniformValues rfl,
      hkept h.objectInstances rfl, hdue rfl .final ▸ h.renderPending,
      hdue rfl .viewport ▸ h.viewportPending⟩

/-- **What is set and not told does not make the instance less informed**, if it is not about
uniform values, nor about object instances where the instance takes them. -/
theorem Informed.kept (h : Informed loader log) {call : LibraryCall}
    (hcall : ∀ loaded, log.instance? loader = some loaded → call.uniformValues? = none ∧
      (call.objectInstances? = none ∨ loader.takesInstances loaded = false)) :
    Informed loader (log ++ [.set call]) := by
  refine ⟨h.orderly.aside _ trivial, fun loaded hloaded => ?_, fun loaded hloaded => ?_⟩
  · rw [instance?_append] at hloaded
    rw [received_append, latest_append, LibraryMoment.sets?.eq_def]
    simp only [(hcall loaded hloaded).1, Option.none_or]
    exact h.uniformValues loaded hloaded
  · rw [instance?_append] at hloaded
    rw [received_append, latest_append, LibraryMoment.sets?.eq_def]
    rcases (hcall loaded hloaded).2 with hnone | htakes
    · simp only [hnone, Option.none_or]
      exact h.objectInstances loaded hloaded
    · simpa [htakes, LibraryMoment.known] using h.objectInstances loaded hloaded

/-- **What is set and told at once keeps the instance informed.** -/
theorem Informed.told (hfixed : loader.IsFixed) (h : Informed loader log)
    (hloaded : log.instance? loader = some loaded) {call : LibraryCall}
    (haside : IsAside (.receives call : LibraryMoment ι))
    (hcall : call.objectInstances? = none ∨ loader.takesInstances loaded = true) :
    Informed loader (log ++ [.set call] ++ batch [call]) := by
  have hheld : ∀ held, instance? loader (log ++ [.set call] ++ batch [call]) = some held →
      loader.receive call loaded = held := by
    intro held hnow
    rw [instance?_batch, instance?_append, hloaded] at hnow
    exact Option.some.inj hnow
  refine ⟨(h.orderly.aside (.set call) trivial).asides fun other hother => ?_,
    fun held hnow => ?_, fun held hnow => ?_⟩
  · obtain rfl := List.mem_singleton.mp hother
    exact haside
  · rw [received_batch, latest_batch, latest_append, received_append]
    exact congrArg (call.uniformValues?.or ·) (h.uniformValues loaded hloaded)
  · have hknown := h.objectInstances loaded hloaded
    rw [← hheld held hnow, hfixed, received_batch, latest_batch, latest_append, received_append]
    rcases hcall with hnone | htakes
    · simpa [hnone, LibraryMoment.known, LibraryMoment.sets?] using hknown
    · rw [if_pos htakes] at hknown ⊢
      exact congrArg (call.objectInstances?.or ·) hknown

/-- **New programs** wait until they are told. -/
theorem Tracks.setPrograms (h : slot.Tracks loader log) (sources : List ShaderSource) :
    (slot.setPrograms sources).Tracks loader (log ++ [.set (.programs sources)]) :=
  ⟨h.mirrors.keep (.programs sources), h.informed.kept fun _ _ => ⟨rfl, Or.inl rfl⟩⟩

/-- **New uniform values** reach the instance at once. -/
theorem Tracks.setUniformValues (hfixed : loader.IsFixed) (h : slot.Tracks loader log)
    (values : List UniformValue) :
    ∃ events : List (LibraryEvent ι), (slot.setUniformValues loader values).Tracks loader
      (log ++ [.set (.uniformValues values)] ++ events.map .happened) := by
  have hkept := h.mirrors.keep (.uniformValues values)
  cases hloaded : slot.loaded with
  | none =>
    have hheld : log.instance? loader = none := h.mirrors.loaded.symm.trans hloaded
    have heq : slot.setUniformValues loader values = slot.keep (.uniformValues values) := by
      simp [LibrarySlot.setUniformValues, LibrarySlot.ask, hloaded, LibrarySlot.keep]
    refine ⟨[], ?_⟩
    rw [heq, List.map_nil, List.append_nil]
    exact ⟨hkept, h.informed.kept fun _ hnow =>
      absurd (hheld.symm.trans hnow) (Option.some_ne_none _).symm⟩
  | some loaded =>
    have hheld : log.instance? loader = some loaded := h.mirrors.loaded.symm.trans hloaded
    have heq : slot.setUniformValues loader values =
        (slot.keep (.uniformValues values)).tell loader [.uniformValues values] := by
      rw [tell_of_some (slot.keep (.uniformValues values)) _ hloaded,
        LibrarySlot.setUniformValues, LibrarySlot.ask, hloaded]
      rfl
    have hdraws : ∀ pass : LibraryPass, pass.draws (.uniformValues values) = false :=
      fun pass => by cases pass <;> rfl
    refine ⟨[.received (.uniformValues values)], ?_⟩
    rw [heq]
    exact ⟨hkept.told hloaded (by simp [hdraws]),
      h.informed.told hfixed hheld ⟨rfl, hdraws⟩ (Or.inl rfl)⟩

/-- **New object instances** do as well, if the instance takes any. -/
theorem Tracks.setObjectInstances (hfixed : loader.IsFixed) (h : slot.Tracks loader log)
    (instances : List ObjectInstance) :
    ∃ events : List (LibraryEvent ι), (slot.setObjectInstances loader instances).Tracks loader
      (log ++ [.set (.objectInstances instances)] ++ events.map .happened) := by
  have hkept := h.mirrors.keep (.objectInstances instances)
  cases hloaded : slot.loaded with
  | none =>
    have hheld : log.instance? loader = none := h.mirrors.loaded.symm.trans hloaded
    have heq : slot.setObjectInstances loader instances =
        slot.keep (.objectInstances instances) := by
      simp [LibrarySlot.setObjectInstances, LibrarySlot.askInstances, hloaded, LibrarySlot.keep]
    refine ⟨[], ?_⟩
    rw [heq, List.map_nil, List.append_nil]
    exact ⟨hkept, h.informed.kept fun _ hnow =>
      absurd (hheld.symm.trans hnow) (Option.some_ne_none _).symm⟩
  | some loaded =>
    have hheld : log.instance? loader = some loaded := h.mirrors.loaded.symm.trans hloaded
    cases htakes : loader.takesInstances loaded with
    | false =>
      have heq : slot.setObjectInstances loader instances =
          slot.keep (.objectInstances instances) := by
        simp [LibrarySlot.setObjectInstances, LibrarySlot.askInstances, hloaded, htakes,
          LibrarySlot.keep]
      refine ⟨[], ?_⟩
      rw [heq, List.map_nil, List.append_nil]
      refine ⟨hkept, h.informed.kept fun held hnow => ⟨rfl, Or.inr ?_⟩⟩
      obtain rfl : loaded = held := Option.some.inj (hheld.symm.trans hnow)
      exact htakes
    | true =>
      have heq : slot.setObjectInstances loader instances =
          (slot.keep (.objectInstances instances)).tell loader [.objectInstances instances] := by
        rw [tell_of_some (slot.keep (.objectInstances instances)) _ hloaded]
        simp [LibrarySlot.setObjectInstances, LibrarySlot.askInstances, LibrarySlot.ask, hloaded,
          htakes, LibrarySlot.keep, note]
      have hdraws : ∀ pass : LibraryPass, pass.draws (.objectInstances instances) = false :=
        fun pass => by cases pass <;> rfl
      refine ⟨[.received (.objectInstances instances)], ?_⟩
      rw [heq]
      exact ⟨hkept.told hloaded (by simp [hdraws]),
        h.informed.told hfixed hheld ⟨rfl, hdraws⟩ (Or.inr htakes)⟩

/-- **A round keeps the instance informed**: it is not about uniform values or object
instances. -/
theorem Informed.drawn (hfixed : loader.IsFixed) (h : Informed loader log)
    (hloaded : log.instance? loader = some loaded) (pass : LibraryPass) {up draw : LibraryCall}
    (hup : pass.setsUp up = true) (hdraw : pass.draws draw = true) :
    Informed loader (log ++ batch (round (log.due pass) up draw)) := by
  have hround := round_only hup hdraw (log.due pass)
  refine ⟨h.orderly.drawn pass hup hdraw, fun held _ => ?_, fun held hnow => ?_⟩
  · rw [latest_batch, received_batch_of_none log _ fun call hcall => (hround call hcall).1]
    exact h.uniformValues loaded hloaded
  · rw [instance?_batch, hloaded] at hnow
    rw [latest_batch, received_batch_of_none log _ fun call hcall => (hround call hcall).2,
      ← Option.some.inj hnow, hfixed.foldl]
    exact h.objectInstances loaded hloaded

/-- What a pass owes is what is due to it. -/
theorem Mirrors.owed (h : slot.Mirrors loader log) (pass : LibraryPass) :
    slot.owed pass = log.due pass := by
  have hdue : (if (log.due pass).isSome then log.latest LibraryCall.programs? else none) =
      log.due pass := by
    rw [due]
    cases log.hasDrawn pass with
    | true => rfl
    | false => cases log.latest LibraryCall.programs? <;> rfl
  cases pass with
  | final => rw [LibrarySlot.owed, h.renderPending, h.programs, hdue]
  | viewport => rw [LibrarySlot.owed, h.viewportPending, h.programs, hdue]

/-- **A round leaves nothing due to its pass**, and to the other one what is due to it. -/
theorem Mirrors.drawn (h : slot.Mirrors loader log) (hloaded : slot.loaded = some loaded)
    (pass : LibraryPass) {up draw : LibraryCall} (hup : pass.setsUp up = true)
    (hdraw : pass.draws draw = true) :
    ((slot.tell loader (round (log.due pass) up draw)).settled pass).Mirrors loader
      (log ++ batch (round (log.due pass) up draw)) := by
  have hheld : log.instance? loader = some loaded := h.loaded.symm.trans hloaded
  have hdrawn := any_draws_round hup hdraw (log.due pass)
  have hown : (log ++ batch (round (log.due pass) up draw)).due pass = none := by
    rw [due, hasDrawn_batch, hdrawn, decide_eq_true rfl, Bool.or_true, if_pos rfl]
  have hother : ∀ other, other ≠ pass →
      (log ++ batch (round (log.due pass) up draw)).due other = log.due other := by
    intro other hne
    rw [due, hasDrawn_batch, hdrawn, decide_eq_false hne, Bool.or_false, latest_batch, ← due]
  rw [tell_of_some slot _ hloaded]
  cases pass with
  | final =>
    exact
      { events := by simp [settled, h.events]
        loaded := by simp [settled, hheld]
        programs := by simp [settled, h.programs]
        uniformValues := by simp [settled, h.uniformValues]
        objectInstances := by simp [settled, h.objectInstances]
        renderPending := by rw [hown]; rfl
        viewportPending := by rw [hother .viewport (by decide)]; exact h.viewportPending }
  | viewport =>
    exact
      { events := by simp [settled, h.events]
        loaded := by simp [settled, hheld]
        programs := by simp [settled, h.programs]
        uniformValues := by simp [settled, h.uniformValues]
        objectInstances := by simp [settled, h.objectInstances]
        renderPending := by rw [hother .final (by decide)]; exact h.renderPending
        viewportPending := by rw [hown]; rfl }

/-- **A drawing is a round.** -/
theorem Tracks.drawn (hfixed : loader.IsFixed) (h : slot.Tracks loader log)
    (hloaded : slot.loaded = some loaded) (pass : LibraryPass) {up draw : LibraryCall}
    (hup : pass.setsUp up = true) (hdraw : pass.draws draw = true) :
    ∃ events : List (LibraryEvent ι),
      ((slot.tell loader (round (slot.owed pass) up draw)).settled pass).Tracks loader
        (log ++ events.map .happened) := by
  have hheld : log.instance? loader = some loaded := h.mirrors.loaded.symm.trans hloaded
  refine ⟨(round (log.due pass) up draw).map .received, ?_⟩
  rw [h.mirrors.owed, List.map_map]
  exact ⟨h.mirrors.drawn hloaded pass hup hdraw, h.informed.drawn hfixed hheld pass hup hdraw⟩

/-- The final pass draws where an instance is loaded, -/
theorem Tracks.render (hfixed : loader.IsFixed) (h : slot.Tracks loader log)
    (width height : UInt32) (preview : Bool) :
    ∃ events : List (LibraryEvent ι), (slot.render loader width height preview).2.Tracks loader
      (log ++ events.map .happened) := by
  cases hloaded : slot.loaded with
  | none =>
    refine ⟨[], ?_⟩
    rw [LibrarySlot.render, hloaded, List.map_nil, List.append_nil]
    exact h
  | some loaded =>
    rw [render_eq hloaded]
    exact h.drawn hfixed hloaded .final rfl rfl

/-- and so does the viewport pass. -/
theorem Tracks.viewportRender (hfixed : loader.IsFixed) (h : slot.Tracks loader log)
    (width height : UInt32) :
    ∃ events : List (LibraryEvent ι), (slot.viewportRender loader width height).2.Tracks loader
      (log ++ events.map .happened) := by
  cases hloaded : slot.loaded with
  | none =>
    refine ⟨[], ?_⟩
    rw [LibrarySlot.viewportRender, hloaded, List.map_nil, List.append_nil]
    exact h
  | some loaded =>
    rw [viewportRender_eq hloaded]
    exact h.drawn hfixed hloaded .viewport rfl rfl

/-! ## 4. Loading and unloading -/

/-- **What happens is noted.** -/
theorem Mirrors.note (h : slot.Mirrors loader log) (event : LibraryEvent ι)
    (hdrawn : ∀ pass before, LibraryMoment.drawn pass before (.happened event) = before) :
    (({ slot with loaded := LibraryMoment.held loader slot.loaded (.happened event) } :
      LibrarySlot ι).note event).Mirrors loader (log ++ [.happened event]) := by
  refine ⟨?_, ?_, ?_, ?_, ?_, ?_, ?_⟩
  · rw [List.filterMap_append, ← h.events]
    rfl
  · rw [instance?_append, ← h.loaded]
    rfl
  · rw [latest_append]
    exact h.programs
  · rw [latest_append]
    exact h.uniformValues
  · rw [latest_append]
    exact h.objectInstances
  · rw [due_append log .final rfl (hdrawn .final)]
    exact h.renderPending
  · rw [due_append log .viewport rfl (hdrawn .viewport)]
    exact h.viewportPending

/-- **With a fresh instance programs are due to both passes again.** -/
theorem Mirrors.fresh (h : slot.Mirrors loader log) (copy : Path) (content : Content) (fresh : ι) :
    ({ slot.note (.tried copy content (.ok fresh)) with loaded := some fresh } :
      LibrarySlot ι).markPending.Mirrors loader
        (log ++ [.happened (.tried copy content (.ok fresh))]) := by
  have hdue : ∀ pass, slot.programs.isSome =
      ((log ++ [LibraryMoment.happened (.tried copy content (.ok fresh))]).due pass).isSome := by
    intro pass
    rw [due, hasDrawn_append, latest_append, h.programs]
    rfl
  refine ⟨?_, ?_, ?_, ?_, ?_, hdue .final, hdue .viewport⟩
  · rw [List.filterMap_append, ← h.events]
    rfl
  · rw [instance?_append]
    rfl
  · rw [latest_append]
    exact h.programs
  · rw [latest_append]
    exact h.uniformValues
  · rw [latest_append]
    exact h.objectInstances

/-- How often changes were announced is not in the log. -/
theorem Mirrors.announce (h : slot.Mirrors loader log) : slot.announce.Mirrors loader log :=
  ⟨h.events, h.loaded, h.programs, h.uniformValues, h.objectInstances, h.renderPending,
    h.viewportPending⟩

/-- An introduction neither draws nor tells programs. -/
theorem introduction_aside (loader : LibraryLoader ι) (fresh : ι) (slot : LibrarySlot ι) :
    ∀ call ∈ slot.introduction loader fresh, IsAside (.receives call : LibraryMoment ι) := by
  intro call hcall
  simp only [introduction, List.mem_append, List.mem_map] at hcall
  rcases hcall with ⟨values, -, rfl⟩ | hinstances
  · exact ⟨rfl, fun pass => by cases pass <;> rfl⟩
  · split at hinstances
    · obtain ⟨instances, -, rfl⟩ := List.mem_map.mp hinstances
      exact ⟨rfl, fun pass => by cases pass <;> rfl⟩
    · cases hinstances

/-- **After an introduction a fresh instance is informed.** -/
theorem Informed.introduced (hfixed : loader.IsFixed) (h : Informed loader log)
    (hmirrors : slot.Mirrors loader log) (copy : Path) (content : Content) (fresh : ι) :
    Informed loader (log ++ [.happened (.tried copy content (.ok fresh))] ++
      batch (slot.introduction loader fresh)) := by
  refine ⟨(h.orderly.aside (.happened (.tried copy content (.ok fresh))) trivial).asides
    (introduction_aside loader fresh slot), fun held _ => ?_, fun held hnow => ?_⟩
  · rw [received_batch, latest_batch, latest_append, received_append]
    refine Eq.trans ?_ hmirrors.uniformValues
    unfold introduction
    cases slot.uniformValues <;> cases slot.objectInstances <;>
      cases loader.takesInstances fresh <;> rfl
  · rw [instance?_batch, instance?_append] at hnow
    rw [← Option.some.inj hnow, hfixed.foldl, received_batch, latest_batch, latest_append,
      received_append]
    change _ = if loader.takesInstances fresh then log.latest LibraryCall.objectInstances? else none
    rw [← hmirrors.objectInstances]
    unfold introduction
    cases slot.uniformValues <;> cases slot.objectInstances <;>
      cases loader.takesInstances fresh <;> rfl

/-- A library that is refused changes nothing about who knows what. -/
theorem Informed.refused (h : Informed loader log) (copy : Path) (content : Content)
    (e : LibraryError) :
    Informed loader (log ++ [.happened (.tried copy content (.error e))]) := by
  refine ⟨h.orderly.aside _ trivial, fun loaded hloaded => ?_, fun loaded hloaded => ?_⟩
  · rw [instance?_append] at hloaded
    rw [received_append, latest_append]
    exact h.uniformValues loaded hloaded
  · rw [instance?_append] at hloaded
    rw [received_append, latest_append]
    exact h.objectInstances loaded hloaded

/-- **A fresh instance is told what is known**, and a refusal is noted. -/
theorem Tracks.opened (hfixed : loader.IsFixed) (h : slot.Tracks loader log) (files : FileTree)
    (copy : Path) :
    ∃ events : List (LibraryEvent ι), (slot.opened loader files copy).2.Tracks loader
      (log ++ events.map .happened) := by
  obtain ⟨hmirrors, hinformed⟩ := h
  cases hload : loader.load (contentAt files copy) with
  | error e =>
    let refused : LibraryEvent ι := .tried copy (contentAt files copy) (.error e)
    have hnoted : (slot.note refused).Mirrors loader (log ++ [.happened refused]) :=
      hmirrors.note refused fun pass before => rfl
    rw [opened_of_error slot hload]
    exact ⟨[refused], hnoted, hinformed.refused copy (contentAt files copy) e⟩
  | ok fresh =>
    let made : LibrarySlot ι :=
      { slot.note (.tried copy (contentAt files copy) (.ok fresh)) with loaded := some fresh }
    have hmade : (slot.opened loader files copy).2 =
        (made.markPending.tell loader (slot.introduction loader fresh)).announce := by
      have hopened : (slot.opened loader files copy).2 =
          (made.replay loader).markPending.announce := by
        simp only [LibrarySlot.opened]
        rw [show (files.content? copy).getD (.octets []) = contentAt files copy from rfl, hload]
      rw [hopened, replay_eq hfixed made rfl, tell_of_some made _ rfl,
        tell_of_some made.markPending _ rfl]
      rfl
    refine ⟨.tried copy (contentAt files copy) (.ok fresh) ::
      (slot.introduction loader fresh).map .received, ?_⟩
    have hdraws : ∀ pass : LibraryPass,
        (slot.introduction loader fresh).any pass.draws = false := fun pass =>
      List.any_eq_false.mpr fun call hcall =>
        Bool.eq_false_iff.mp ((introduction_aside loader fresh slot call hcall).2 pass)
    have hloaded : made.markPending.loaded = some fresh := rfl
    have htold := (hmirrors.fresh copy (contentAt files copy) fresh).told hloaded hdraws
    have hknown := hinformed.introduced hfixed hmirrors copy (contentAt files copy) fresh
    rw [hmade]
    rw [List.append_assoc] at htold hknown
    rw [List.map_cons, List.map_map]
    exact ⟨htold.announce, hknown⟩

/-- **An unloaded instance is gone**; what was set is kept for the next one. -/
theorem Tracks.closed (h : slot.Tracks loader log) :
    ∃ events : List (LibraryEvent ι), slot.closed.Tracks loader (log ++ events.map .happened) := by
  cases hloaded : slot.loaded with
  | none =>
    refine ⟨[], ?_⟩
    rw [LibrarySlot.closed, hloaded, List.map_nil, List.append_nil]
    exact ⟨h.mirrors.announce, h.informed⟩
  | some loaded =>
    have hgone : (log ++ [LibraryMoment.happened (.dropped loaded)]).instance? loader = none := by
      rw [instance?_append]
      rfl
    have hknown : Informed loader (log ++ [.happened (.dropped loaded)]) :=
      ⟨h.informed.orderly.aside _ trivial,
        fun _ hnow => absurd (hgone.symm.trans hnow) (Option.some_ne_none _).symm,
        fun _ hnow => absurd (hgone.symm.trans hnow) (Option.some_ne_none _).symm⟩
    have hnoted := (h.mirrors.note (.dropped loaded) fun pass before => rfl).announce
    rw [LibrarySlot.closed, hloaded]
    exact ⟨[.dropped loaded], hnoted, hknown⟩

end LibrarySlot

end RenderSync
