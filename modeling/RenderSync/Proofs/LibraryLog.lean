import RenderSync.Library.Slot

/-!
# The log of a library

What was set for the library and what happened to its instances, in one order.  The record of
events alone would not do: whether an instance knows what was set last can only be asked of a log
that has both.

Everything that is asked is a fold over the log: what was set last (`latest`), what the instance
has received last since it was loaded (`received`), whether a pass has drawn since the instance was
loaded or other programs were set (`hasDrawn`), and what the instance is by now (`instance?`).  Each
has a lemma for a moment more, and one for a batch of calls.

`Orderly` is the order of drawing.  A pass sets itself up, tells programs if they are due, and
draws; programs are told at no other time.  `Orderly.draws` and `Orderly.tells` say so of every
place in a log.
-/

namespace RenderSync

variable {ι α : Type}

/-- Something that was set, as the call that tells it, or something that happened. -/
inductive LibraryMoment (ι : Type) where
  | set (call : LibraryCall)
  | happened (event : LibraryEvent ι)

/-- What was set and what happened, oldest first. -/
abbrev LibraryLog (ι : Type) := List (LibraryMoment ι)

/-! ## 1. Calls -/

namespace LibraryCall

/-- The programs that are told. -/
def programs? : LibraryCall → Option (List ShaderSource)
  | programs sources => some sources
  | _ => none

/-- The values of uniforms that are told. -/
def uniformValues? : LibraryCall → Option (List UniformValue)
  | uniformValues values => some values
  | _ => none

/-- The object instances that are told. -/
def objectInstances? : LibraryCall → Option (List ObjectInstance)
  | objectInstances instances => some instances
  | _ => none

@[simp] theorem programs?_programs (sources : List ShaderSource) :
    (programs sources).programs? = some sources := rfl

end LibraryCall

/-- One of the two ways to draw. -/
inductive LibraryPass where
  | final
  | viewport
deriving DecidableEq

namespace LibraryPass

/-- The call makes the pass ready. -/
def setsUp : LibraryPass → LibraryCall → Bool
  | final, .setUp .. => true
  | viewport, .viewportSetUp .. => true
  | _, _ => false

/-- The call draws the pass. -/
def draws : LibraryPass → LibraryCall → Bool
  | final, .render .. => true
  | viewport, .viewportRender .. => true
  | _, _ => false

end LibraryPass

/-! ## 2. Moments -/

namespace LibraryMoment

/-- The event that happened. -/
def event? : LibraryMoment ι → Option (LibraryEvent ι)
  | set _ => none
  | happened event => some event

/-- What is set of a kind. -/
def sets? (kind : LibraryCall → Option α) : LibraryMoment ι → Option α
  | set call => kind call
  | happened _ => none

/-- The instance receives a call. -/
def receives (call : LibraryCall) : LibraryMoment ι := .happened (.received call)

/-- What the instance has received last of a kind, by now. -/
def known (kind : LibraryCall → Option α) (before : Option α) : LibraryMoment ι → Option α
  | happened (.tried _ _ (.ok _)) => none
  | happened (.received call) => (kind call).or before
  | _ => before

/-- Whether the pass has drawn, by now. -/
def drawn (pass : LibraryPass) (before : Bool) : LibraryMoment ι → Bool
  | set (.programs _) => false
  | happened (.tried _ _ (.ok _)) => false
  | happened (.received call) => before || pass.draws call
  | _ => before

/-- The instance, by now. -/
def held (loader : LibraryLoader ι) (before : Option ι) : LibraryMoment ι → Option ι
  | happened (.tried _ _ (.ok fresh)) => some fresh
  | happened (.received call) => before.map (loader.receive call)
  | happened (.dropped _) => none
  | _ => before

end LibraryMoment

namespace LibraryLog

/-! ## 3. What a log says -/

/-- The last that was set of a kind. -/
def latest (kind : LibraryCall → Option α) (log : LibraryLog ι) : Option α :=
  log.foldl (fun known moment => (moment.sets? kind).or known) none

/-- The last of a kind that the instance has received since it was loaded. -/
def received (kind : LibraryCall → Option α) (log : LibraryLog ι) : Option α :=
  log.foldl (LibraryMoment.known kind) none

/-- The pass has drawn since the instance was loaded and the programs were set. -/
def hasDrawn (pass : LibraryPass) (log : LibraryLog ι) : Bool :=
  log.foldl (LibraryMoment.drawn pass) false

/-- The programs that the pass is to tell when it draws next. -/
def due (pass : LibraryPass) (log : LibraryLog ι) : Option (List ShaderSource) :=
  if log.hasDrawn pass then none else log.latest LibraryCall.programs?

/-- The instance that is loaded, with all that it has received. -/
def instance? (loader : LibraryLoader ι) (log : LibraryLog ι) : Option ι :=
  log.foldl (LibraryMoment.held loader) none

/-- A batch of calls that the instance receives. -/
def batch (calls : List LibraryCall) : LibraryLog ι := calls.map .receives

/-! ## 4. A log that grows -/

variable (log : LibraryLog ι) (kind : LibraryCall → Option α) (pass : LibraryPass)

theorem append_batch_cons (call : LibraryCall) (calls : List LibraryCall) :
    log ++ batch (call :: calls) = (log ++ [.receives call]) ++ batch calls := by
  rw [List.append_assoc]
  rfl

theorem latest_append (moment : LibraryMoment ι) :
    latest kind (log ++ [moment]) = (moment.sets? kind).or (latest kind log) := by
  rw [latest, List.foldl_append]
  rfl

theorem received_append (moment : LibraryMoment ι) :
    received kind (log ++ [moment]) = moment.known kind (received kind log) := by
  rw [received, List.foldl_append]
  rfl

theorem hasDrawn_append (moment : LibraryMoment ι) :
    hasDrawn pass (log ++ [moment]) = moment.drawn pass (hasDrawn pass log) := by
  rw [hasDrawn, List.foldl_append]
  rfl

theorem instance?_append (loader : LibraryLoader ι) (moment : LibraryMoment ι) :
    instance? loader (log ++ [moment]) = moment.held loader (instance? loader log) := by
  rw [instance?, List.foldl_append]
  rfl

/-- What is due stays due where no programs are set, nothing is loaded and nothing is drawn. -/
theorem due_append {moment : LibraryMoment ι} (hsets : moment.sets? LibraryCall.programs? = none)
    (hdrawn : ∀ before, moment.drawn pass before = before) :
    due pass (log ++ [moment]) = due pass log := by
  rw [due, due, hasDrawn_append, latest_append, hdrawn, hsets, Option.none_or]

/-- **A batch sets nothing.** -/
@[simp] theorem latest_batch (calls : List LibraryCall) :
    latest kind (log ++ batch calls) = latest kind log := by
  induction calls generalizing log with
  | nil => rw [batch, List.map_nil, List.append_nil]
  | cons call rest ih =>
    rw [append_batch_cons, ih, latest_append]
    rfl

/-- What is received last is the last of the batch, -/
@[simp] theorem received_batch (calls : List LibraryCall) :
    received kind (log ++ batch calls) =
      calls.foldl (fun known call => (kind call).or known) (received kind log) := by
  induction calls generalizing log with
  | nil => rw [batch, List.map_nil, List.append_nil, List.foldl_nil]
  | cons call rest ih =>
    rw [append_batch_cons, ih, received_append]
    rfl

/-- nothing of a kind that the batch does not tell, -/
theorem received_batch_of_none {calls : List LibraryCall}
    (hnone : ∀ call ∈ calls, kind call = none) :
    received kind (log ++ batch calls) = received kind log := by
  rw [received_batch]
  induction calls generalizing log with
  | nil => rfl
  | cons call rest ih =>
    rw [List.foldl_cons, hnone call List.mem_cons_self, Option.none_or]
    exact ih log fun other hother => hnone other (List.mem_cons_of_mem _ hother)

/-- a pass has drawn if it draws in the batch, -/
@[simp] theorem hasDrawn_batch (calls : List LibraryCall) :
    hasDrawn pass (log ++ batch calls) = (hasDrawn pass log || calls.any pass.draws) := by
  induction calls generalizing log with
  | nil => rw [batch, List.map_nil, List.append_nil, List.any_nil, Bool.or_false]
  | cons call rest ih =>
    rw [append_batch_cons, ih, hasDrawn_append, List.any_cons, ← Bool.or_assoc]
    rfl

/-- and the instance has received the calls one by one. -/
@[simp] theorem instance?_batch (loader : LibraryLoader ι) (calls : List LibraryCall) :
    instance? loader (log ++ batch calls) =
      (instance? loader log).map fun held =>
        calls.foldl (fun made call => loader.receive call made) held := by
  induction calls generalizing log with
  | nil => simp [batch]
  | cons call rest ih =>
    rw [append_batch_cons, ih, instance?_append]
    cases instance? loader log <;> rfl

/-- What happened is what was received. -/
@[simp] theorem filterMap_event?_batch (calls : List LibraryCall) :
    (batch calls : LibraryLog ι).filterMap LibraryMoment.event? = calls.map .received := by
  induction calls with
  | nil => rfl
  | cons call rest ih => exact congrArg (LibraryEvent.received call :: ·) ih

/-! ## 5. The order of drawing -/

/-- Neither a drawing nor the telling of programs. -/
def IsAside : LibraryMoment ι → Prop
  | .happened (.received call) =>
    call.programs? = none ∧ ∀ pass : LibraryPass, pass.draws call = false
  | _ => True

/-- What a pass does when it draws: it sets itself up, tells what is due, and draws. -/
def round (due : Option (List ShaderSource)) (up draw : LibraryCall) : List LibraryCall :=
  up :: (due.toList.map .programs ++ [draw])

/-- **A log in order**: every drawing is one of a round, and so is every telling of programs. -/
inductive Orderly : LibraryLog ι → Prop where
  | start : Orderly []
  | aside {log : LibraryLog ι} (moment : LibraryMoment ι) : Orderly log → IsAside moment →
      Orderly (log ++ [moment])
  | drawn {log : LibraryLog ι} (pass : LibraryPass) {up draw : LibraryCall} : Orderly log →
      pass.setsUp up = true → pass.draws draw = true →
      Orderly (log ++ batch (round (log.due pass) up draw))

/-- What is received besides drawing leaves a log in order. -/
theorem Orderly.asides {log : LibraryLog ι} (h : Orderly log) {calls : List LibraryCall}
    (haside : ∀ call ∈ calls, IsAside (.receives call : LibraryMoment ι)) :
    Orderly (log ++ batch calls) := by
  induction calls generalizing log with
  | nil =>
    rw [batch, List.map_nil, List.append_nil]
    exact h
  | cons call rest ih =>
    rw [append_batch_cons]
    exact ih (h.aside _ (haside call List.mem_cons_self)) fun other hother =>
      haside other (List.mem_cons_of_mem _ hother)

/-- A place in a log is in the older part or in the newer. -/
theorem split_append {log more before after : List α} {moment : α}
    (h : log ++ more = before ++ moment :: after) :
    (∃ rest, log = before ++ moment :: rest ∧ after = rest ++ more) ∨
      ∃ front, before = log ++ front ∧ more = front ++ moment :: after := by
  rcases List.append_eq_append_iff.mp h with ⟨front, hbefore, hmore⟩ | ⟨rest, hlog, hrest⟩
  · exact Or.inr ⟨front, hbefore, hmore⟩
  · cases rest with
    | nil => exact Or.inr ⟨[], by simpa using hlog.symm, by simpa using hrest.symm⟩
    | cons first rest =>
      rw [List.cons_append] at hrest
      obtain ⟨rfl, rfl⟩ := List.cons.inj hrest
      exact Or.inl ⟨rest, hlog, rfl⟩

theorem setsUp_aside {pass : LibraryPass} {up : LibraryCall} (h : pass.setsUp up = true) :
    up.programs? = none ∧ ∀ other : LibraryPass, other.draws up = false := by
  cases up <;> cases pass <;>
    first
    | exact absurd h Bool.false_ne_true
    | exact ⟨rfl, fun other => by cases other <;> rfl⟩

/-- A pass draws in its own way. -/
theorem draws_unique {pass other : LibraryPass} {draw : LibraryCall} (h : pass.draws draw = true)
    (h' : other.draws draw = true) : pass = other := by
  cases draw <;> cases pass <;> cases other <;>
    first
    | rfl
    | exact absurd h Bool.false_ne_true
    | exact absurd h' Bool.false_ne_true

theorem programs?_of_draws {pass : LibraryPass} {draw : LibraryCall} (h : pass.draws draw = true) :
    draw.programs? = none := by
  cases draw with
  | programs => cases pass <;> cases h
  | _ => rfl

/-- What sets up or draws tells no values and no instances. -/
theorem acts_only {pass : LibraryPass} {call : LibraryCall}
    (h : pass.setsUp call = true ∨ pass.draws call = true) :
    call.uniformValues? = none ∧ call.objectInstances? = none := by
  cases call <;> cases pass <;>
    first
    | exact ⟨rfl, rfl⟩
    | exact h.elim (absurd · Bool.false_ne_true) (absurd · Bool.false_ne_true)

/-- A round does not, either. -/
theorem round_only {pass : LibraryPass} {up draw : LibraryCall} (hup : pass.setsUp up = true)
    (hdraw : pass.draws draw = true) (due : Option (List ShaderSource)) :
    ∀ call ∈ round due up draw, call.uniformValues? = none ∧ call.objectInstances? = none := by
  intro call hcall
  simp only [round, List.mem_cons, List.mem_append, List.mem_map, Option.mem_toList,
    List.not_mem_nil, or_false] at hcall
  rcases hcall with rfl | ⟨sources, -, rfl⟩ | rfl
  · exact acts_only (Or.inl hup)
  · exact ⟨rfl, rfl⟩
  · exact acts_only (Or.inr hdraw)

/-- A pass has drawn after its round, and for the other one nothing is different. -/
theorem any_draws_round {pass : LibraryPass} {up draw : LibraryCall} (hup : pass.setsUp up = true)
    (hdraw : pass.draws draw = true) (due : Option (List ShaderSource)) (other : LibraryPass) :
    (round due up draw).any other.draws = decide (other = pass) := by
  have hprograms : ∀ sources, other.draws (.programs sources) = false := by
    intro sources
    cases other <;> rfl
  have hdrawn : other.draws draw = decide (other = pass) := by
    by_cases hsame : other = pass
    · rw [hsame, hdraw, decide_eq_true rfl]
    · rw [decide_eq_false hsame]
      exact Bool.eq_false_iff.mpr fun hother => hsame (draws_unique hother hdraw)
  cases due <;> simp [round, (setsUp_aside hup).2, hprograms, hdrawn]

/-- The places in a round. -/
theorem split_round {due : Option (List ShaderSource)} {up draw call : LibraryCall}
    {front after : LibraryLog ι}
    (h : batch (round due up draw) = front ++ .receives call :: after) :
    call = up ∨
      (∃ sources, call = .programs sources ∧ due = some sources ∧ front = batch [up] ∧
        after = batch [draw]) ∨
      call = draw ∧ front = batch (up :: due.toList.map .programs) := by
  have hreceives : ∀ {call call' : LibraryCall},
      (LibraryMoment.receives call : LibraryMoment ι) = .receives call' → call' = call := by
    rintro _ _ ⟨⟩
    rfl
  cases front with
  | nil => exact Or.inl (hreceives (List.cons.inj h).1)
  | cons first front =>
    obtain ⟨rfl, hrest⟩ := List.cons.inj h
    cases due with
    | none =>
      cases front with
      | nil => exact Or.inr (Or.inr ⟨hreceives (List.cons.inj hrest).1, rfl⟩)
      | cons second front => simp at hrest
    | some sources =>
      cases front with
      | nil =>
        obtain ⟨hcall, hafter⟩ := List.cons.inj hrest
        exact Or.inr (Or.inl ⟨sources, hreceives hcall, rfl, rfl, hafter.symm⟩)
      | cons second front =>
        obtain ⟨rfl, hlast⟩ := List.cons.inj hrest
        cases front with
        | nil => exact Or.inr (Or.inr ⟨hreceives (List.cons.inj hlast).1, rfl⟩)
        | cons third front => simp at hlast

/-- **Every drawing comes after the setting up of its pass**, and after the telling of what is due
to that pass, if anything is. -/
theorem Orderly.draws (h : Orderly log) {before after : LibraryLog ι} {call : LibraryCall}
    (hlog : log = before ++ .receives call :: after) (hdraws : pass.draws call = true) :
    ∃ earlier up, Orderly earlier ∧ pass.setsUp up = true ∧
      before = earlier ++ batch (up :: (due pass earlier).toList.map .programs) := by
  induction h generalizing after with
  | start => simp at hlog
  | aside _ _ haside ih =>
    rcases split_append hlog with ⟨rest, hold, -⟩ | ⟨front, -, hmore⟩
    · exact ih hold
    · obtain rfl : _ = LibraryMoment.receives call := by
        cases front with
        | nil => exact (List.cons.inj hmore).1
        | cons _ _ => simp at hmore
      exact absurd (hdraws.symm.trans (haside.2 pass)) (by decide)
  | @drawn older other up draw holder hup hdraw ih =>
    rcases split_append hlog with ⟨rest, hold, -⟩ | ⟨front, hbefore, hmore⟩
    · exact ih hold
    · rcases split_round hmore with rfl | ⟨sources, rfl, -, -, -⟩ | ⟨rfl, rfl⟩
      · exact absurd (hdraws.symm.trans ((setsUp_aside hup).2 pass)) (by decide)
      · cases pass <;> cases hdraws
      · obtain rfl := draws_unique hdraws hdraw
        exact ⟨older, up, holder, hup, hbefore⟩

/-- **Programs are told at no other time** than between the setting up of a pass and its drawing,
and they are those that are due to that pass. -/
theorem Orderly.tells (h : Orderly log) {before after : LibraryLog ι} {sources : List ShaderSource}
    (hlog : log = before ++ .receives (.programs sources) :: after) :
    ∃ (pass : LibraryPass) (earlier later : LibraryLog ι) (up draw : LibraryCall),
      pass.setsUp up = true ∧ pass.draws draw = true ∧ due pass earlier = some sources ∧
        before = earlier ++ batch [up] ∧ after = batch [draw] ++ later := by
  induction h generalizing after with
  | start => simp at hlog
  | aside _ _ haside ih =>
    rcases split_append hlog with ⟨rest, hold, rfl⟩ | ⟨front, -, hmore⟩
    · obtain ⟨pass, earlier, later, up, draw, hup, hdraw, hdue, hbefore, rfl⟩ := ih hold
      exact ⟨pass, earlier, _, up, draw, hup, hdraw, hdue, hbefore, List.append_assoc ..⟩
    · obtain rfl : _ = LibraryMoment.receives (.programs sources) := by
        cases front with
        | nil => exact (List.cons.inj hmore).1
        | cons _ _ => simp at hmore
      cases haside.1
  | @drawn older other up draw _ hup hdraw ih =>
    rcases split_append hlog with ⟨rest, hold, rfl⟩ | ⟨front, hbefore, hmore⟩
    · obtain ⟨pass, earlier, later, up, draw, hup, hdraw, hdue, hbefore, rfl⟩ := ih hold
      exact ⟨pass, earlier, _, up, draw, hup, hdraw, hdue, hbefore, List.append_assoc ..⟩
    · rcases split_round hmore with rfl | ⟨_, hsources, hdue, rfl, rfl⟩ | ⟨rfl, -⟩
      · cases (setsUp_aside hup).1
      · cases hsources
        exact ⟨other, older, [], up, draw, hup, hdraw, hdue, hbefore, (List.append_nil _).symm⟩
      · cases programs?_of_draws hdraw

/-- What the beginning of a round makes known of programs. -/
theorem received_round {up : LibraryCall} (hup : pass.setsUp up = true)
    (due : Option (List ShaderSource)) :
    received LibraryCall.programs? (log ++ batch (up :: due.toList.map .programs)) =
      due.or (received LibraryCall.programs? log) := by
  rw [received_batch]
  cases due <;> simp [(setsUp_aside hup).1]

/-- **Where a pass has drawn the instance knows the programs that were set last**, and it knows
none if none were set. -/
theorem Orderly.informed (h : Orderly log) :
    (∀ pass, hasDrawn pass log = true →
      received LibraryCall.programs? log = latest LibraryCall.programs? log) ∧
    (latest LibraryCall.programs? log = none → received LibraryCall.programs? log = none) := by
  induction h with
  | start => exact ⟨fun _ h => absurd h Bool.false_ne_true, fun _ => rfl⟩
  | @aside older moment _ haside ih =>
    simp only [hasDrawn_append, received_append, latest_append]
    cases moment with
    | set call =>
      cases call with
      | programs sources => exact ⟨fun _ h => absurd h Bool.false_ne_true, fun h => nomatch h⟩
      | _ => exact ih
    | happened event =>
      cases event with
      | tried copy content result =>
        cases result with
        | ok fresh => exact ⟨fun _ h => absurd h Bool.false_ne_true, fun _ => rfl⟩
        | error e => exact ih
      | received call =>
        obtain ⟨hnone, hdraws⟩ := haside
        simpa [LibraryMoment.drawn, LibraryMoment.known, LibraryMoment.sets?, hnone, hdraws]
          using ih
      | dropped loaded => exact ih
  | @drawn older other up draw _ hup hdraw ih =>
    have hreceived : (older ++ batch (round (due other older) up draw)).received
          LibraryCall.programs? =
        (due other older).or (received LibraryCall.programs? older) := by
      rw [received_batch, round]
      cases due other older <;> simp [(setsUp_aside hup).1, programs?_of_draws hdraw]
    rw [hreceived, latest_batch, due]
    cases hdrawn : hasDrawn other older with
    | true => exact ⟨fun _ _ => ih.1 other hdrawn, ih.2⟩
    | false =>
      cases hlatest : latest LibraryCall.programs? older with
      | none => exact ⟨fun _ _ => ih.2 hlatest, fun _ => ih.2 hlatest⟩
      | some sources => exact ⟨fun _ _ => rfl, fun h => nomatch h⟩

/-- **Whenever a pass draws, the instance knows the programs that were set last**, and none if none
were set. -/
theorem Orderly.knows (h : Orderly log) {before after : LibraryLog ι} {call : LibraryCall}
    (hlog : log = before ++ .receives call :: after) (hdraws : pass.draws call = true) :
    received LibraryCall.programs? before = latest LibraryCall.programs? before := by
  obtain ⟨earlier, up, hearlier, hup, rfl⟩ := h.draws log pass hlog hdraws
  rw [received_round earlier pass hup, latest_batch, due]
  cases hdrawn : hasDrawn pass earlier with
  | true => exact hearlier.informed.1 pass hdrawn
  | false =>
    cases hlatest : latest LibraryCall.programs? earlier with
    | none => exact hearlier.informed.2 hlatest
    | some sources => rfl

end LibraryLog

end RenderSync
