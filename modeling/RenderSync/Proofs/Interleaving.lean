import RenderSync.Library.Journal
import RenderSync.Proofs.Runs

/-!
# Edits between passes

Whoever edits what is desired makes a pass afterwards, and several may do so at once.  Only one pass
is made at a time, but edits wait for nobody: they come between an edit and its pass, and even while
a pass is under way.  So a pass may bring about less than its own caller has asked for, or more.

What matters is that a pass takes its copy of what is desired when its turn has come, and not
before.  The last copy is then missing an edit only while somebody has edited and still waits for
the turn (`Traffic.Sound`), and when nobody does any more the last pass was made for what is desired
in the end, which is what all the edits together have made of it (`Traffic.Reached.last_pass`).

A status tells of one pass (`ReconcileStatus.TellsOf`): it counts the pass, and says how it ended,
when, and whether it was enough.  What is left in the end is the status that tells of the last one.
-/

namespace RenderSync

/-! ## 1. Requests -/

/-- What can be asked of a reconciler. -/
inductive Request where
  | apply (edit : DesiredState → DesiredState)
  /-- A draft is committed, or given up. -/
  | commit (draft : DesiredState)
  /-- As `apply`, but nobody waits for the pass. -/
  | schedule (edit : DesiredState → DesiredState)
  /-- A pass, and no edit. -/
  | again

/-- What a request makes of what is desired. -/
def Request.edit : Request → DesiredState → DesiredState
  | .apply edit, desired | .schedule edit, desired => edit desired
  | .commit draft, _ => draft
  | .again, desired => desired

variable {σ : Type} {controls : ResourceControls σ}

/-- A request that nobody interferes with is an edit and a pass. -/
theorem Request.alone (now : Moment) (reconciler : Reconciler) (state : σ) :
    (∀ edit, reconciler.apply controls now edit state =
      (reconciler.mutate (apply edit).edit).reconcile controls now state) ∧
    (∀ draft, reconciler.commit controls now draft state =
      (reconciler.mutate (commit draft).edit).reconcile controls now state) ∧
    reconciler.reconcile controls now state =
      (reconciler.mutate again.edit).reconcile controls now state :=
  ⟨fun _ => rfl, fun _ => rfl, rfl⟩

/-- One that is scheduled is the same edit and the same pass. -/
theorem Engine.runScheduled_schedule {ι : Type} {loader : LibraryLoader ι} {engine : Engine ι}
    (hnone : engine.scheduled = 0) (now : Moment) (edit : DesiredState → DesiredState) :
    (engine.schedule edit).runScheduled loader now = (engine.apply loader now edit).2 := by
  obtain ⟨resources, reconciler, notifications, spans, uniforms, scheduled⟩ := engine
  obtain rfl : scheduled = 0 := hnone
  rfl

/-! ## 2. What a status tells -/

namespace ReconcileStatus

variable {status before : ReconcileStatus} {now : Moment} {result : Except ReconcileError Unit}
  {matching : Bool}

/-- **A status tells of a pass** that ended at a moment with a result, where `matching` says whether
what was in effect then is what was wanted: the pass is counted, it has converged if it succeeded
and was enough, and its end is kept as the last success, or as the last failure with its message.
The rest stays as it was before. -/
structure TellsOf (status before : ReconcileStatus) (now : Moment)
    (result : Except ReconcileError Unit) (matching : Bool) : Prop where
  passes : status.passes = before.passes + 1
  converged : status.converged = true ↔ result = .ok () ∧ matching = true
  succeeded : result = .ok () → status.lastSuccess = some now ∧
    status.lastFailure = before.lastFailure ∧ status.lastError = before.lastError
  failed : ∀ e, result = .error e → status.lastFailure = some now ∧
    status.lastError = some e.message ∧ status.lastSuccess = before.lastSuccess

/-- The status after a pass does. -/
theorem tellsOf_after (status : ReconcileStatus) (now : Moment)
    (result : Except ReconcileError Unit) (matching : Bool) :
    (status.after now result matching).TellsOf status now result matching := by
  cases result with
  | ok done => constructor <;> simp [after]
  | error e =>
    constructor
    · rfl
    · simp [after]
    · nofun
    · intro other hother
      obtain rfl := Except.error.inj hother
      exact ⟨rfl, rfl, rfl⟩

end ReconcileStatus

/-! ## 3. Several at once -/

/-- How far a request has come. -/
inductive Stage where
  | waiting
  | edited
  /-- A pass is under way, with a copy of what was desired when it began. -/
  | passing (wanted : DesiredState)
  | done (result : Except ReconcileError Unit)

/-- A pass is under way. -/
def Stage.isPassing : Stage → Bool
  | passing _ => true
  | _ => false

/-- The edit was made. -/
def Stage.hasEdited : Stage → Bool
  | waiting => false
  | _ => true

/-- Nothing is left to do. -/
def Stage.isDone : Stage → Bool
  | done _ => true
  | _ => false

/-- Who has made a request, and how far it has come. -/
structure Caller where
  request : Request
  stage : Stage

/-- A pass that was made: for whom and when, what it saw of the reconciler, and what it found. -/
structure Pass (σ : Type) where
  caller : Nat
  now : Moment
  seen : Reconciler
  found : σ

/-- What a pass came to. -/
def Pass.outcome (controls : ResourceControls σ) (pass : Pass σ) :
    Except ReconcileError Unit × Reconciler × σ :=
  pass.seen.reconcile controls pass.now pass.found

/-- It is what bringing about the copy comes to, and the status tells of that. -/
theorem Pass.outcome_of_seen (pass : Pass σ) (controls : ResourceControls σ)
    {desired : DesiredState} (h : pass.seen.desired = desired) :
    (pass.outcome controls).1 = (controls.matchAll desired pass.found).1 ∧
      (pass.outcome controls).2.1.status.TellsOf pass.seen.status pass.now
        (controls.matchAll desired pass.found).1
        ((controls.current (controls.matchAll desired pass.found).2).meets desired) := by
  subst h
  exact ⟨rfl, ReconcileStatus.tellsOf_after ..⟩

/-- A reconciler with the requests that are made of it, and what has been done for them. -/
structure Traffic (σ : Type) where
  reconciler : Reconciler
  state : σ
  callers : List Caller
  /-- The copy of what is desired that was taken last. -/
  copied : Option DesiredState
  passes : List (Pass σ)
  /-- Who has edited, one after the other. -/
  order : List Nat

namespace Traffic

/-- Nothing has been done yet. -/
def start (reconciler : Reconciler) (state : σ) (requests : List Request) : Traffic σ :=
  ⟨reconciler, state, requests.map (⟨·, .waiting⟩), none, [], []⟩

/-- No pass is under way. -/
def IsFree (traffic : Traffic σ) : Prop := traffic.callers.all (!·.stage.isPassing) = true

/-- Nobody waits or is at work. -/
def IsOver (traffic : Traffic σ) : Prop := traffic.callers.all (·.stage.isDone) = true

/-- The request of a caller comes to another stage. -/
def moveOn (traffic : Traffic σ) (caller : Nat) (request : Request) (stage : Stage) : Traffic σ :=
  { traffic with callers := traffic.callers.set caller ⟨request, stage⟩ }

/-- A caller edits what is desired. -/
def edit (traffic : Traffic σ) (caller : Nat) (request : Request) : Traffic σ :=
  { traffic.moveOn caller request .edited with
    reconciler := traffic.reconciler.mutate request.edit
    order := traffic.order ++ [caller] }

/-- A caller's turn has come: the pass takes its copy. -/
def enter (traffic : Traffic σ) (caller : Nat) (request : Request) : Traffic σ :=
  { traffic.moveOn caller request (.passing traffic.reconciler.desired) with
    copied := some traffic.reconciler.desired }

/-- The pass is made with the copy; edits that came meanwhile stay. -/
def leave (controls : ResourceControls σ) (now : Moment) (traffic : Traffic σ) (caller : Nat)
    (request : Request) (wanted : DesiredState) : Traffic σ :=
  let pass : Pass σ := ⟨caller, now, { traffic.reconciler with desired := wanted }, traffic.state⟩
  let (result, reconciler, state) := pass.outcome controls
  { traffic.moveOn caller request (.done result) with
    reconciler := { reconciler with desired := traffic.reconciler.desired }
    state := state
    passes := traffic.passes ++ [pass] }

/-- What can happen next: somebody edits, somebody's turn comes, the pass is made; or the exit
begins, or the resources become other ones by themselves. -/
inductive Step (controls : ResourceControls σ) (traffic : Traffic σ) : Traffic σ → Prop
  | edit {caller : Nat} {request : Request} :
      traffic.callers[caller]? = some ⟨request, .waiting⟩ →
      Step controls traffic (traffic.edit caller request)
  | enter {caller : Nat} {request : Request} :
      traffic.callers[caller]? = some ⟨request, .edited⟩ → traffic.IsFree →
      Step controls traffic (traffic.enter caller request)
  | leave {caller : Nat} {request : Request} {wanted : DesiredState} (now : Moment) :
      traffic.callers[caller]? = some ⟨request, .passing wanted⟩ →
      Step controls traffic (traffic.leave controls now caller request wanted)
  | exit : Step controls traffic { traffic with reconciler := traffic.reconciler.setExiting }
  | outside (state : σ) : Step controls traffic { traffic with state := state }

/-- **Any interleaving** of requests.  Those in which every pass is made at one stroke are among
them, with each `leave` right behind its `enter`. -/
inductive Reached (controls : ResourceControls σ) (begun : Traffic σ) : Traffic σ → Prop
  | start : Reached controls begun begun
  | step {traffic next : Traffic σ} : Reached controls begun traffic →
      Step controls traffic next → Reached controls begun next

/-! ## 4. What every step keeps -/

variable {traffic next : Traffic σ} {caller : Nat} {request : Request} {stage : Stage}

/-- Who is not the caller is where he was. -/
theorem mem_moveOn {call old : Caller} (hcaller : traffic.callers[caller]? = some old)
    (hmem : call ∈ traffic.callers) (hother : call.stage ≠ old.stage) :
    call ∈ (traffic.moveOn caller request stage).callers := by
  obtain ⟨i, hi⟩ := List.mem_iff_getElem?.mp hmem
  refine List.mem_iff_getElem?.mpr ⟨i, ?_⟩
  rw [moveOn, List.getElem?_set_ne, hi]
  rintro rfl
  exact hother (congrArg Caller.stage (Option.some.inj (hi.symm.trans hcaller)))

/-- The caller is at the new stage. -/
theorem getElem?_moveOn {old : Caller} (hcaller : traffic.callers[caller]? = some old) :
    (traffic.moveOn caller request stage).callers[caller]? = some ⟨request, stage⟩ := by
  obtain ⟨hlt, -⟩ := List.getElem?_eq_some_iff.mp hcaller
  exact List.getElem?_set_self hlt

/-- **What is known at every moment.**  A pass that is under way has the last copy, and otherwise
the last pass had it.  That copy is what is desired, unless somebody has edited and still waits for
his turn, or nobody has done anything yet. -/
structure Sound (controls : ResourceControls σ) (traffic : Traffic σ) : Prop where
  copied : ∀ call ∈ traffic.callers, ∀ wanted, call.stage = .passing wanted →
    traffic.copied = some wanted
  passed : (∃ call ∈ traffic.callers, ∃ wanted, call.stage = .passing wanted) ∨
    traffic.passes.getLast?.map (·.seen.desired) = traffic.copied
  current : (∃ call ∈ traffic.callers, call.stage = .edited) ∨
    traffic.copied = some traffic.reconciler.desired ∨
    ∀ call ∈ traffic.callers, call.stage = .waiting
  told : ∀ pass, traffic.passes.getLast? = some pass →
    traffic.reconciler.status = (pass.outcome controls).2.1.status
  answered : ∀ pass ∈ traffic.passes, ∃ request,
    traffic.callers[pass.caller]? = some ⟨request, .done (pass.outcome controls).1⟩

theorem Sound.start (reconciler : Reconciler) (state : σ) (requests : List Request) :
    (start reconciler state requests).Sound controls where
  copied call hcall wanted hstage := by
    obtain ⟨request, -, rfl⟩ := List.mem_map.mp hcall
    cases hstage
  passed := Or.inr rfl
  current := by
    refine Or.inr (Or.inr fun call hcall => ?_)
    obtain ⟨request, -, rfl⟩ := List.mem_map.mp hcall
    rfl
  told pass hpass := (Option.some_ne_none pass hpass.symm).elim
  answered pass hpass := (List.not_mem_nil hpass).elim

/-- Where nobody is done who moves on, the answers stay. -/
theorem Sound.answered_moveOn (h : traffic.Sound controls) {old : Caller}
    (hcaller : traffic.callers[caller]? = some old) (hold : ∀ result, old.stage ≠ .done result)
    {pass : Pass σ} (hpass : pass ∈ traffic.passes) :
    ∃ other, (traffic.moveOn caller request stage).callers[pass.caller]? =
      some ⟨other, .done (pass.outcome controls).1⟩ := by
  obtain ⟨other, hother⟩ := h.answered pass hpass
  refine ⟨other, ?_⟩
  rw [moveOn, List.getElem?_set_ne, hother]
  rintro rfl
  exact hold _ (congrArg Caller.stage (Option.some.inj (hcaller.symm.trans hother)))

/-- After an edit, somebody waits for his turn. -/
theorem Sound.edit (h : traffic.Sound controls)
    (hcaller : traffic.callers[caller]? = some ⟨request, .waiting⟩) :
    (traffic.edit caller request).Sound controls where
  copied call hcall wanted hstage := by
    rcases List.mem_or_eq_of_mem_set hcall with hold | rfl
    · exact h.copied call hold wanted hstage
    · cases hstage
  passed := h.passed.imp_left fun ⟨call, hmem, wanted, hstage⟩ =>
    ⟨call, mem_moveOn hcaller hmem (by rw [hstage]; nofun), wanted, hstage⟩
  current := Or.inl ⟨_, List.mem_of_getElem? (getElem?_moveOn hcaller), rfl⟩
  told := h.told
  answered _ := h.answered_moveOn hcaller nofun

/-- Whoever enters takes what is desired. -/
theorem Sound.enter (h : traffic.Sound controls)
    (hcaller : traffic.callers[caller]? = some ⟨request, .edited⟩) (hfree : traffic.IsFree) :
    (traffic.enter caller request).Sound controls where
  copied call hcall wanted hstage := by
    rcases List.mem_or_eq_of_mem_set hcall with hold | rfl
    · have hidle := List.all_eq_true.mp hfree call hold
      rw [hstage] at hidle
      cases hidle
    · exact congrArg some (Stage.passing.inj hstage)
  passed := Or.inl ⟨_, List.mem_of_getElem? (getElem?_moveOn hcaller), _, rfl⟩
  current := Or.inr (Or.inl rfl)
  told := h.told
  answered _ := h.answered_moveOn hcaller nofun

/-- Whoever leaves had the last copy. -/
theorem Sound.leave (h : traffic.Sound controls) {wanted : DesiredState} (now : Moment)
    (hcaller : traffic.callers[caller]? = some ⟨request, .passing wanted⟩) :
    (traffic.leave controls now caller request wanted).Sound controls where
  copied call hcall other hstage := by
    rcases List.mem_or_eq_of_mem_set hcall with hold | rfl
    · exact h.copied call hold other hstage
    · cases hstage
  passed := by
    have hcopied := h.copied _ (List.mem_of_getElem? hcaller) wanted rfl
    exact Or.inr (by simp only [Traffic.leave, List.getLast?_concat, Option.map_some, moveOn,
      hcopied])
  current := by
    rcases h.current with ⟨call, hmem, hstage⟩ | hcurrent | hwaiting
    · exact Or.inl ⟨call, mem_moveOn hcaller hmem (by rw [hstage]; nofun), hstage⟩
    · exact Or.inr (Or.inl hcurrent)
    · cases hwaiting _ (List.mem_of_getElem? hcaller)
  told pass hpass := by
    simp only [Traffic.leave, List.getLast?_concat] at hpass
    cases hpass
    rfl
  answered pass hpass := by
    rcases List.mem_append.mp hpass with hold | hnew
    · exact h.answered_moveOn hcaller nofun hold
    · obtain rfl := List.mem_singleton.mp hnew
      exact ⟨request, getElem?_moveOn hcaller⟩

/-- **Every step keeps it.** -/
theorem Sound.step (h : traffic.Sound controls) (hstep : Step controls traffic next) :
    next.Sound controls := by
  cases hstep with
  | edit hcaller => exact h.edit hcaller
  | enter hcaller hfree => exact h.enter hcaller hfree
  | leave now hcaller => exact h.leave now hcaller
  | exit => exact ⟨h.copied, h.passed, h.current, h.told, h.answered⟩
  | outside state => exact ⟨h.copied, h.passed, h.current, h.told, h.answered⟩

/-- A list of those who have come to some stage, each of them once. -/
structure Lists (callers : List Caller) (reached : Stage → Bool) (list : List Nat) : Prop where
  once : list.Nodup
  mem : ∀ caller, caller ∈ list ↔
    ∃ call, callers[caller]? = some call ∧ reached call.stage = true

variable {callers : List Caller} {reached : Stage → Bool} {list : List Nat}

/-- While all wait, nobody has come to any other stage. -/
theorem Lists.waiting (requests : List Request) (hwaiting : reached .waiting = false) :
    Lists (requests.map (⟨·, .waiting⟩)) reached [] where
  once := List.nodup_nil
  mem caller := by
    refine iff_of_false List.not_mem_nil ?_
    rintro ⟨call, hcall, hstage⟩
    obtain ⟨request, -, rfl⟩ := List.mem_map.mp (List.mem_of_getElem? hcall)
    exact Bool.false_ne_true (hwaiting.symm.trans hstage)

/-- Who comes to that stage is put behind the others. -/
theorem Lists.join (h : Lists callers reached list) {old : Caller}
    (hcaller : callers[caller]? = some old) (hold : reached old.stage = false)
    (hstage : reached stage = true) :
    Lists (callers.set caller ⟨request, stage⟩) reached (list ++ [caller]) where
  once := by
    refine List.nodup_append.mpr ⟨h.once, List.pairwise_singleton _ _, ?_⟩
    rintro earlier hearlier last hlast rfl
    obtain rfl := List.mem_singleton.mp hlast
    obtain ⟨call, hcall, hbefore⟩ := (h.mem _).mp hearlier
    obtain rfl := Option.some.inj (hcall.symm.trans hcaller)
    exact Bool.false_ne_true (hold.symm.trans hbefore)
  mem other := by
    rw [List.mem_append, List.mem_singleton, h.mem]
    by_cases hother : caller = other
    · subst hother
      have hlt := (List.getElem?_eq_some_iff.mp hcaller).1
      exact iff_of_true (Or.inr rfl) ⟨_, List.getElem?_set_self hlt, hstage⟩
    · rw [List.getElem?_set_ne hother]
      exact or_iff_left (Ne.symm hother)

/-- Who is listed already, or still is not, changes nothing. -/
theorem Lists.stay (h : Lists callers reached list) {old : Caller}
    (hcaller : callers[caller]? = some old) (hsame : reached stage = reached old.stage) :
    Lists (callers.set caller ⟨request, stage⟩) reached list where
  once := h.once
  mem other := by
    rw [h.mem]
    by_cases hother : caller = other
    · subst hother
      have hlt := (List.getElem?_eq_some_iff.mp hcaller).1
      simp only [hcaller, List.getElem?_set_self hlt, Option.some.injEq, exists_eq_left', hsame]
    · rw [List.getElem?_set_ne hother]

/-- Edits by the callers of some requests, one after the other. -/
def edited (requests : List Request) (order : List Nat) (desired : DesiredState) : DesiredState :=
  (order.filterMap (requests[·]?)).foldl (fun desired request => request.edit desired) desired

/-- **What is desired is what the edits have made of it**: those of all who do not wait any more,
each of them once.  And each who is done was passed for once, which the status has counted. -/
structure Accounts (begun : Reconciler) (requests : List Request) (traffic : Traffic σ) :
    Prop where
  asked : traffic.callers.map Caller.request = requests
  edits : Lists traffic.callers Stage.hasEdited traffic.order
  desired : traffic.reconciler.desired = edited requests traffic.order begun.desired
  passes : Lists traffic.callers Stage.isDone (traffic.passes.map Pass.caller)
  counted :
    traffic.reconciler.status.passes = begun.status.passes + .ofNat traffic.passes.length

variable {begun : Reconciler} {requests : List Request}

theorem Accounts.start (reconciler : Reconciler) (state : σ) (requests : List Request) :
    (start reconciler state requests).Accounts reconciler requests where
  asked := by simp [Traffic.start, Function.comp_def]
  edits := .waiting requests rfl
  desired := rfl
  passes := .waiting requests rfl
  counted := (UInt64.add_zero _).symm

/-- A request stays what it is. -/
theorem Accounts.asked_moveOn (h : traffic.Accounts begun requests) {old : Stage}
    (hcaller : traffic.callers[caller]? = some ⟨request, old⟩) :
    (traffic.moveOn caller request stage).callers.map Caller.request = requests := by
  have hsame : (traffic.callers.map Caller.request)[caller]? = some request := by
    rw [List.getElem?_map, hcaller]
    rfl
  obtain ⟨hlt, hget⟩ := List.getElem?_eq_some_iff.mp hsame
  rw [Traffic.moveOn, List.map_set, ← hget, List.set_getElem_self, h.asked]

/-- An edit counts from then on, and no edit counts twice. -/
theorem Accounts.edit (h : traffic.Accounts begun requests)
    (hcaller : traffic.callers[caller]? = some ⟨request, .waiting⟩) :
    (traffic.edit caller request).Accounts begun requests where
  asked := h.asked_moveOn hcaller
  edits := h.edits.join hcaller rfl rfl
  desired := by
    have hrequest : requests[caller]? = some request := by
      rw [← h.asked, List.getElem?_map, hcaller]
      rfl
    simp only [Traffic.edit, Reconciler.mutate, Traffic.moveOn, edited, List.filterMap_append,
      List.foldl_append, List.filterMap_cons, hrequest, List.filterMap_nil, List.foldl_cons,
      List.foldl_nil, h.desired]
  passes := h.passes.stay hcaller rfl
  counted := h.counted

/-- A copy that is taken is neither an edit nor the end of a pass. -/
theorem Accounts.enter (h : traffic.Accounts begun requests)
    (hcaller : traffic.callers[caller]? = some ⟨request, .edited⟩) :
    (traffic.enter caller request).Accounts begun requests :=
  ⟨h.asked_moveOn hcaller, h.edits.stay hcaller rfl, h.desired, h.passes.stay hcaller rfl,
    h.counted⟩

/-- A pass counts once it was made, and no pass is made twice. -/
theorem Accounts.leave (h : traffic.Accounts begun requests) {wanted : DesiredState}
    (now : Moment) (hcaller : traffic.callers[caller]? = some ⟨request, .passing wanted⟩) :
    (traffic.leave controls now caller request wanted).Accounts begun requests where
  asked := h.asked_moveOn hcaller
  edits := h.edits.stay hcaller rfl
  desired := h.desired
  passes := by
    simp only [Traffic.leave, List.map_append, List.map_cons, List.map_nil]
    exact h.passes.join hcaller rfl rfl
  counted := by
    have htold := ReconcileStatus.tellsOf_after traffic.reconciler.status now
      (controls.matchAll wanted traffic.state).1
      ((controls.current (controls.matchAll wanted traffic.state).2).meets wanted)
    have hcounted := htold.passes
    rw [h.counted] at hcounted
    simp only [Traffic.leave, List.length_append, List.length_singleton, UInt64.ofNat_add,
      ← UInt64.add_assoc]
    exact hcounted

/-- **Every step keeps the account.** -/
theorem Accounts.step (h : traffic.Accounts begun requests)
    (hstep : Step controls traffic next) : next.Accounts begun requests := by
  cases hstep with
  | edit hcaller => exact h.edit hcaller
  | enter hcaller => exact h.enter hcaller
  | leave now hcaller => exact h.leave now hcaller
  | exit => exact ⟨h.asked, h.edits, h.desired, h.passes, h.counted⟩
  | outside state => exact ⟨h.asked, h.edits, h.desired, h.passes, h.counted⟩

/-! ## 5. When all are done -/

variable {reconciler : Reconciler} {state : σ}

/-- Both hold along every interleaving. -/
theorem Reached.kept (h : Reached controls (.start reconciler state requests) traffic) :
    traffic.Sound controls ∧ traffic.Accounts reconciler requests := by
  induction h with
  | start => exact ⟨.start .., .start ..⟩
  | step _ hstep ih => exact ⟨ih.1.step hstep, ih.2.step hstep⟩

/-- Who is done is at no earlier stage. -/
theorem IsOver.stage_ne (hover : traffic.IsOver) {call : Caller} (hcall : call ∈ traffic.callers)
    (hearly : stage.isDone = false) : call.stage ≠ stage := by
  rintro rfl
  rw [List.all_eq_true.mp hover call hcall] at hearly
  cases hearly

/-- **The last pass was made for what is desired**, as nobody waits for a turn. -/
theorem Sound.last_seen (h : traffic.Sound controls) (hover : traffic.IsOver)
    (hsome : traffic.callers ≠ []) : ∃ pass, traffic.passes.getLast? = some pass ∧
      pass.seen.desired = traffic.reconciler.desired := by
  have hcopied : traffic.copied = some traffic.reconciler.desired := by
    rcases h.current with ⟨call, hcall, hedited⟩ | hcopied | hwaiting
    · exact absurd hedited (hover.stage_ne hcall rfl)
    · exact hcopied
    · obtain ⟨call, hcall⟩ := List.exists_mem_of_ne_nil _ hsome
      exact absurd (hwaiting call hcall) (hover.stage_ne hcall rfl)
  rcases h.passed with ⟨call, hcall, wanted, hpassing⟩ | hpassed
  · exact absurd hpassing (hover.stage_ne hcall rfl)
  · exact Option.map_eq_some_iff.mp (hpassed.trans hcopied)

/-- When all are done, all are listed who can be. -/
theorem Lists.perm (h : Lists traffic.callers reached list) (hover : traffic.IsOver)
    (hdone : ∀ result, reached (.done result) = true) :
    list.Perm (List.range traffic.callers.length) := by
  refine (List.perm_ext_iff_of_nodup h.once List.nodup_range).mpr fun caller => ?_
  rw [h.mem, List.mem_range]
  constructor
  · rintro ⟨call, hcall, -⟩
    exact (List.getElem?_eq_some_iff.mp hcall).1
  · intro hlt
    have hcall := List.all_eq_true.mp hover _ (List.getElem_mem hlt)
    refine ⟨_, List.getElem?_eq_getElem hlt, ?_⟩
    cases hstage : (traffic.callers[caller]).stage with
    | done result => exact hdone result
    | _ =>
      rw [hstage] at hcall
      cases hcall

/-- Everybody has edited once, and was passed for once. -/
theorem Accounts.perm (h : traffic.Accounts begun requests) (hover : traffic.IsOver) :
    traffic.order.Perm (List.range requests.length) ∧
      (traffic.passes.map Pass.caller).Perm (List.range requests.length) := by
  have hlength : traffic.callers.length = requests.length := by
    rw [← h.asked, List.length_map]
  rw [← hlength]
  exact ⟨h.edits.perm hover fun _ => rfl, h.passes.perm hover fun _ => rfl⟩

/-- As many passes were made as requests, and all of them are counted. -/
theorem Accounts.passes_eq (h : traffic.Accounts begun requests) (hover : traffic.IsOver) :
    traffic.reconciler.status.passes = begun.status.passes + .ofNat requests.length := by
  have hlength := (h.perm hover).2.length_eq
  rw [List.length_map, List.length_range] at hlength
  rw [h.counted, hlength]

/-- **No edit is lost.**  However the edits and passes of any requests came upon each other, and
whatever has become of the resources meanwhile, when all are done:

* what is desired is what all the edits have made of it, each made once, one after the other;
* one pass was made for each request, and the status has counted them all;
* the last pass was made for what is desired now.

So what it answered is how that was brought about, and the status that is left tells of it: whether
what is desired was reached, and when and how the attempt ended. -/
theorem Reached.last_pass (h : Reached controls (.start reconciler state requests) traffic)
    (hsome : requests ≠ []) (hover : traffic.IsOver) :
    (traffic.order.Perm (List.range requests.length) ∧
      traffic.reconciler.desired = edited requests traffic.order reconciler.desired) ∧
    ((traffic.passes.map Pass.caller).Perm (List.range requests.length) ∧
      traffic.reconciler.status.passes = reconciler.status.passes + .ofNat requests.length) ∧
    ∃ pass, traffic.passes.getLast? = some pass ∧
      pass.seen.desired = traffic.reconciler.desired ∧
      ∃ request result after,
        controls.matchAll traffic.reconciler.desired pass.found = (result, after) ∧
        traffic.callers[pass.caller]? = some ⟨request, .done result⟩ ∧
        traffic.reconciler.status.TellsOf pass.seen.status pass.now result
          ((controls.current after).meets traffic.reconciler.desired) := by
  obtain ⟨hsound, haccounts⟩ := h.kept
  have hcalls : traffic.callers ≠ [] := by
    rintro hnil
    rw [← haccounts.asked, hnil] at hsome
    exact hsome rfl
  obtain ⟨hedits, hpasses⟩ := haccounts.perm hover
  obtain ⟨pass, hlast, hseen⟩ := hsound.last_seen hover hcalls
  obtain ⟨request, hrequest⟩ := hsound.answered pass (List.mem_of_getLast? hlast)
  obtain ⟨hresult, hstatus⟩ := pass.outcome_of_seen controls hseen
  refine ⟨⟨hedits, haccounts.desired⟩, ⟨hpasses, haccounts.passes_eq hover⟩, pass, hlast, hseen,
    request, (controls.matchAll _ pass.found).1, (controls.matchAll _ pass.found).2, rfl, ?_, ?_⟩
  · rw [hrequest, hresult]
  · rw [hsound.told pass hlast]
    exact hstatus

/-- Three callers who want three libraries. -/
def rivals : List Request :=
  [.schedule fun _ => Engine.libraryAt true "/a.so", .apply fun _ => Engine.libraryAt true "/b.so",
    .commit (Engine.libraryAt true "/c.so")]

/-- None of them has begun. -/
def rivalry : Traffic (EngineResources Recorder) :=
  let engine : Engine Recorder := .start Engine.smallOptions
    (Engine.smallWorld [Engine.textFile "b.so" "B", Engine.textFile "c.so" "C"] [])
  start engine.reconciler engine.resources rivals

/-- Two have edited, and the second makes its pass; meanwhile the third edits. -/
def overtaken : Traffic (EngineResources Recorder) :=
  let traffic := (rivalry.edit 0 (rivals.getD 0 .again)).edit 1 (rivals.getD 1 .again)
  let traffic := (traffic.enter 1 (rivals.getD 1 .again)).edit 2 (rivals.getD 2 .again)
  traffic.leave (EngineResources.controls Recorder.loader) 1 1 (rivals.getD 1 .again)
    (Engine.libraryAt true "/b.so")

theorem overtaken_reached :
    Reached (EngineResources.controls Recorder.loader) rivalry overtaken :=
  ((((Reached.start.step (.edit rfl)).step (.edit rfl)).step (.enter rfl (by rfl))).step
    (.edit rfl)).step (.leave 1 rfl)

/-- The third is next, and the first comes last. -/
def settled : Traffic (EngineResources Recorder) :=
  let traffic := (overtaken.enter 2 (rivals.getD 2 .again)).leave
    (EngineResources.controls Recorder.loader) 2 2 (rivals.getD 2 .again)
    (Engine.libraryAt true "/c.so")
  (traffic.enter 0 (rivals.getD 0 .again)).leave (EngineResources.controls Recorder.loader) 3 0
    (rivals.getD 0 .again) (Engine.libraryAt true "/c.so")

theorem settled_reached :
    Reached (EngineResources.controls Recorder.loader) rivalry settled :=
  (((overtaken_reached.step (.enter rfl (by rfl))).step (.leave 2 rfl)).step
    (.enter rfl (by rfl))).step (.leave 3 rfl)

/-- The last pass was made for the first caller, whose library nobody wants any more, and it was
made for the library of the third.  The status has counted all three, and says that it was enough. -/
theorem settled_last_pass :
    Reached (EngineResources.controls Recorder.loader) rivalry settled ∧ rivals ≠ [] ∧
      settled.IsOver ∧ settled.passes.map (·.caller) = [1, 2, 0] ∧
      settled.reconciler.desired = edited rivals settled.order rivalry.reconciler.desired ∧
      settled.reconciler.status.passes = 3 ∧
      ∃ pass, settled.passes.getLast? = some pass ∧
        pass.seen.desired = Engine.libraryAt true "/c.so" ∧
        settled.reconciler.status.TellsOf pass.seen.status 3 (.ok ()) true := by
  obtain ⟨⟨-, hdesired⟩, ⟨-, hpasses⟩, pass, hlast, hseen, request, result, after, -, -, htold⟩ :=
    settled_reached.last_pass (nofun : rivals ≠ []) rfl
  have hnow : settled.passes.getLast?.map Pass.now = some 3 := rfl
  rw [hlast] at hnow
  have hconverged : settled.reconciler.status.converged = true := by decide +kernel
  obtain ⟨hresult, henough⟩ := htold.converged.mp hconverged
  rw [Option.some.inj hnow, hresult, henough] at htold
  exact ⟨settled_reached, nofun, rfl, rfl, hdesired, hpasses, pass, hlast, hseen, htold⟩

end Traffic

end RenderSync
