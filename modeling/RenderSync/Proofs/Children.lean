import RenderSync.Proofs.Chronicle

/-!
# Children: what is done to the process of a session

A chronicle tells of processes by two acts: a child is started, and a child is stopped.  Acts are in
order (`Handover`) if a child is started only where there is none, and does not run any more once
it is stopped; then there is never more than one.

A session holds nothing, or one child that runs from a copy of what was launched (`Session.Holds`).
Stopping and starting go from the one to the other (`Swaps`): the child that was held is stopped,
and then at most one is started.  That holds of starting, too, although it gives the working copy
two chances to start something, once when it is pointed to the executable and once when it is
opened: a wish that an earlier failure has left behind makes the first one count, and then the
second finds the copy in use (`CopyState.aimed_scribe`).

What is done to the connection does not touch the process (`Talks`).  So seeing to the process of a
configuration has two outcomes: it stays as it is (`ensureCli_stays`), or the child that was held
is replaced (`ensureCli_replaces`).
-/

namespace RenderSync

/-! ## 1. Children -/

namespace Act

/-- A process was started, or stopped. -/
def isProcess : Act → Bool
  | started _ | stopped .. => true
  | _ => false

/-- Something was done to the connection, or said on it. -/
def isTalk : Act → Bool
  | closed | dialed _ | opened | said .. => true
  | _ => false

/-- The child that was started. -/
def start? : Act → Option Child
  | started child => some child
  | _ => none

/-- The children that are alive after an act. -/
def leaves (alive : List Child) : Act → List Child
  | started child => child :: alive
  | stopped number _ => alive.filter (·.number != number)
  | _ => alive

end Act

/-- The children that are alive after acts: they were started and not stopped since. -/
def living (acts : List Act) : List Child := acts.foldl Act.leaves []

/-- The children that were started. -/
def startedBy (acts : List Act) : List Child := acts.filterMap Act.start?

/-- Only acts on processes matter for what is alive. -/
theorem foldl_leaves_filter (acts : List Act) : ∀ alive : List Child,
    (acts.filter Act.isProcess).foldl Act.leaves alive = acts.foldl Act.leaves alive := by
  induction acts with
  | nil => exact fun _ => rfl
  | cons act rest ih =>
    intro alive
    cases act with
    | started child => exact ih (child :: alive)
    | stopped number processes => exact ih _
    | closed => exact ih alive
    | dialed config => exact ih alive
    | opened => exact ih alive
    | said files command => exact ih alive

/-- Nor does anything else matter for what was started. -/
theorem startedBy_filter (acts : List Act) :
    startedBy (acts.filter Act.isProcess) = startedBy acts := by
  unfold startedBy
  rw [List.filterMap_filter]
  congr
  funext act
  cases act with
  | started child => rfl
  | _ => rfl

/-- **Acts on processes in order**: from one child to another, or to none.  A child is started where
there is none, and a child that was stopped does not run. -/
inductive Handover : Option Child → List Act → Option Child → Prop where
  | nothing (held : Option Child) : Handover held [] held
  | started {child : Child} {acts : List Act} {last : Option Child}
    (rest : Handover (some child) acts last) : Handover none (.started child :: acts) last
  | stopped {child : Child} {processes : ProcessTable} {acts : List Act} {last : Option Child}
    (hended : processes.isRunning child.number = false) (rest : Handover none acts last) :
    Handover (some child) (.stopped child.number processes :: acts) last

namespace Handover

variable {first middle last : Option Child} {acts more : List Act}

theorem append (h : Handover first acts middle) (h' : Handover middle more last) :
    Handover first (acts ++ more) last := by
  induction h with
  | nothing held => exact h'
  | started rest ih => exact .started (ih h')
  | stopped hended rest ih => exact .stopped hended (ih h')

/-- The child that is left is the one that is alive. -/
theorem foldl_leaves (h : Handover first acts last) :
    acts.foldl Act.leaves first.toList = last.toList := by
  induction h with
  | nothing held => rfl
  | started rest ih => exact ih
  | @stopped child processes acts last hended rest ih =>
    have hgone : Act.leaves [child] (.stopped child.number processes) = [] := by
      simp [Act.leaves]
    rw [Option.toList_some, List.foldl_cons, hgone]
    exact ih

/-- What was stopped does not run. -/
theorem ended (h : Handover first acts last) {number : Nat} {processes : ProcessTable}
    (hstopped : .stopped number processes ∈ acts) : processes.isRunning number = false := by
  induction h with
  | nothing held => cases hstopped
  | started rest ih =>
    rcases List.mem_cons.mp hstopped with heq | hrest
    · cases heq
    · exact ih hrest
  | stopped hended rest ih =>
    rcases List.mem_cons.mp hstopped with heq | hrest
    · cases heq
      exact hended
    · exact ih hrest

end Handover

/-- Acts were added, and among them these on processes. -/
def Adds (before these after : List Act) : Prop :=
  ∃ during, after = before ++ during ∧ during.filter Act.isProcess = these

namespace Adds

variable {first second third these those : List Act}

theorem trans (h : Adds first these second) (h' : Adds second those third) :
    Adds first (these ++ those) third := by
  obtain ⟨during, rfl, rfl⟩ := h
  obtain ⟨later, rfl, rfl⟩ := h'
  exact ⟨during ++ later, List.append_assoc .., List.filter_append ..⟩

/-- They stand behind those that there were. -/
theorem filter (h : Adds first these second) :
    second.filter Act.isProcess = first.filter Act.isProcess ++ these := by
  obtain ⟨during, rfl, rfl⟩ := h
  exact List.filter_append ..

end Adds

/-- Acts were added, and all of them have to do with the connection. -/
def Talked (before after : List Act) : Prop :=
  ∃ during, after = before ++ during ∧ ∀ act ∈ during, act.isTalk = true

namespace Talked

variable {first second third : List Act}

theorem refl (acts : List Act) : Talked acts acts := ⟨[], (List.append_nil acts).symm, nofun⟩

theorem trans (h : Talked first second) (h' : Talked second third) : Talked first third := by
  obtain ⟨during, rfl, hduring⟩ := h
  obtain ⟨later, rfl, hlater⟩ := h'
  refine ⟨during ++ later, List.append_assoc .., fun act hact => ?_⟩
  exact (List.mem_append.mp hact).elim (hduring act) (hlater act)

theorem one (acts : List Act) (act : Act) (hact : act.isTalk = true) :
    Talked acts (acts ++ [act]) := by
  refine ⟨[act], rfl, fun other hother => ?_⟩
  obtain rfl := List.mem_singleton.mp hother
  exact hact

/-- Letting a connection go. -/
theorem closing (acts : List Act) (channel : Channel) : Talked acts (acts ++ channel.closing) := by
  unfold Channel.closing
  split
  · exact .one acts _ rfl
  · rw [List.append_nil]
    exact .refl acts

/-- None of them is on processes. -/
theorem adds (h : Talked first second) : Adds first [] second := by
  obtain ⟨during, rfl, hduring⟩ := h
  refine ⟨during, rfl, List.filter_eq_nil_iff.mpr fun act hact => ?_⟩
  have htalk := hduring act hact
  cases act with
  | started child => cases htalk
  | stopped number processes => cases htalk
  | _ => exact Bool.false_ne_true

end Talked

/-- The stopping of a child, if there is one. -/
def ending (held : Option Child) (processes : ProcessTable) : List Act :=
  held.toList.map fun child => .stopped child.number processes

/-- The starting of a child, if there is one. -/
def starting (child : Option Child) : List Act := child.toList.map .started

theorem filter_ending_starting (held new : Option Child) (processes : ProcessTable) :
    (ending held processes ++ starting new).filter Act.isProcess =
      ending held processes ++ starting new := by
  rw [List.filter_eq_self]
  intro act hact
  rcases List.mem_append.mp hact with hold | hnew
  · obtain ⟨child, -, rfl⟩ := List.mem_map.mp hold
    rfl
  · obtain ⟨child, -, rfl⟩ := List.mem_map.mp hnew
    rfl

/-- One child in place of another. -/
theorem Handover.replace (held new : Option Child) {processes : ProcessTable}
    (hended : ∀ child, held = some child → processes.isRunning child.number = false) :
    Handover held (ending held processes ++ starting new) new := by
  have hnew : Handover none (starting new) new := by
    cases new with
    | none => exact .nothing none
    | some child => exact .started (.nothing (some child))
  cases held with
  | none => exact hnew
  | some child => exact .stopped (hended child rfl) hnew

/-! ## 2. The working copy of the executable -/

namespace CopyState

/-- Nothing is in use, and no process is held. -/
structure Resting (state : CopyState CliScribe) : Prop where
  isOpen : state.held.isOpen = false
  copy : state.held.copy = none
  process : state.user.user.supervisor.process = none

/-- A child was started from a copy of an executable. -/
structure Starts (path : Path) (before after : CopyState CliScribe) (child : Child) : Prop where
  isOpen : after.held.isOpen = true
  source : after.held.source = some path
  copy : after.held.copy = some child.copy
  made : ∃ files, WorkingCopy.copySource after.held.directory path files =
    (some child.copy, child.files)
  process : after.user.user.supervisor.process = some (child.number, child.copy)
  arguments : child.arguments = before.user.user.arguments
  acts : after.user.acts = before.user.acts ++ [.started child]

/-- No process was started. -/
structure Waits (before after : CopyState CliScribe) : Prop where
  resting : after.Resting
  source : after.held.source = before.held.source
  arguments : after.user.user.arguments = before.user.user.arguments
  acts : after.user.acts = before.user.acts

/-- **What opening can come to**: a process is started, or nothing has changed. -/
theorem opened_scribe (files : FileTree) (copy : Path) {scribe : CliScribe}
    (hidle : scribe.user.supervisor.process = none) :
    (∃ number user, CliScribe.use.opened files copy scribe =
      (true, ⟨user, scribe.acts ++ [.started ⟨number, copy, scribe.user.arguments, files⟩]⟩) ∧
      user.supervisor.process = some (number, copy)) ∨
    ∃ user, CliScribe.use.opened files copy scribe = (false, ⟨user, scribe.acts⟩) ∧
      user.supervisor.process = none ∧ user.arguments = scribe.user.arguments := by
  simp only [CliScribe.use, Supervisor.start, hidle]
  rcases scribe.user.processes.spawn files copy scribe.user.arguments with ⟨_ | number, processes⟩
  · exact Or.inr ⟨_, rfl, hidle, rfl⟩
  · exact Or.inl ⟨number, _, rfl, rfl⟩

/-- **What entering can come to**: a child is started from a copy of the source, or none is. -/
theorem enter_scribe {state : CopyState CliScribe} (h : state.Resting) {path : Path}
    (hsource : state.held.source = some path) :
    (∃ child, (state.enter CliScribe.use).1 = true ∧
      Starts path state (state.enter CliScribe.use).2 child) ∨
    (state.enter CliScribe.use).1 = false ∧ Waits state (state.enter CliScribe.use).2 := by
  rcases enter_cases CliScribe.use h.isOpen h.copy with
    ⟨source, copy, files, scribe, hpath, hmade, hopened, he⟩ | ⟨files, scribe, he, hscribe⟩
  · obtain rfl := Option.some.inj (hpath.symm.trans hsource)
    rcases opened_scribe files copy h.process with
      ⟨number, user, hstarted, hprocess⟩ | ⟨user, hrefused, -⟩
    · obtain rfl := (Prod.mk.inj (hopened.symm.trans hstarted)).2
      rw [he]
      exact Or.inl ⟨⟨number, copy, state.user.user.arguments, files⟩, rfl, rfl, hsource, rfl,
        ⟨_, hmade⟩, hprocess, rfl, rfl⟩
    · exact absurd (Prod.mk.inj (hrefused.symm.trans hopened)).1 Bool.false_ne_true
  · rw [he]
    refine Or.inr ⟨rfl, ?_⟩
    rcases hscribe with rfl | ⟨tried, copy, hopened⟩
    · exact ⟨⟨h.isOpen, h.copy, h.process⟩, rfl, rfl, rfl⟩
    · rcases opened_scribe tried copy h.process with
        ⟨number, user, hstarted, -⟩ | ⟨user, hrefused, hprocess, harguments⟩
      · exact absurd (Prod.mk.inj (hopened.symm.trans hstarted)).1 Bool.false_ne_true
      · obtain rfl := (Prod.mk.inj (hopened.symm.trans hrefused)).2
        exact ⟨⟨h.isOpen, h.copy, hprocess⟩, rfl, harguments, rfl⟩

/-- Pointing the working copy to an executable starts a child only where an earlier attempt has left
its wish behind. -/
theorem setSource_scribe {state : CopyState CliScribe} (h : state.Resting) (path : Path) :
    (∃ child, Starts path state (state.setSource CliScribe.use (some path)).2 child) ∨
      Waits (state.pointed (some path)) (state.setSource CliScribe.use (some path)).2 := by
  have hpointed : (state.pointed (some path)).Resting := ⟨h.isOpen, h.copy, h.process⟩
  cases hwanted : state.held.isWanted with
  | false =>
    rw [setSource_of_not_wanted state _ hwanted]
    exact Or.inr ⟨hpointed, rfl, rfl, rfl⟩
  | true =>
    have hcopies : state.held.copy.isSome = state.held.isOpen := by rw [h.copy, h.isOpen]; rfl
    have hleft : (state.pointed (some path)).left CliScribe.use = state.pointed (some path) :=
      left_of_closed hpointed.isOpen hpointed.copy
    rw [setSource_of_wanted state _ hwanted (fun _ _ => rfl) hcopies, hleft]
    rcases enter_scribe hpointed rfl with ⟨child, -, hstarts⟩ | ⟨-, hwaits⟩
    · exact Or.inl ⟨child, hstarts.isOpen, hstarts.source, hstarts.copy, hstarts.made,
        hstarts.process, hstarts.arguments, hstarts.acts⟩
    · exact Or.inr hwaits

/-- **Pointing the working copy to an executable and opening it starts one child at most.**  If one
was started already, opening finds it in use; otherwise it is a second attempt. -/
theorem aimed_scribe {state : CopyState CliScribe} (h : state.Resting) (path : Path) :
    let done := (state.setSource CliScribe.use (some path)).2.openCopy CliScribe.use
    (∃ child, done.1 = true ∧ Starts path state done.2 child) ∨
      done.1 = false ∧ Waits (state.pointed (some path)) done.2 := by
  rcases setSource_scribe h path with ⟨child, hstarts⟩ | hwaits
  · rw [openCopy_of_isOpen hstarts.isOpen]
    exact Or.inl ⟨child, rfl, hstarts.isOpen, hstarts.source, hstarts.copy, hstarts.made,
      hstarts.process, hstarts.arguments, hstarts.acts⟩
  · generalize (state.setSource CliScribe.use (some path)).2 = aimed at hwaits ⊢
    have hresting : (aimed.want true).Resting :=
      ⟨hwaits.resting.isOpen, hwaits.resting.copy, hwaits.resting.process⟩
    have hsource : (aimed.want true).held.source = some path := hwaits.source
    rcases enter_scribe hresting hsource with ⟨child, hok, hstarts⟩ | ⟨hfailed, hstill⟩
    · exact Or.inl ⟨child, hok, hstarts.isOpen, hstarts.source, hstarts.copy, hstarts.made,
        hstarts.process, hstarts.arguments.trans hwaits.arguments,
        hstarts.acts.trans (congrArg (· ++ _) hwaits.acts)⟩
    · exact Or.inr ⟨hfailed, hstill.resting, hstill.source.trans hsource,
        hstill.arguments.trans hwaits.arguments, hstill.acts.trans hwaits.acts⟩

end CopyState

/-! ## 3. What a session holds -/

/-- **A child is the process of a launch**: it was started with the arguments of the launch, from a
copy of its executable that is in use since. -/
structure Child.Runs (child : Child) (launch : Launch) (session : Session) : Prop where
  launched : session.launched = some launch
  isOpen : session.cli.isOpen = true
  source : session.cli.source = some launch.path
  copy : session.cli.copy = some child.copy
  made : ∃ files, WorkingCopy.copySource session.cli.directory launch.path files =
    (some child.copy, child.files)
  process : session.supervisor.process = some (child.number, child.copy)
  arguments : child.arguments = launch.arguments

/-- Seeing to the process leaves it as it is: its executable is not known, or it runs already. -/
def Session.Spares (config : ServerConfig) (session : Session) (world : World) : Prop :=
  config.location.spawnsCli = true ∧ ∀ path, session.cliPath world config = .ok path →
    session.Reuses (Session.launchOf config path) world

/-- What a session holds: no child, or the one that was launched. -/
inductive Session.Holds : Session → Option Child → Prop where
  | nothing {session : Session} (h : session.Quiet) : Holds session none
  | child {session : Session} {child : Child} {launch : Launch} (h : child.Runs launch session) :
    Holds session (some child)

/-- Only the working copy, the supervisor and the launch matter. -/
theorem Child.Runs.congr {child : Child} {launch : Launch} {session other : Session}
    (h : child.Runs launch session) (hcli : other.cli = session.cli)
    (hsupervisor : other.supervisor = session.supervisor)
    (hlaunched : other.launched = session.launched) : child.Runs launch other :=
  ⟨hlaunched.trans h.launched, hcli ▸ h.isOpen, hcli ▸ h.source, hcli ▸ h.copy, hcli ▸ h.made,
    hsupervisor ▸ h.process, h.arguments⟩

namespace Session.Holds

variable {session other : Session} {held : Option Child}

/-- It is the process of the supervisor. -/
theorem process (h : session.Holds held) :
    session.supervisor.process = held.map fun child => (child.number, child.copy) := by
  cases h with
  | nothing h => exact h.process
  | child h => exact h.process

theorem congr (h : session.Holds held) (hcli : other.cli = session.cli)
    (hsupervisor : other.supervisor = session.supervisor)
    (hlaunched : other.launched = session.launched) : other.Holds held := by
  cases h with
  | nothing h =>
    exact .nothing ⟨hcli ▸ h.isOpen, hcli ▸ h.copy, hlaunched.trans h.launched,
      hsupervisor ▸ h.process⟩
  | child h => exact .child (h.congr hcli hsupervisor hlaunched)

/-- A session in which nothing counts as launched or in use holds nothing. -/
theorem eq_none (h : session.Holds held) (hopen : session.cli.isOpen = false) : held = none := by
  cases h with
  | nothing h => rfl
  | child h => exact absurd (hopen.symm.trans h.isOpen) Bool.false_ne_true

/-- Where nothing is held nothing counts as launched. -/
theorem launched_eq_none (h : session.Holds none) : session.launched = none := by
  cases h with
  | nothing h => exact h.launched

/-- Where the working copy is in use there is a child. -/
theorem exists_child (h : session.Holds held) (hopen : session.cli.isOpen = true) :
    ∃ child launch, held = some child ∧ child.Runs launch session := by
  cases h with
  | nothing h => exact absurd (h.isOpen.symm.trans hopen) Bool.false_ne_true
  | @child child launch h => exact ⟨child, launch, rfl, h⟩

/-- Stopping the process is stopping the child. -/
theorem stopping (h : session.Holds held) (processes : ProcessTable) :
    session.supervisor.stopping processes = ending held processes := by
  have hprocess := h.process
  unfold Supervisor.stopping
  rw [hprocess]
  cases held with
  | none => rfl
  | some child => rfl

end Session.Holds

namespace Chronicle

/-- Only the connection is concerned. -/
structure Talks (before after : Chronicle) : Prop where
  cli : after.session.cli = before.session.cli
  supervisor : after.session.supervisor = before.session.supervisor
  launched : after.session.launched = before.session.launched
  acts : Talked before.acts after.acts

/-- **Only the process is concerned**: the child that was held is stopped, and then another one is
started, or none. -/
structure Swaps (held new : Option Child) (before after : Chronicle) : Prop where
  sound : after.session.Sound
  holds : after.session.Holds new
  acts : ∃ processes, (∀ child, held = some child → processes.isRunning child.number = false) ∧
    after.acts = before.acts ++ (ending held processes ++ starting new)

/-- The process of the session stays as it is. -/
structure Stays (before after : Chronicle) : Prop where
  cli : after.session.cli = before.session.cli
  supervisor : after.session.supervisor = before.session.supervisor
  launched : after.session.launched = before.session.launched
  acts : Adds before.acts [] after.acts

/-- **The child that was held is stopped, and only then another one is started**, or none; what else
is done does not matter. -/
structure Replaces (held new : Option Child) (before after : Chronicle) : Prop where
  sound : after.session.Sound
  holds : after.session.Holds new
  acts : ∃ processes, (∀ child, held = some child → processes.isRunning child.number = false) ∧
    Adds before.acts (ending held processes ++ starting new) after.acts

section Composition

variable {first second third : Chronicle} {held middle new : Option Child}

theorem Talks.refl (chronicle : Chronicle) : Talks chronicle chronicle :=
  ⟨rfl, rfl, rfl, .refl _⟩

theorem Talks.trans (h : Talks first second) (h' : Talks second third) : Talks first third :=
  ⟨h'.cli.trans h.cli, h'.supervisor.trans h.supervisor, h'.launched.trans h.launched,
    h.acts.trans h'.acts⟩

theorem Talks.stays (h : Talks first second) : Stays first second :=
  ⟨h.cli, h.supervisor, h.launched, h.acts.adds⟩

theorem Swaps.replaces (h : Swaps held new first second) : Replaces held new first second := by
  obtain ⟨processes, hended, hacts⟩ := h.acts
  exact ⟨h.sound, h.holds, processes, hended, _, hacts, filter_ending_starting held new processes⟩

/-- What was stopped already need not be stopped again. -/
theorem Swaps.trans (h : Swaps held none first second) (h' : Swaps none new second third) :
    Swaps held new first third := by
  obtain ⟨processes, hended, hacts⟩ := h.acts
  obtain ⟨later, -, hmore⟩ := h'.acts
  refine ⟨h'.sound, h'.holds, processes, hended, ?_⟩
  rw [hmore, hacts, List.append_assoc]
  simp only [starting, ending, Option.toList_none, List.map_nil, List.append_nil, List.nil_append]

theorem Stays.trans (h : Stays first second) (h' : Stays second third) : Stays first third :=
  ⟨h'.cli.trans h.cli, h'.supervisor.trans h.supervisor, h'.launched.trans h.launched,
    h.acts.trans h'.acts⟩

theorem Stays.sound (h : Stays first second) (hsound : first.session.Sound) :
    second.session.Sound := hsound.congr h.cli h.supervisor

theorem Stays.holds (h : Stays first second) (hholds : first.session.Holds held) :
    second.session.Holds held := hholds.congr h.cli h.supervisor h.launched

theorem Stays.runs (h : Stays first second) {child : Child} {launch : Launch}
    (hruns : child.Runs launch first.session) : child.Runs launch second.session :=
  hruns.congr h.cli h.supervisor h.launched

theorem Stays.replaces (h : Stays first second) (h' : Replaces held new second third) :
    Replaces held new first third := by
  obtain ⟨processes, hended, hacts⟩ := h'.acts
  exact ⟨h'.sound, h'.holds, processes, hended, h.acts.trans hacts⟩

theorem Replaces.stays (h : Replaces held new first second) (h' : Stays second third) :
    Replaces held new first third := by
  obtain ⟨processes, hended, hacts⟩ := h.acts
  exact ⟨h'.sound h.sound, h'.holds h.holds, processes, hended,
    List.append_nil (ending held processes ++ starting new) ▸ hacts.trans h'.acts⟩

theorem Replaces.trans (h : Replaces held none first second)
    (h' : Replaces none new second third) : Replaces held new first third := by
  obtain ⟨processes, hended, hacts⟩ := h.acts
  obtain ⟨later, -, hmore⟩ := h'.acts
  have hall := hacts.trans hmore
  simp only [starting, ending, Option.toList_none, List.map_nil, List.append_nil,
    List.nil_append] at hall
  exact ⟨h'.sound, h'.holds, processes, hended, hall⟩

end Composition

variable {chronicle : Chronicle} {held : Option Child}

/-! ## 4. Stopping and starting -/

/-- Giving the copy up finds no process to stop any more. -/
theorem closed_acts {scribe : CliScribe} (files : FileTree)
    (hidle : scribe.user.supervisor.process = none) :
    (CliScribe.use.closed files scribe).2.acts = scribe.acts := by
  simp only [CliScribe.use, Supervisor.stopping, hidle, List.append_nil]

/-- **What stopping is taken down as**: the process of the supervisor is stopped, and nothing is
done beyond that. -/
theorem stopCli_acts (h : chronicle.session.Sound) :
    ∃ processes, (∀ number copy, chronicle.session.supervisor.process = some (number, copy) →
        processes.isRunning number = false) ∧
      chronicle.stopCli.acts =
        chronicle.acts ++ chronicle.session.supervisor.stopping processes := by
  cases hlaunched : chronicle.session.launched.isSome || chronicle.session.cli.isOpen with
  | false =>
    obtain ⟨hnone, hopen⟩ := Bool.or_eq_false_iff.mp hlaunched
    have hidle := (h.quiet hopen (Option.not_isSome_iff_eq_none.mp (by simp [hnone]))).process
    refine ⟨chronicle.world.processes, fun number copy hprocess => ?_, ?_⟩
    · cases hidle.symm.trans hprocess
    · simp only [stopCli, hlaunched, Supervisor.stopping, hidle, List.append_nil]
      rfl
  | true =>
    let after := chronicle.session.supervisor.stop chronicle.world.files chronicle.world.processes
    refine ⟨after.2.2.1, fun number copy hprocess => Supervisor.stop_child hprocess, ?_⟩
    -- the copy is given up by somebody who has no process left
    let left : CopyState CliScribe := ⟨chronicle.session.cli, after.2.2.2,
      ⟨⟨after.2.1, chronicle.session.arguments, after.2.2.1⟩,
        chronicle.acts ++ chronicle.session.supervisor.stopping after.2.2.1⟩⟩
    have hclose : left.closeCopy CliScribe.use = (true, (left.want false).left CliScribe.use) :=
      CopyState.closeCopy_eq left (fun _ _ => rfl) h.copy_isSome
    have hacts : ((left.want false).left CliScribe.use).user.acts = left.user.acts := by
      have hidle : left.user.user.supervisor.process = none := Supervisor.stop_process _ _ _
      unfold CopyState.left
      split
      · exact closed_acts _ hidle
      · rfl
    have hstop : chronicle.stopCli.acts = (left.closeCopy CliScribe.use).2.user.acts := by
      simp only [stopCli, hlaunched]
      rfl
    rw [hstop, hclose, hacts]

/-- **Stopping stops the child that is held, and starts none.** -/
theorem stopCli_swaps (h : chronicle.session.Sound) (hholds : chronicle.session.Holds held) :
    Swaps held none chronicle chronicle.stopCli := by
  have hquiet : chronicle.stopCli.session.Quiet := by
    have hplain : (chronicle.session.stopCli chronicle.world).1 = chronicle.stopCli.session :=
      congrArg Prod.fst (stopCli_plain chronicle)
    exact hplain ▸ Session.stopCli_quiet h chronicle.world
  obtain ⟨processes, hended, hacts⟩ := stopCli_acts h
  refine ⟨hquiet.sound, .nothing hquiet, processes, ?_, ?_⟩
  · rintro child rfl
    exact hended _ _ hholds.process
  · rw [hacts, hholds.stopping, starting, Option.toList_none, List.map_nil, List.append_nil]

/-- **Disconnecting stops the child that is held**, and lets the connection go. -/
theorem disconnect_swaps (h : chronicle.session.Sound) (hholds : chronicle.session.Holds held) :
    ∃ stopped, Swaps held none chronicle stopped ∧ Talks stopped chronicle.disconnect := by
  unfold disconnect
  dsimp only
  split
  · next hidle =>
    simp only [Bool.and_eq_true, Option.isNone_iff_eq_none, Bool.not_eq_true'] at hidle
    obtain ⟨⟨-, hlaunched⟩, hopen⟩ := hidle
    obtain rfl := hholds.eq_none hopen
    exact ⟨chronicle, ⟨h, hholds, chronicle.world.processes, nofun,
      (List.append_nil chronicle.acts).symm⟩, .refl chronicle⟩
  · exact ⟨chronicle.stopCli, stopCli_swaps h hholds, rfl, rfl, rfl,
      .closing chronicle.stopCli.acts chronicle.stopCli.session.channel⟩

theorem disconnect_replaces (h : chronicle.session.Sound) (hholds : chronicle.session.Holds held) :
    Replaces held none chronicle chronicle.disconnect := by
  obtain ⟨stopped, hswaps, htalks⟩ := disconnect_swaps h hholds
  exact hswaps.replaces.stays htalks.stays

theorem startCli_sound (h : chronicle.session.Sound) (launch : Launch) :
    (chronicle.startCli launch).2.session.Sound := by
  have hplain : (chronicle.session.startCli launch chronicle.world).2.1 =
      (chronicle.startCli launch).2.session :=
    congrArg (fun done => done.2.1) (startCli_plain launch chronicle)
  exact hplain ▸ h.startCli launch chronicle.world

/-- **Starting stops the child that is held and starts at most one**, with this launch. -/
theorem startCli_swaps (h : chronicle.session.Sound) (hholds : chronicle.session.Holds held)
    (launch : Launch) :
    ∃ new, Swaps held new chronicle (chronicle.startCli launch).2 ∧
      ∀ child, new = some child → child.Runs launch (chronicle.startCli launch).2.session := by
  have hstopped := stopCli_swaps h hholds
  have hquiet : chronicle.stopCli.session.Quiet := by
    cases hstopped.holds with
    | nothing hquiet => exact hquiet
  let aimed : Chronicle := { chronicle.stopCli with
    session := { chronicle.stopCli.session with arguments := launch.arguments } }
  have hresting : aimed.scribed.Resting := ⟨hquiet.isOpen, hquiet.copy, hquiet.process⟩
  have haimed := CopyState.aimed_scribe hresting launch.path
  have hwithin : (aimed.within (CopyState.setSource CliScribe.use (some launch.path))).2.within
      (CopyState.openCopy CliScribe.use) =
        let done := (aimed.scribed.setSource CliScribe.use (some launch.path)).2.openCopy
          CliScribe.use
        (done.1, aimed.withScribe done.2) := rfl
  have hsound := startCli_sound h launch
  unfold startCli at hsound ⊢
  dsimp only [aimed] at haimed hwithin hsound ⊢
  rw [hwithin] at hsound ⊢
  generalize CopyState.openCopy CliScribe.use _ = done at haimed hsound ⊢
  obtain ⟨result, after⟩ := done
  rcases haimed with ⟨child, hok, hstarts⟩ | ⟨hfailed, hwaits⟩
  · obtain rfl : result = true := hok
    have hruns : child.Runs launch
        { (aimed.withScribe after).session with launched := some launch } :=
      ⟨rfl, hstarts.isOpen, hstarts.source, hstarts.copy, hstarts.made, hstarts.process,
        hstarts.arguments⟩
    have hswaps : Swaps none (some child) chronicle.stopCli
        { aimed.withScribe after with
          session := { (aimed.withScribe after).session with launched := some launch } } :=
      ⟨hsound, .child hruns, chronicle.world.processes, nofun, hstarts.acts⟩
    refine ⟨some child, hstopped.trans hswaps, fun other hother => ?_⟩
    obtain rfl := Option.some.inj hother
    exact hruns
  · obtain rfl : result = false := hfailed
    have hstill : (aimed.withScribe after).session.Quiet :=
      ⟨hwaits.resting.isOpen, hwaits.resting.copy, hquiet.launched, hwaits.resting.process⟩
    have hswaps : Swaps none none chronicle.stopCli (aimed.withScribe after) :=
      ⟨hsound, .nothing hstill, chronicle.world.processes, nofun,
        hwaits.acts.trans (List.append_nil _).symm⟩
    exact ⟨none, hstopped.trans hswaps, nofun⟩

/-- **What seeing to the process can come to**: there shall be none, its executable is not known,
it runs already, or it is started. -/
theorem ensureCli_cases (config : ServerConfig) (chronicle : Chronicle) :
    (config.location.spawnsCli = false ∧
      chronicle.ensureCli config = (.ok (), chronicle.stopCli)) ∨
    config.location.spawnsCli = true ∧
      ((∃ e, chronicle.session.cliPath chronicle.world config = .error e ∧
          chronicle.ensureCli config = (.error e, chronicle)) ∨
        ∃ path, chronicle.session.cliPath chronicle.world config = .ok path ∧
          ((chronicle.session.Reuses (Session.launchOf config path) chronicle.world ∧
              chronicle.ensureCli config = (.ok (), chronicle)) ∨
            (¬chronicle.session.Reuses (Session.launchOf config path) chronicle.world ∧
              chronicle.ensureCli config =
                (if (chronicle.startCli (Session.launchOf config path)).1 then .ok ()
                  else .error (.cliStart path),
                  (chronicle.startCli (Session.launchOf config path)).2)))) := by
  unfold ensureCli
  cases config.location.spawnsCli with
  | false => exact Or.inl ⟨rfl, rfl⟩
  | true =>
    refine Or.inr ⟨rfl, ?_⟩
    cases chronicle.session.cliPath chronicle.world config with
    | error e => exact Or.inl ⟨e, rfl, rfl⟩
    | ok path =>
      refine Or.inr ⟨path, rfl, ?_⟩
      by_cases hreuses : chronicle.session.Reuses (Session.launchOf config path) chronicle.world
      · exact Or.inl ⟨hreuses, if_pos hreuses⟩
      · refine Or.inr ⟨hreuses, (if_neg hreuses).trans ?_⟩
        rcases hstart : chronicle.startCli (Session.launchOf config path) with ⟨_ | _, started⟩ <;>
          rw [Session.launchOf] at hstart <;> rw [hstart]
        · rfl
        · rfl

/-- **Seeing to the process leaves it as it is** where its executable is not known, or it runs
already. -/
theorem ensureCli_stays {config : ServerConfig}
    (hspares : chronicle.session.Spares config chronicle.world) :
    Stays chronicle (chronicle.ensureCli config).2 := by
  obtain ⟨hspawns, hruns⟩ := hspares
  rcases ensureCli_cases config chronicle with
    ⟨hnone, -⟩ | ⟨-, ⟨e, -, he⟩ | ⟨path, hpath, ⟨-, he⟩ | ⟨hnot, -⟩⟩⟩
  · exact absurd (hnone.symm.trans hspawns) Bool.false_ne_true
  · rw [he]
    exact (Talks.refl chronicle).stays
  · rw [he]
    exact (Talks.refl chronicle).stays
  · exact absurd (hruns path hpath) hnot

/-- **Otherwise it stops the child that is held**, and starts one at most, as the configuration
asks for it. -/
theorem ensureCli_replaces (h : chronicle.session.Sound) (hholds : chronicle.session.Holds held)
    {config : ServerConfig} (hspares : ¬chronicle.session.Spares config chronicle.world) :
    ∃ new, Replaces held new chronicle (chronicle.ensureCli config).2 ∧
      ∀ child, new = some child → config.location.spawnsCli = true ∧
        ∃ path, chronicle.session.cliPath chronicle.world config = .ok path ∧
          child.Runs (Session.launchOf config path) (chronicle.ensureCli config).2.session := by
  rcases ensureCli_cases config chronicle with
    ⟨-, he⟩ | ⟨hspawns, ⟨e, hunknown, -⟩ | ⟨path, hpath, ⟨hreuses, -⟩ | ⟨-, he⟩⟩⟩
  · rw [he]
    exact ⟨none, (stopCli_swaps h hholds).replaces, nofun⟩
  · exact absurd ⟨hspawns, fun path hpath => by rw [hunknown] at hpath; cases hpath⟩ hspares
  · refine absurd ⟨hspawns, fun other hother => ?_⟩ hspares
    obtain rfl := Except.ok.inj (hother.symm.trans hpath)
    exact hreuses
  · rw [he]
    obtain ⟨new, hswaps, hruns⟩ := startCli_swaps h hholds (Session.launchOf config path)
    exact ⟨new, hswaps.replaces, fun child hchild => ⟨hspawns, path, hpath, hruns child hchild⟩⟩

end Chronicle

end RenderSync
