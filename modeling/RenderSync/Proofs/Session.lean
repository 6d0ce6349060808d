import RenderSync.Proofs.WorkingCopy
import RenderSync.Server.Session

/-!
# Sessions: what is held, and what stopping and starting come to

The executable of a session is a working copy whose user is the supervisor: a copy is in use
exactly while a process is held that runs from it (`Session.Sound`), whether or not that process
has ended by itself.  Stopping always succeeds, so the session is quiet afterwards and the process
that was held does not run (`stopCli_quiet`, `stopCli_child`); disconnecting lets the connection
go as well (`disconnect_idle`).

Starting succeeds where it can be had (`Launches`): the executable is known and can be run, or it
runs already as it should.  Nothing is asked of the session itself beyond the invariant, so
whatever earlier failures left behind is no obstacle (`ensureCli_of_launches`).

None of the work on the process touches the connection or the network (`ProcessOnly`).
-/

namespace RenderSync

/-! ## 1. One process and its copy -/

namespace ProcessTable

/-- A process that is forgotten does not run. -/
@[simp] theorem isRunning_forget (table : ProcessTable) (number : Nat) :
    (table.forget number).isRunning number = false := by
  have hnone : (table.forget number).processes.find? (·.number = number) = none := by
    simp [forget, List.find?_eq_none]
  simp only [isRunning, hnone]

end ProcessTable

namespace Supervisor

/-- A process is held exactly while a copy is in use, and it runs from that copy. -/
def Runs (copy : Option Path) (supervisor : Supervisor) : Prop :=
  supervisor.process.map Prod.snd = copy

theorem Runs.process_eq_none {supervisor : Supervisor} (h : Runs none supervisor) :
    supervisor.process = none := Option.map_eq_none_iff.mp h

/-- Stopping leaves no process. -/
theorem stop_process (files : FileTree) (supervisor : Supervisor) (table : ProcessTable) :
    (supervisor.stop files table).2.1.process = none := by
  unfold stop
  split
  · assumption
  · rfl

/-- **The process that was held does not run once it is stopped.** -/
theorem stop_child {files : FileTree} {supervisor : Supervisor} {table : ProcessTable}
    {number : Nat} {path : Path} (h : supervisor.process = some (number, path)) :
    (supervisor.stop files table).2.2.1.isRunning number = false := by
  simp only [stop, h, endProcess]
  exact ProcessTable.isRunning_forget _ _

/-- Without a process there is nothing to stop. -/
theorem stop_of_none {supervisor : Supervisor} (files : FileTree) (table : ProcessTable)
    (h : supervisor.process = none) :
    supervisor.stop files table = (none, supervisor, table, files) := by
  simp only [stop, h]

end Supervisor

namespace CliUser

/-- The supervisor holds a process from the copy that is in use. -/
def Fits (copy : Option Path) (user : CliUser) : Prop := user.supervisor.Runs copy

/-- **Starting and stopping keep the supervisor fitting to the copy.** -/
theorem use_respects : use.Respects Fits where
  yields _ _ := rfl
  opened {files copy user user'} hfits hopened := by
    have hidle := Supervisor.Runs.process_eq_none hfits
    simp only [use, Supervisor.start, hidle] at hopened
    cases hspawn : user.processes.spawn files copy user.arguments with
    | mk number processes =>
      rw [hspawn] at hopened
      cases number with
      | none => cases hopened
      | some number => cases hopened; rfl
  refused {files copy user user'} hfits hopened := by
    have hidle := Supervisor.Runs.process_eq_none hfits
    simp only [use, Supervisor.start, hidle] at hopened
    cases hspawn : user.processes.spawn files copy user.arguments with
    | mk number processes =>
      rw [hspawn] at hopened
      cases number with
      | none => cases hopened; exact hfits
      | some number => cases hopened
  closed {copy user} files _ := by
    exact congrArg (Option.map Prod.snd) (Supervisor.stop_process files _ user.processes)

/-- A process is started where there is none and the file can be run. -/
theorem opened_of_spawn {files : FileTree} {copy : Path} {user : CliUser}
    (hidle : user.supervisor.process = none)
    (hspawn : (user.processes.spawn files copy user.arguments).1.isSome = true) :
    ∃ user', use.opened files copy user = (true, user') := by
  obtain ⟨number, hnumber⟩ := Option.isSome_iff_exists.mp hspawn
  cases hspawned : user.processes.spawn files copy user.arguments with
  | mk number' processes =>
    rw [hspawned] at hnumber
    obtain rfl : number' = some number := hnumber
    refine ⟨⟨{ user.supervisor with process := some (number, copy) }, user.arguments,
      processes⟩, ?_⟩
    simp only [use, Supervisor.start, hidle, hspawned]

end CliUser

/-- The world after something was done to the working copy of an executable. -/
def World.withCli (state : CopyState CliUser) (world : World) : World :=
  { world with files := state.files, processes := state.user.processes }

namespace Session

/-! ## 2. The invariant -/

/-- **The invariant of a session**: the working copy of the executable is in use exactly while a
process from it is held. -/
def Sound (session : Session) : Prop := session.cli.Sound Supervisor.Runs session.supervisor

/-- No process is held, and none counts as launched. -/
structure Quiet (session : Session) : Prop where
  isOpen : session.cli.isOpen = false
  copy : session.cli.copy = none
  launched : session.launched = none
  process : session.supervisor.process = none

/-- Neither a process nor a connection is held. -/
structure Idle (session : Session) : Prop extends session.Quiet where
  connection : session.channel.connection = none

theorem Idle.isConnected {session : Session} (h : session.Idle) :
    session.channel.isConnected = false := by
  rw [Channel.isConnected, h.connection]
  rfl

/-- The executable, the files and the process as the working copy sees them. -/
def cliState (session : Session) (world : World) : CopyState CliUser :=
  ⟨session.cli, world.files, ⟨session.supervisor, session.arguments, world.processes⟩⟩

/-- The session after something was done to the working copy. -/
def withCli (state : CopyState CliUser) (session : Session) : Session :=
  { session with
    cli := state.held, supervisor := state.user.supervisor, arguments := state.user.arguments }

/-- Nothing was started yet. -/
theorem Sound.start (directory : Path) (grace : Nat) (bundledCli : Option Path)
    (bootstrap : Bootstrap) : (Session.start directory grace bundledCli bootstrap).Sound :=
  WorkingCopy.Sound.start directory rfl

theorem Sound.cliState {session : Session} (h : session.Sound) (world : World) :
    (session.cliState world).held.Sound CliUser.Fits (session.cliState world).user :=
  ⟨h.copy_isSome, h.wanted, h.fits⟩

theorem Sound.withCli {state : CopyState CliUser} (h : state.held.Sound CliUser.Fits state.user)
    (session : Session) : (session.withCli state).Sound :=
  ⟨h.copy_isSome, h.wanted, h.fits⟩

/-- The invariant does not speak of anything else. -/
theorem Sound.congr {session other : Session} (h : session.Sound) (hcli : other.cli = session.cli)
    (hsupervisor : other.supervisor = session.supervisor) : other.Sound := by
  unfold Sound
  rw [hcli, hsupervisor]
  exact h

/-- A session in which no process is in use is quiet as soon as none counts as launched. -/
theorem Sound.quiet {session : Session} (h : session.Sound) (hopen : session.cli.isOpen = false)
    (hlaunched : session.launched = none) : session.Quiet := by
  have hcopy := h.copy_eq_none hopen
  have hruns := h.fits
  rw [hcopy] at hruns
  exact ⟨hopen, hcopy, hlaunched, hruns.process_eq_none⟩

/-- Only the process, its working copy and the files differ. -/
structure ProcessOnly (before after : Session × World) : Prop where
  channel : after.1.channel = before.1.channel
  applied : after.1.applied = before.1.applied
  bundledCli : after.1.bundledCli = before.1.bundledCli
  bootstrap : after.1.bootstrap = before.1.bootstrap
  network : after.2.network = before.2.network
  surroundings : after.2.surroundings = before.2.surroundings

theorem ProcessOnly.refl (pair : Session × World) : ProcessOnly pair pair :=
  ⟨rfl, rfl, rfl, rfl, rfl, rfl⟩

theorem ProcessOnly.trans {first second third : Session × World} (h : ProcessOnly first second)
    (h' : ProcessOnly second third) : ProcessOnly first third :=
  ⟨h'.channel.trans h.channel, h'.applied.trans h.applied, h'.bundledCli.trans h.bundledCli,
    h'.bootstrap.trans h.bootstrap, h'.network.trans h.network,
    h'.surroundings.trans h.surroundings⟩

/-! ## 3. Stopping -/

/-- The working copy once the process is stopped, and before it is given up. -/
def stopped (session : Session) (world : World) : CopyState CliUser where
  held := session.cli
  files := (session.supervisor.stop world.files world.processes).2.2.2
  user := ⟨(session.supervisor.stop world.files world.processes).2.1, session.arguments,
    (session.supervisor.stop world.files world.processes).2.2.1⟩

/-- Giving up the copy finds no process to stop any more. -/
theorem stopped_left_user (session : Session) (world : World) :
    ((session.stopped world).left CliUser.use).user = (session.stopped world).user := by
  have hstop := Supervisor.stop_of_none (session.stopped world).files
    (session.stopped world).user.processes
    (Supervisor.stop_process world.files session.supervisor world.processes)
  have hclosed : (CliUser.use.closed (session.stopped world).files
      (session.stopped world).user).2 = (session.stopped world).user := by
    simp only [CliUser.use, stopped] at hstop ⊢
    rw [hstop]
  simp only [CopyState.left, hclosed, ite_self]

/-- **Stopping what was launched**: the process goes first, then its copy. -/
theorem stopCli_of_launched {session : Session} {world : World}
    (hcopy : session.cli.copy.isSome = session.cli.isOpen)
    (h : (session.launched.isSome || session.cli.isOpen) = true) :
    session.stopCli world =
      ({ session with
          cli := { session.cli with isWanted := false, copy := none, isOpen := false }
          supervisor := (session.stopped world).user.supervisor
          launched := none },
        { world with
          files := (session.stopped world).discard.files
          processes := (session.stopped world).user.processes }) := by
  have hclose := CopyState.closeCopy_eq (session.stopped world) CliUser.use_respects.yields hcopy
  have huser : (((session.stopped world).want false).left CliUser.use).user =
      (session.stopped world).user := session.stopped_left_user world
  have hfiles : (((session.stopped world).want false).left CliUser.use).files =
      (session.stopped world).discard.files := CopyState.discard_files_congr rfl rfl
  have hstop : session.stopCli world =
      ({ session with launched := none }.withCli
          ((session.stopped world).closeCopy CliUser.use).2,
        world.withCli ((session.stopped world).closeCopy CliUser.use).2) := by
    simp only [stopCli, h, if_true]
    rfl
  rw [hstop, hclose, withCli, World.withCli, huser, hfiles]
  rfl

theorem stopCli_of_not_launched {session : Session} {world : World}
    (h : (session.launched.isSome || session.cli.isOpen) = false) :
    session.stopCli world = ({ session with launched := none }, world) := by
  simp [stopCli, h]

/-- **Once it is stopped the session is quiet.** -/
theorem stopCli_quiet {session : Session} (h : session.Sound) (world : World) :
    (session.stopCli world).1.Quiet := by
  cases hl : session.launched.isSome || session.cli.isOpen with
  | false =>
    have hopen := (Bool.or_eq_false_iff.mp hl).2
    rw [stopCli_of_not_launched hl]
    exact Sound.quiet (Sound.congr h rfl rfl) hopen rfl
  | true =>
    rw [stopCli_of_launched h.copy_isSome hl]
    exact ⟨rfl, rfl, rfl, Supervisor.stop_process _ _ _⟩

/-- **The process that was held does not run any more.** -/
theorem stopCli_child {session : Session} (h : session.Sound) (world : World) {number : Nat}
    {path : Path} (hheld : session.supervisor.process = some (number, path)) :
    (session.stopCli world).2.processes.isRunning number = false := by
  have hopen : session.cli.isOpen = true := by
    rw [← h.copy_isSome, ← h.fits, hheld]
    rfl
  rw [stopCli_of_launched h.copy_isSome (by rw [hopen, Bool.or_true])]
  exact Supervisor.stop_child hheld

/-- Stopping leaves everything else alone. -/
theorem stopCli_processOnly {session : Session} (h : session.Sound) (world : World) :
    ProcessOnly (session, world) (session.stopCli world) := by
  cases hl : session.launched.isSome || session.cli.isOpen with
  | false => rw [stopCli_of_not_launched hl]; exact ⟨rfl, rfl, rfl, rfl, rfl, rfl⟩
  | true => rw [stopCli_of_launched h.copy_isSome hl]; exact ⟨rfl, rfl, rfl, rfl, rfl, rfl⟩

theorem Quiet.sound {session : Session} (h : session.Quiet) : session.Sound := by
  refine ⟨by rw [h.copy, h.isOpen]; rfl, fun hopen => ?_, ?_⟩
  · rw [h.isOpen] at hopen
    exact absurd hopen Bool.false_ne_true
  · rw [h.copy, Supervisor.Runs, h.process]
    rfl

/-- Stopping keeps the invariant. -/
theorem Sound.stopCli {session : Session} (h : session.Sound) (world : World) :
    (session.stopCli world).1.Sound := (stopCli_quiet h world).sound

/-- Without a process and without a connection there is nothing to disconnect. -/
theorem disconnect_of_idle {session : Session} (h : session.Idle) (world : World) :
    session.disconnect world = (session, world) := by
  simp [disconnect, Channel.address, h.connection, h.launched, h.isOpen]

/-- What disconnecting comes to otherwise. -/
theorem disconnect_of_busy {session : Session} {world : World}
    (h : (session.channel.address.isNone && session.launched.isNone && !session.cli.isOpen) =
      false) :
    session.disconnect world =
      ({ (session.stopCli world).1 with channel := .idle }, (session.stopCli world).2) := by
  unfold disconnect
  rw [h]
  rfl

/-- **Once it is disconnected the session is idle**, and the process that was held does not
run. -/
theorem disconnect_idle {session : Session} (h : session.Sound) (world : World) :
    (session.disconnect world).1.Idle ∧
      ∀ number path, session.supervisor.process = some (number, path) →
        (session.disconnect world).2.processes.isRunning number = false := by
  cases hidle : session.channel.address.isNone && session.launched.isNone &&
      !session.cli.isOpen with
  | true =>
    simp only [Bool.and_eq_true, Option.isNone_iff_eq_none, Bool.not_eq_true'] at hidle
    obtain ⟨⟨haddress, hlaunched⟩, hopen⟩ := hidle
    have hquiet := h.quiet hopen hlaunched
    have hidle : session.Idle := ⟨hquiet, Option.map_eq_none_iff.mp haddress⟩
    rw [disconnect_of_idle hidle]
    refine ⟨hidle, fun number path hheld => ?_⟩
    rw [hquiet.process] at hheld
    cases hheld
  | false =>
    rw [disconnect_of_busy hidle]
    have hquiet := stopCli_quiet h world
    exact ⟨⟨⟨hquiet.isOpen, hquiet.copy, hquiet.launched, hquiet.process⟩, rfl⟩,
      fun number path hheld => stopCli_child h world hheld⟩

/-- Disconnecting keeps the invariant. -/
theorem Sound.disconnect {session : Session} (h : session.Sound) (world : World) :
    (session.disconnect world).1.Sound := (disconnect_idle h world).1.toQuiet.sound

/-! ## 4. Starting -/

/-- The executable can be run: a copy of it can be made, and a process starts from that. -/
def Spawns (launch : Launch) (session : Session) (world : World) : Prop :=
  ∃ copy files,
    WorkingCopy.copySource session.cli.directory launch.path world.files = (some copy, files) ∧
      (world.processes.spawn files copy launch.arguments).1.isSome = true

/-- The working copy of a quiet session is pointed to the executable and put to use. -/
def entered (launch : Launch) (session : Session) (world : World) : Bool × CopyState CliUser :=
  (({ session with arguments := launch.arguments }.cliState world).setSource CliUser.use
    (some launch.path)).2.openCopy CliUser.use

theorem within_entered (launch : Launch) (session : Session) (world : World) :
    let aimed := { session with arguments := launch.arguments }.within
      (CopyState.setSource CliUser.use (some launch.path)) world
    aimed.2.1.within (CopyState.openCopy CliUser.use) aimed.2.2 =
      ((entered launch session world).1, session.withCli (entered launch session world).2,
        world.withCli (entered launch session world).2) := rfl

/-- **Starting**: the old process is stopped, and the working copy put to use. -/
theorem startCli_eq (launch : Launch) (session : Session) (world : World) :
    session.startCli launch world =
      let quiet := session.stopCli world
      match entered launch quiet.1 quiet.2 with
      | (true, state) =>
        (true, { quiet.1.withCli state with launched := some launch }, quiet.2.withCli state)
      | (false, state) => (false, quiet.1.withCli state, quiet.2.withCli state) := by
  have hwithin := within_entered launch (session.stopCli world).1 (session.stopCli world).2
  unfold startCli
  dsimp only at hwithin ⊢
  rw [hwithin]
  rcases entered launch (session.stopCli world).1 (session.stopCli world).2 with ⟨_ | _, state⟩
  · rfl
  · rfl

theorem Sound.entered {session : Session} (h : session.Sound) (launch : Launch) (world : World) :
    (Session.entered launch session world).2.held.Sound CliUser.Fits
      (Session.entered launch session world).2.user :=
  have haimed : { session with arguments := launch.arguments }.Sound := h
  WorkingCopy.Sound.openCopy CliUser.use_respects
    (WorkingCopy.Sound.setSource CliUser.use_respects (haimed.cliState world) _)

/-- **What can be run is put to use.**  A wish that an earlier attempt left behind makes the
executable start already when the working copy is pointed to it. -/
theorem entered_of_spawns {launch : Launch} {session : Session} {world : World}
    (h : session.Quiet) (hspawns : Spawns launch session world) :
    (entered launch session world).1 = true := by
  obtain ⟨copy, files, hmade, hspawn⟩ := hspawns
  have hcopies : session.cli.copy.isSome = session.cli.isOpen := h.sound.copy_isSome
  let state : CopyState CliUser := { session with arguments := launch.arguments }.cliState world
  -- wherever only the source, the wish and the arguments differ, the executable is started
  have henter : ∀ other : CopyState CliUser, other.held.isOpen = false → other.held.copy = none →
      other.held.source = some launch.path → other.held.directory = session.cli.directory →
      other.files = world.files → other.user = state.user →
      (other.enter CliUser.use).1 = true := by
    intro other hopen hcopy hsource hdirectory hfiles huser
    have hidle : other.user.supervisor.process = none := by rw [huser]; exact h.process
    have hruns : (other.user.processes.spawn files copy other.user.arguments).1.isSome = true := by
      rw [huser]; exact hspawn
    obtain ⟨user, hused⟩ := CliUser.opened_of_spawn hidle hruns
    rw [CopyState.enter_eq hopen hcopy hsource (by rw [hdirectory, hfiles]; exact hmade) hused]
  unfold entered
  cases hwanted : session.cli.isWanted with
  | false =>
    rw [CopyState.setSource_of_not_wanted state _ hwanted]
    exact henter _ h.isOpen h.copy rfl rfl rfl rfl
  | true =>
    have hleft : (state.pointed (some launch.path)).left CliUser.use =
        state.pointed (some launch.path) := CopyState.left_of_closed h.isOpen h.copy
    rw [CopyState.setSource_of_wanted state _ hwanted CliUser.use_respects.yields hcopies, hleft]
    have hdone := henter (state.pointed (some launch.path)) h.isOpen h.copy rfl rfl rfl rfl
    rw [← CopyState.enter_isOpen _ hcopies] at hdone
    rw [CopyState.openCopy_of_isOpen hdone]

/-- Starting keeps the invariant, whatever comes of it. -/
theorem Sound.startCli {session : Session} (h : session.Sound) (launch : Launch) (world : World) :
    (session.startCli launch world).2.1.Sound := by
  have hentered := Sound.entered (h.stopCli world) launch (session.stopCli world).2
  rw [startCli_eq]
  dsimp only
  rcases he : Session.entered launch (session.stopCli world).1 (session.stopCli world).2 with
    ⟨_ | _, state⟩ <;> rw [he] at hentered
  · exact Sound.withCli hentered _
  · exact Sound.congr (Sound.withCli hentered (session.stopCli world).1) rfl rfl

/-- Starting leaves everything but the process alone. -/
theorem startCli_processOnly {session : Session} (h : session.Sound) (launch : Launch)
    (world : World) : ProcessOnly (session, world) (session.startCli launch world).2 := by
  refine (stopCli_processOnly h world).trans ?_
  rw [startCli_eq]
  dsimp only
  rcases entered launch (session.stopCli world).1 (session.stopCli world).2 with ⟨_ | _, state⟩
  · exact ⟨rfl, rfl, rfl, rfl, rfl, rfl⟩
  · exact ⟨rfl, rfl, rfl, rfl, rfl, rfl⟩

/-- **An executable that can be run is started**, whatever the session did before. -/
theorem startCli_of_spawns {session : Session} (h : session.Sound) {launch : Launch}
    {world : World} (hspawns : Spawns launch (session.stopCli world).1 (session.stopCli world).2) :
    (session.startCli launch world).1 = true := by
  have hentered := entered_of_spawns (stopCli_quiet h world) hspawns
  rw [startCli_eq]
  dsimp only
  rcases he : entered launch (session.stopCli world).1 (session.stopCli world).2 with
    ⟨_ | _, state⟩
  · rw [he] at hentered
    exact absurd hentered Bool.false_ne_true
  · rfl

/-! ## 5. The process of a configuration -/

/-- The launch that a configuration asks for, with the executable at a path. -/
def launchOf (config : ServerConfig) (path : Path) : Launch := ⟨path, config.ip, config.port⟩

/-- The process that runs is the one that a launch would start. -/
def Reuses (launch : Launch) (session : Session) (world : World) : Prop :=
  (session.launched.any launch.same && session.isCliRunning world) = true

/-- **What seeing to the process can come to**: there shall be none, its executable is not known,
it runs already, or it is started. -/
theorem ensureCli_cases (config : ServerConfig) (session : Session) (world : World) :
    (config.location.spawnsCli = false ∧
      session.ensureCli config world = (.ok (), session.stopCli world)) ∨
    config.location.spawnsCli = true ∧
      ((∃ e, session.cliPath world config = .error e ∧
          session.ensureCli config world = (.error e, session, world)) ∨
        ∃ path, session.cliPath world config = .ok path ∧
          ((Reuses (launchOf config path) session world ∧
              session.ensureCli config world = (.ok (), session, world)) ∨
            (¬Reuses (launchOf config path) session world ∧
              session.ensureCli config world =
                (if (session.startCli (launchOf config path) world).1 then .ok ()
                  else .error (.cliStart path),
                  (session.startCli (launchOf config path) world).2)))) := by
  cases hspawns : config.location.spawnsCli with
  | false => exact Or.inl ⟨rfl, by simp [ensureCli, hspawns]⟩
  | true =>
    refine Or.inr ⟨rfl, ?_⟩
    cases hpath : session.cliPath world config with
    | error e => exact Or.inl ⟨e, rfl, by simp [ensureCli, hspawns, hpath]⟩
    | ok path =>
      refine Or.inr ⟨path, rfl, ?_⟩
      by_cases hreuses : Reuses (launchOf config path) session world
      · have hkept := hreuses
        rw [Reuses, launchOf] at hkept
        exact Or.inl ⟨hreuses, by simp only [ensureCli, hspawns, hpath, hkept]; rfl⟩
      · have hkept := hreuses
        rw [Reuses, launchOf, Bool.not_eq_true] at hkept
        refine Or.inr ⟨hreuses, ?_⟩
        rcases hstart : session.startCli (launchOf config path) world with ⟨_ | _, started⟩
        · rw [launchOf] at hstart
          simp only [ensureCli, hspawns, hpath, hkept, hstart]
          rfl
        · rw [launchOf] at hstart
          simp only [ensureCli, hspawns, hpath, hkept, hstart]
          rfl

/-- Seeing to the process keeps the invariant and leaves everything else alone. -/
theorem Sound.ensureCli {session : Session} (h : session.Sound) (config : ServerConfig)
    (world : World) :
    (session.ensureCli config world).2.1.Sound ∧
      ProcessOnly (session, world) (session.ensureCli config world).2 := by
  rcases ensureCli_cases config session world with
    ⟨-, he⟩ | ⟨-, ⟨e, -, he⟩ | ⟨path, -, ⟨-, he⟩ | ⟨-, he⟩⟩⟩
  · rw [he]
    exact ⟨h.stopCli world, stopCli_processOnly h world⟩
  · rw [he]
    exact ⟨h, .refl _⟩
  · rw [he]
    exact ⟨h, .refl _⟩
  · rw [he]
    exact ⟨h.startCli _ world, startCli_processOnly h _ world⟩

/-- **What the process of a configuration takes**: the executable is known, and it runs as it
should, or can be run once the old process is stopped. -/
def Launches (config : ServerConfig) (session : Session) (world : World) : Prop :=
  config.location.spawnsCli = true → ∃ path, session.cliPath world config = .ok path ∧
    (Reuses (launchOf config path) session world ∨
      Spawns (launchOf config path) (session.stopCli world).1 (session.stopCli world).2)

theorem ensureCli_of_launches {session : Session} (h : session.Sound) {config : ServerConfig}
    {world : World} (hlaunches : Launches config session world) :
    (session.ensureCli config world).1 = .ok () := by
  rcases ensureCli_cases config session world with
    ⟨-, he⟩ | ⟨hlocation, ⟨e, hunknown, he⟩ | ⟨path, hpath, ⟨-, he⟩ | ⟨hreuses, he⟩⟩⟩
  · rw [he]
  · obtain ⟨path, hpath, -⟩ := hlaunches hlocation
    rw [hunknown] at hpath
    cases hpath
  · rw [he]
  · obtain ⟨path', hpath', hruns⟩ := hlaunches hlocation
    obtain rfl : path = path' := Except.ok.inj (hpath.symm.trans hpath')
    have hspawns := hruns.resolve_left hreuses
    rw [he, startCli_of_spawns h hspawns]
    rfl

end Session

end RenderSync
