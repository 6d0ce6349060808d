import RenderSync.Proofs.Truth

/-!
# What a session has done

A session says where it stands, and not how it came there.  A `Chronicle` keeps account of that: it
is a session in the world together with the list of its acts (`Act`), each taken down at the very
place where it is done.  So a process is taken down as started where the supervisor has spawned it,
as stopped where the supervisor has stopped it, and a command as said where the channel has sent
it.

The operations are those of a session, once more and with the list.  Forgetting the list gives the
operation of the session (`connectAmid_plain`, `disconnect_plain`, `announce_plain`), and so does
forgetting it along a run (`Tells.steps`), so that what is true of the acts is true of the session
that is used.
-/

namespace RenderSync

/-! ## 1. Acts -/

/-- A process of a session as it was started. -/
structure Child where
  number : Nat
  copy : Path
  arguments : List String
  /-- The files at that moment. -/
  files : FileTree

/-- What a session does. -/
inductive Act where
  | started (child : Child)
  /-- A process was stopped; with the processes after that. -/
  | stopped (number : Nat) (processes : ProcessTable)
  /-- The connection that was held was let go. -/
  | closed
  /-- The address of a configuration is tried. -/
  | dialed (config : ServerConfig)
  /-- It has accepted a connection. -/
  | opened
  /-- A command was sent; with the files when it was made. -/
  | said (files : FileTree) (command : Command)

/-- What stopping the process of a supervisor is taken down as. -/
def Supervisor.stopping (supervisor : Supervisor) (after : ProcessTable) : List Act :=
  match supervisor.process with
  | none => []
  | some (number, _) => [.stopped number after]

/-- What letting a connection go is taken down as. -/
def Channel.closing (channel : Channel) : List Act :=
  if channel.connection.isSome then [.closed] else []

/-! ## 2. Working copies whose user keeps account -/

/-- The user of the executable's working copy, who keeps account. -/
structure CliScribe where
  user : CliUser
  acts : List Act

/-- `CliUser.use`, with account of the processes that are started and stopped. -/
def CliScribe.use : CopyUse CliScribe where
  opened files copy scribe :=
    let user := scribe.user
    match user.supervisor.start files copy user.arguments user.processes with
    | (.ok number, supervisor, processes) =>
      (true, ⟨⟨supervisor, user.arguments, processes⟩,
        scribe.acts ++ [.started ⟨number, copy, user.arguments, files⟩]⟩)
    | (.error _, supervisor, processes) =>
      (false, ⟨⟨supervisor, user.arguments, processes⟩, scribe.acts⟩)
  closed files scribe :=
    let user := scribe.user
    let (_, supervisor, processes, _) := user.supervisor.stop files user.processes
    (true, ⟨⟨supervisor, user.arguments, processes⟩,
      scribe.acts ++ user.supervisor.stopping processes⟩)

theorem CliScribe.use_forgets : CliScribe.use.Forgets CliUser.use CliScribe.user where
  opened files copy scribe := by
    unfold CliScribe.use CliUser.use
    dsimp only
    rcases scribe.user.supervisor.start files copy scribe.user.arguments scribe.user.processes with
      ⟨e | number, supervisor, processes⟩
    · rfl
    · rfl
  closed files scribe := rfl

/-! ## 3. Sessions with an account -/

/-- Sends commands until one fails, while others act before each; `files` are those that the
commands were made from. -/
def Channel.sayAllAmid (before : Nat → Outside) (files : FileTree) :
    List Command → Nat → Channel → World → List Act → Except ChannelError Unit × World × List Act
  | [], _, _, world, acts => (.ok (), world, acts)
  | command :: rest, place, channel, world, acts =>
    let world := (before place).change world
    match channel.send command.line world.network with
    | (.ok (), network) =>
      sayAllAmid before files rest (place + 1) channel { world with network := network }
        (acts ++ [.said files command])
    | (.error e, network) => (.error e, { world with network := network }, acts)

/-- A session in the world, and what it has done, oldest first. -/
structure Chronicle where
  session : Session
  world : World
  acts : List Act

namespace Chronicle

/-- Without the account. -/
def plain (chronicle : Chronicle) : Session × World := (chronicle.session, chronicle.world)

/-- The executable, the files, the process and the account as the working copy sees them. -/
def scribed (chronicle : Chronicle) : CopyState CliScribe where
  held := chronicle.session.cli
  files := chronicle.world.files
  user := ⟨⟨chronicle.session.supervisor, chronicle.session.arguments,
    chronicle.world.processes⟩, chronicle.acts⟩

/-- The chronicle after something was done to the working copy. -/
def withScribe (state : CopyState CliScribe) (chronicle : Chronicle) : Chronicle :=
  let user := state.user.user
  { session := { chronicle.session with
      cli := state.held, supervisor := user.supervisor, arguments := user.arguments }
    world := { chronicle.world with files := state.files, processes := user.processes }
    acts := state.user.acts }

/-- Does something to the working copy of the executable. -/
def within (operation : CopyState CliScribe → Bool × CopyState CliScribe)
    (chronicle : Chronicle) : Bool × Chronicle :=
  let (done, state) := operation chronicle.scribed
  (done, chronicle.withScribe state)

/-- Stops the process. -/
def stopProcess (chronicle : Chronicle) : Chronicle :=
  let session := chronicle.session
  let (_, supervisor, processes, files) :=
    session.supervisor.stop chronicle.world.files chronicle.world.processes
  { session := { session with supervisor := supervisor }
    world := { chronicle.world with processes := processes, files := files }
    acts := chronicle.acts ++ session.supervisor.stopping processes }

/-- Stops the process, if one was launched, and gives its working copy up. -/
def stopCli (chronicle : Chronicle) : Chronicle :=
  let stopped := { chronicle with session := { chronicle.session with launched := none } }
  if chronicle.session.launched.isSome || chronicle.session.cli.isOpen then
    (stopped.stopProcess.within (CopyState.closeCopy CliScribe.use)).2
  else stopped

/-- Starts the process in place of any other. -/
def startCli (launch : Launch) (chronicle : Chronicle) : Bool × Chronicle :=
  let stopped := chronicle.stopCli
  let aimed := { stopped with session := { stopped.session with arguments := launch.arguments } }
  let (_, pointed) := aimed.within (CopyState.setSource CliScribe.use (some launch.path))
  match pointed.within (CopyState.openCopy CliScribe.use) with
  | (true, done) =>
    (true, { done with session := { done.session with launched := some launch } })
  | (false, done) => (false, done)

/-- Sees to it that the process of a configuration runs, and no other. -/
def ensureCli (config : ServerConfig) (chronicle : Chronicle) :
    Except ServerError Unit × Chronicle :=
  if !config.location.spawnsCli then (.ok (), chronicle.stopCli)
  else
    match chronicle.session.cliPath chronicle.world config with
    | .error e => (.error e, chronicle)
    | .ok path =>
      let launch : Launch := ⟨path, config.ip, config.port⟩
      if chronicle.session.launched.any launch.same &&
          chronicle.session.isCliRunning chronicle.world then
        (.ok (), chronicle)
      else
        match chronicle.startCli launch with
        | (true, started) => (.ok (), started)
        | (false, started) => (.error (.cliStart path), started)

/-- Lets the connection go and stops the process. -/
def disconnect (chronicle : Chronicle) : Chronicle :=
  let session := chronicle.session
  if session.channel.address.isNone && session.launched.isNone && !session.cli.isOpen then
    chronicle
  else
    let stopped := chronicle.stopCli
    { session := { stopped.session with channel := stopped.session.channel.disconnect }
      world := stopped.world
      acts := stopped.acts ++ stopped.session.channel.closing }

/-- Connects and sends the bootstrap commands, while others act before each of them. -/
def connectChannelAmid (before : Nat → Outside) (config : ServerConfig) (chronicle : Chronicle) :
    Except ServerError Unit × Chronicle :=
  let session := chronicle.session
  let world := chronicle.world
  let acts := chronicle.acts ++ session.channel.closing ++ [.dialed config]
  match session.channel.connect config.ip config.port world.network with
  | (.error e, channel, network) =>
    (.error (.channel e),
      ⟨{ session with channel := channel }, { world with network := network }, acts⟩)
  | (.ok (), channel, network) =>
    match channel.sayAllAmid before world.files (session.bootstrap.commands world.files) 0
      { world with network := network } (acts ++ [.opened]) with
    | (.ok (), world, acts) =>
      (.ok (), ⟨{ session with channel := channel, applied := some config }, world, acts⟩)
    | (.error e, world, acts) =>
      (.error (.channel e),
        ⟨{ session with channel := channel.disconnect }, world, acts ++ channel.closing⟩)

/-- The chronicle before the process is seen to: it is not connected. -/
def down (chronicle : Chronicle) : Chronicle :=
  if chronicle.session.channel.isConnected then chronicle.disconnect else chronicle

/-- Others act. -/
def amid (others : Outside) (chronicle : Chronicle) : Chronicle :=
  { chronicle with world := others.change chronicle.world }

/-- The chronicle once nothing is in the way any more, and others have acted. -/
def ready (meanwhile : Meanwhile) (chronicle : Chronicle) : Chronicle :=
  chronicle.down.amid meanwhile.beforeProcess

/-- Sets up a session while others act. -/
def connectAmid (meanwhile : Meanwhile) (config : ServerConfig) (chronicle : Chronicle) :
    Except ServerError Unit × Chronicle :=
  if chronicle.session.channel.isConnected && chronicle.session.current.applies config then
    (.ok (), chronicle)
  else
    match (chronicle.ready meanwhile).ensureCli config with
    | (.error e, ready) => (.error e, ready.amid meanwhile.beforeConnection)
    | (.ok (), ready) =>
      (ready.amid meanwhile.beforeConnection).connectChannelAmid meanwhile.beforeCommand config

/-- Sends commands until one fails. -/
def say (commands : List Command) (chronicle : Chronicle) : Except ServerError Unit × Chronicle :=
  let session := chronicle.session
  match session.channel.sayAllAmid (fun _ => .nothing) chronicle.world.files commands 0
    chronicle.world chronicle.acts with
  | (.ok (), world, acts) => (.ok (), ⟨session, world, acts⟩)
  | (.error e, world, acts) => (.error (.channel e), ⟨session, world, acts⟩)

/-- Announces a preference that was stored, and asks for the builds that follow from it. -/
def announce (command : Command) (chronicle : Chronicle) :
    Except ServerError Unit × Chronicle :=
  let session := chronicle.session
  if !session.channel.isConnected then (.ok (), chronicle)
  else chronicle.say (command :: session.bootstrap.builds .updates)

/-- Other options of the bootstrap. -/
def withBootstrap (bootstrap : Bootstrap) (chronicle : Chronicle) : Chronicle :=
  { chronicle with session := { chronicle.session with bootstrap := bootstrap } }

/-- Stores and announces whether the executable is rebuilt on change. -/
def updateBuildOnChange (executable : Bool) (chronicle : Chronicle) :
    Except ServerError Unit × Chronicle :=
  let bootstrap := { chronicle.session.bootstrap with buildExecutableOnChange := executable }
  (chronicle.withBootstrap bootstrap).announce bootstrap.onChange

/-- Stores and announces the project directory. -/
def updateProjectDirectory (directory : Path) (chronicle : Chronicle) :
    Except ServerError Unit × Chronicle :=
  let bootstrap := { chronicle.session.bootstrap with projectDirectory := directory }
  (chronicle.withBootstrap bootstrap).announce (bootstrap.directory chronicle.world.files)

/-! ## 4. Without the account -/

theorem within_plain {operation : CopyState CliScribe → Bool × CopyState CliScribe}
    {plainly : CopyState CliUser → Bool × CopyState CliUser}
    (h : ∀ state, plainly (state.map CliScribe.user) =
      ((operation state).1, (operation state).2.map CliScribe.user)) (chronicle : Chronicle) :
    chronicle.session.within plainly chronicle.world =
      ((chronicle.within operation).1, (chronicle.within operation).2.plain) := by
  have hstate := h chronicle.scribed
  have hmap : chronicle.scribed.map CliScribe.user =
      chronicle.session.cliState chronicle.world := rfl
  rw [hmap, Session.cliState] at hstate
  unfold Session.within within plain
  dsimp only
  rw [hstate]
  rfl

theorem stopCli_plain (chronicle : Chronicle) :
    chronicle.session.stopCli chronicle.world = chronicle.stopCli.plain := by
  unfold Session.stopCli stopCli
  dsimp only
  split
  · let stopped := { chronicle with session := { chronicle.session with launched := none } }
    have hclosed := within_plain (CopyState.closeCopy_map CliScribe.use_forgets)
      stopped.stopProcess
    exact congrArg Prod.snd hclosed
  · rfl

theorem startCli_plain (launch : Launch) (chronicle : Chronicle) :
    chronicle.session.startCli launch chronicle.world =
      ((chronicle.startCli launch).1, (chronicle.startCli launch).2.plain) := by
  unfold Session.startCli startCli
  rw [stopCli_plain]
  let stopped := chronicle.stopCli
  let aimed : Chronicle :=
    { stopped with session := { stopped.session with arguments := launch.arguments } }
  have hpointed := within_plain
    (CopyState.setSource_map CliScribe.use_forgets (some launch.path)) aimed
  have hopened := within_plain (CopyState.openCopy_map CliScribe.use_forgets)
    (aimed.within (CopyState.setSource CliScribe.use (some launch.path))).2
  unfold plain at hpointed hopened ⊢
  dsimp only [aimed, stopped] at hpointed hopened ⊢
  rw [hpointed]
  dsimp only
  rw [hopened]
  generalize Chronicle.within (CopyState.openCopy CliScribe.use) _ = done
  rcases done with ⟨_ | _, done⟩
  · rfl
  · rfl

theorem ensureCli_plain (config : ServerConfig) (chronicle : Chronicle) :
    chronicle.session.ensureCli config chronicle.world =
      ((chronicle.ensureCli config).1, (chronicle.ensureCli config).2.plain) := by
  unfold Session.ensureCli ensureCli
  split
  · rw [stopCli_plain]
  · cases chronicle.session.cliPath chronicle.world config with
    | error e => rfl
    | ok path =>
      dsimp only
      split
      · rfl
      · rw [startCli_plain]
        generalize Chronicle.startCli _ _ = done
        rcases done with ⟨_ | _, done⟩
        · rfl
        · rfl

theorem disconnect_plain (chronicle : Chronicle) :
    chronicle.session.disconnect chronicle.world = chronicle.disconnect.plain := by
  unfold Session.disconnect disconnect
  dsimp only
  split
  · rfl
  · rw [stopCli_plain]
    rfl

/-- A session that is disconnected is idle, and would tell a server the same. -/
theorem disconnect_idle {chronicle : Chronicle} (h : chronicle.session.Sound) :
    chronicle.disconnect.session.Idle ∧
      chronicle.disconnect.session.bootstrap = chronicle.session.bootstrap := by
  have hplain : (chronicle.session.disconnect chronicle.world).1 = chronicle.disconnect.session :=
    congrArg Prod.fst (disconnect_plain chronicle)
  rw [← hplain]
  exact ⟨(Session.disconnect_idle h chronicle.world).1,
    (Session.disconnect_keeps h chronicle.world).2⟩

theorem down_plain (chronicle : Chronicle) :
    chronicle.session.down chronicle.world = chronicle.down.plain := by
  unfold Session.down down
  split
  · exact disconnect_plain chronicle
  · rfl

theorem sayAllAmid_plain (before : Nat → Outside) (files : FileTree) (commands : List Command)
    (channel : Channel) : ∀ (place : Nat) (world : World) (acts : List Act),
      channel.sendAllAmid before (commands.map Command.line) place world =
        ((channel.sayAllAmid before files commands place world acts).1,
          (channel.sayAllAmid before files commands place world acts).2.1) := by
  induction commands with
  | nil => exact fun _ _ _ => rfl
  | cons command rest ih =>
    intro place world acts
    rw [List.map_cons, Channel.sendAllAmid, Channel.sayAllAmid]
    rcases channel.send command.line ((before place).change world).network with
      ⟨e | ⟨⟩, network⟩
    · rfl
    · exact ih (place + 1) _ _

theorem connectChannelAmid_plain (before : Nat → Outside) (config : ServerConfig)
    (chronicle : Chronicle) :
    chronicle.session.connectChannelAmid before config chronicle.world =
      ((chronicle.connectChannelAmid before config).1,
        (chronicle.connectChannelAmid before config).2.plain) := by
  unfold Session.connectChannelAmid connectChannelAmid
  dsimp only
  rcases chronicle.session.channel.connect config.ip config.port chronicle.world.network with
    ⟨e | ⟨⟩, channel, network⟩
  · rfl
  · have hsaid := sayAllAmid_plain before chronicle.world.files
      (chronicle.session.bootstrap.commands chronicle.world.files) channel 0
      { chronicle.world with network := network }
      (chronicle.acts ++ chronicle.session.channel.closing ++ [.dialed config] ++ [.opened])
    dsimp only
    rw [hsaid]
    generalize Channel.sayAllAmid _ _ _ _ _ _ _ = said
    rcases said with ⟨e | ⟨⟩, world, acts⟩
    · rfl
    · rfl

/-- The session once its process was seen to, and others have acted. -/
theorem readied_plain (meanwhile : Meanwhile) (config : ServerConfig) (chronicle : Chronicle) :
    chronicle.session.readied meanwhile config chronicle.world =
      (((chronicle.ready meanwhile).ensureCli config).1,
        (((chronicle.ready meanwhile).ensureCli config).2.amid
          meanwhile.beforeConnection).plain) := by
  have hensured := ensureCli_plain config (chronicle.ready meanwhile)
  unfold Session.readied
  rw [down_plain]
  unfold plain ready amid at hensured ⊢
  dsimp only at hensured ⊢
  rw [hensured]

/-- **A connect with an account is a connect.** -/
theorem connectAmid_plain (meanwhile : Meanwhile) (config : ServerConfig)
    (chronicle : Chronicle) :
    chronicle.session.connectAmid meanwhile config chronicle.world =
      ((chronicle.connectAmid meanwhile config).1,
        (chronicle.connectAmid meanwhile config).2.plain) := by
  unfold Session.connectAmid connectAmid
  split
  · rfl
  · rw [readied_plain]
    generalize Chronicle.ensureCli _ _ = done
    rcases done with ⟨e | ⟨⟩, ready⟩
    · rfl
    · exact connectChannelAmid_plain meanwhile.beforeCommand config
        (ready.amid meanwhile.beforeConnection)

/-- **Commands that are said are sent.** -/
theorem say_plain (commands : List Command) (chronicle : Chronicle) :
    chronicle.session.sendAll commands chronicle.world =
      ((chronicle.say commands).1, (chronicle.say commands).2.world) ∧
      (chronicle.say commands).2.session = chronicle.session := by
  have hsaid := sayAllAmid_plain (fun _ => .nothing) chronicle.world.files commands
    chronicle.session.channel 0 chronicle.world chronicle.acts
  rw [Channel.sendAllAmid_undisturbed] at hsaid
  obtain ⟨hresult, hworld⟩ := Prod.ext_iff.mp hsaid
  unfold Session.sendAll say
  dsimp only at hresult hworld ⊢
  generalize Channel.sayAllAmid _ _ _ _ _ _ _ = said at hresult hworld ⊢
  obtain ⟨result, world, acts⟩ := said
  dsimp only at hresult hworld
  obtain rfl := hworld
  rcases hsent : chronicle.session.channel.sendAll (commands.map Command.line)
    chronicle.world.network with ⟨e | ⟨⟩, network⟩ <;> rw [hsent] at hresult
  · obtain rfl := hresult
    exact ⟨rfl, rfl⟩
  · obtain rfl := hresult
    exact ⟨rfl, rfl⟩

/-- **An announcement with an account is an announcement.** -/
theorem announce_plain (command : Command) (chronicle : Chronicle) :
    chronicle.session.announce command chronicle.world =
      ((chronicle.announce command).1, (chronicle.announce command).2.plain) := by
  unfold Session.announce announce
  dsimp only
  split
  · rfl
  · obtain ⟨hsent, hstays⟩ :=
      say_plain (command :: chronicle.session.bootstrap.builds .updates) chronicle
    rw [hsent, plain, hstays]

theorem updateBuildOnChange_plain (executable : Bool) (chronicle : Chronicle) :
    chronicle.session.updateBuildOnChange executable chronicle.world =
      ((chronicle.updateBuildOnChange executable).1,
        (chronicle.updateBuildOnChange executable).2.plain) :=
  announce_plain _ (chronicle.withBootstrap
    { chronicle.session.bootstrap with buildExecutableOnChange := executable })

theorem updateProjectDirectory_plain (directory : Path) (chronicle : Chronicle) :
    chronicle.session.updateProjectDirectory directory chronicle.world =
      ((chronicle.updateProjectDirectory directory).1,
        (chronicle.updateProjectDirectory directory).2.plain) :=
  announce_plain _ (chronicle.withBootstrap
    { chronicle.session.bootstrap with projectDirectory := directory })

/-! ## 5. Runs -/

/-- One move of a run (`SessionRun.step`). -/
def step : SessionMove → Chronicle → Chronicle
  | .connect meanwhile config, chronicle => (chronicle.connectAmid meanwhile config).2
  | .disconnect, chronicle => chronicle.disconnect
  | .send command, chronicle => (chronicle.say [command]).2
  | .updateBuildOnChange executable, chronicle => (chronicle.updateBuildOnChange executable).2
  | .updateProjectDirectory directory, chronicle => (chronicle.updateProjectDirectory directory).2
  | .setBootstrap bootstrap, chronicle => chronicle.withBootstrap bootstrap
  | .setBundledCli path, chronicle =>
    { chronicle with session := { chronicle.session with bundledCli := path } }
  | .arrive bytes, chronicle =>
    { chronicle with
      session := { chronicle.session with channel := (chronicle.session.channel.take bytes).2 } }
  | .stopReading, chronicle =>
    { chronicle with
      session := { chronicle.session with channel := chronicle.session.channel.stopReading } }
  | .outside others, chronicle => chronicle.amid others

/-- Moves, one after the other. -/
def steps (list : List SessionMove) (chronicle : Chronicle) : Chronicle :=
  list.foldl (fun chronicle next => chronicle.step next) chronicle

/-- Nothing has happened yet. -/
def start (directory : Path) (grace : Nat) (bundledCli : Option Path) (bootstrap : Bootstrap)
    (world : World) : Chronicle :=
  ⟨.start directory grace bundledCli bootstrap, world, []⟩

/-- The chronicle tells of the same session in the same world as a run. -/
def Tells (chronicle : Chronicle) (run : SessionRun) : Prop :=
  chronicle.plain = (run.session, run.world)

theorem Tells.step {chronicle : Chronicle} {run : SessionRun} (h : chronicle.Tells run)
    (next : SessionMove) : (chronicle.step next).Tells (run.step next) := by
  obtain ⟨session, world, acts⟩ := chronicle
  obtain ⟨session', world', opening⟩ := run
  cases h
  cases next with
  | connect meanwhile config =>
    have hconnect := connectAmid_plain meanwhile config ⟨session, world, acts⟩
    exact (congrArg Prod.snd hconnect).symm
  | disconnect => exact (disconnect_plain ⟨session, world, acts⟩).symm
  | send command =>
    obtain ⟨hsent, hstays⟩ := say_plain [command] ⟨session, world, acts⟩
    have hone : (session.send command world).2 = (session.sendAll [command] world).2 := by
      unfold Session.send Session.sendAll
      rw [List.map_singleton, Channel.sendAll]
      rcases session.channel.send command.line world.network with ⟨e | ⟨⟩, network⟩
      · rfl
      · rfl
    refine Prod.ext hstays ?_
    exact (congrArg Prod.snd hsent).symm.trans hone.symm
  | updateBuildOnChange executable =>
    exact (congrArg Prod.snd (updateBuildOnChange_plain executable ⟨session, world, acts⟩)).symm
  | updateProjectDirectory directory =>
    exact (congrArg Prod.snd (updateProjectDirectory_plain directory ⟨session, world, acts⟩)).symm
  | setBootstrap bootstrap => rfl
  | setBundledCli path => rfl
  | arrive bytes => rfl
  | stopReading => rfl
  | outside others => rfl

/-- **Along every run the chronicle tells of that run.** -/
theorem Tells.steps (list : List SessionMove) :
    ∀ {chronicle : Chronicle} {run : SessionRun}, chronicle.Tells run →
      (chronicle.steps list).Tells (run.steps list) := by
  induction list with
  | nil => exact fun h => h
  | cons next rest ih => exact fun h => ih (h.step next)

theorem Tells.start (directory : Path) (grace : Nat) (bundledCli : Option Path)
    (bootstrap : Bootstrap) (world : World) :
    (Chronicle.start directory grace bundledCli bootstrap world).Tells
      (.start directory grace bundledCli bootstrap world) := rfl

end Chronicle

end RenderSync
