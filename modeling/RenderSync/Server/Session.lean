import RenderSync.Channel.Basic
import RenderSync.Process.Supervisor
import RenderSync.Server.Bootstrap
import RenderSync.WorkingCopy

/-!
# Sessions with the build server

A session is a process, where the location asks for one, and a connection.  The process runs from
a working copy as `server --ip <ip> --port <port>`.  Connecting sends the bootstrap commands; only
when all of them are sent is the configuration `applied`.

A process whose connection failed is kept for the next attempt, as long as that one would launch
it the same way; every other attempt to set up a session, and every disconnect, stops it.
-/

namespace RenderSync

/-- How the process of a session is started. -/
structure Launch where
  path : Path
  ip : String
  port : UInt16
deriving DecidableEq, Repr, Inhabited

namespace Launch

/-- The arguments of the process. -/
def arguments (launch : Launch) : List String :=
  ["server", "--ip", launch.ip, "--port", String.ofList (Digits.ofNat launch.port.toNat)]

/-- Two launches start the same. -/
def same (a b : Launch) : Bool := a.path.same b.path && a.ip == b.ip && a.port == b.port

end Launch

/-- What is outside of the program. -/
structure World where
  files : FileTree
  processes : ProcessTable
  network : Network
  surroundings : Surroundings
deriving Inhabited

namespace World

/-- Time passes. -/
def pass (nanoseconds : Nat) (world : World) : World :=
  let (processes, files) := world.processes.pass (world.processes.now + nanoseconds) world.files
  { world with processes := processes, files := files }

end World

/-- A session with the build server. -/
structure Session where
  cli : WorkingCopy
  supervisor : Supervisor
  /-- The arguments for the next process. -/
  arguments : List String
  launched : Option Launch
  applied : Option ServerConfig
  channel : Channel
  /-- The executable that belongs to the host, if it is not in its usual place. -/
  bundledCli : Option Path
  bootstrap : Bootstrap
deriving Inhabited

/-- What the working copy of the executable is used for. -/
structure CliUser where
  supervisor : Supervisor
  arguments : List String
  processes : ProcessTable
deriving Inhabited

namespace CliUser

/-- A copy in use is a running process. -/
def use : CopyUse CliUser where
  opened files copy user :=
    match user.supervisor.start files copy user.arguments user.processes with
    | (.ok _, supervisor, processes) => (true, ⟨supervisor, user.arguments, processes⟩)
    | (.error _, supervisor, processes) => (false, ⟨supervisor, user.arguments, processes⟩)
  closed files user :=
    let (_, supervisor, processes, _) := user.supervisor.stop files user.processes
    (true, ⟨supervisor, user.arguments, processes⟩)

end CliUser

namespace Session

/-- Nothing started and nothing connected; copies are made in `directory`. -/
def start (directory : Path) (grace : Nat) (bundledCli : Option Path) (bootstrap : Bootstrap) :
    Session :=
  ⟨.start directory, .idle grace, [], none, none, .idle, bundledCli, bootstrap⟩

/-! ## 1. The process -/

/-- Does something to the working copy of the executable. -/
def within (operation : CopyState CliUser → Bool × CopyState CliUser) (session : Session)
    (world : World) : Bool × Session × World :=
  let user : CliUser := ⟨session.supervisor, session.arguments, world.processes⟩
  let (done, state) := operation ⟨session.cli, world.files, user⟩
  (done,
    { session with
      cli := state.held, supervisor := state.user.supervisor, arguments := state.user.arguments },
    { world with files := state.files, processes := state.user.processes })

/-- The process has not ended. -/
def isCliRunning (session : Session) (world : World) : Bool :=
  session.cli.isOpen && session.supervisor.isRunning world.processes

/-- The number of the process, while it runs. -/
def cliNumber? (session : Session) (world : World) : Option Nat :=
  if session.isCliRunning world then session.supervisor.process.map Prod.fst else none

/-- Stops the process; what it still does to files on its way out is done. -/
def stopProcess (session : Session) (world : World) : Session × World :=
  let (_, supervisor, processes, files) := session.supervisor.stop world.files world.processes
  ({ session with supervisor := supervisor },
    { world with processes := processes, files := files })

/-- Stops the process, if one was launched, and gives its working copy up. -/
def stopCli (session : Session) (world : World) : Session × World :=
  let stopped := { session with launched := none }
  if session.launched.isSome || session.cli.isOpen then
    let (stopped, world) := stopped.stopProcess world
    (stopped.within (CopyState.closeCopy CliUser.use) world).2
  else (stopped, world)

/-- Starts the process in place of any other. -/
def startCli (launch : Launch) (session : Session) (world : World) : Bool × Session × World :=
  let (session, world) := session.stopCli world
  let session := { session with arguments := launch.arguments }
  let (_, session, world) :=
    session.within (CopyState.setSource CliUser.use (some launch.path)) world
  match session.within (CopyState.openCopy CliUser.use) world with
  | (true, session, world) => (true, { session with launched := some launch }, world)
  | (false, session, world) => (false, session, world)

/-- The executable for a configuration. -/
def cliPath (session : Session) (world : World) (config : ServerConfig) : Except ServerError Path :=
  match config.location with
  | .customCli =>
    match config.customCliPath with
    | some path => .ok path
    | none => .error .missingCustomCli
  | _ => .ok (world.surroundings.bundledCli world.files session.bundledCli)

/-- Sees to it that the process of a configuration runs, and no other. -/
def ensureCli (config : ServerConfig) (session : Session) (world : World) :
    Except ServerError Unit × Session × World :=
  if !config.location.spawnsCli then (.ok (), session.stopCli world)
  else
    match session.cliPath world config with
    | .error e => (.error e, session, world)
    | .ok path =>
      let launch : Launch := ⟨path, config.ip, config.port⟩
      if session.launched.any launch.same && session.isCliRunning world then
        (.ok (), session, world)
      else
        match session.startCli launch world with
        | (true, session, world) => (.ok (), session, world)
        | (false, session, world) => (.error (.cliStart path), session, world)

/-! ## 2. Connecting -/

/-- What is in effect. -/
def current (session : Session) : ServerCurrent :=
  ⟨session.channel.isConnected, session.applied⟩

/-- Lets the connection go and stops the process. -/
def disconnect (session : Session) (world : World) : Session × World :=
  if session.channel.address.isNone && session.launched.isNone && !session.cli.isOpen then
    (session, world)
  else
    let (session, world) := session.stopCli world
    ({ session with channel := session.channel.disconnect }, world)

/-- Connects and sends the bootstrap commands; the connection goes if one cannot be sent. -/
def connectChannel (config : ServerConfig) (session : Session) (world : World) :
    Except ServerError Unit × Session × World :=
  match session.channel.connect config.ip config.port world.network with
  | (.error e, channel, network) =>
    (.error (.channel e), { session with channel := channel }, { world with network := network })
  | (.ok (), channel, network) =>
    let texts := (session.bootstrap.commands world.files).map Command.line
    match channel.sendAll texts network with
    | (.ok (), network) =>
      (.ok (), { session with channel := channel, applied := some config },
        { world with network := network })
    | (.error e, network) =>
      (.error (.channel e), { session with channel := channel.disconnect },
        { world with network := network })

/-- Sets up a session; one that is connected with this configuration stays as it is, one that is
connected with another is taken down first. -/
def connect (config : ServerConfig) (session : Session) (world : World) :
    Except ServerError Unit × Session × World :=
  if session.channel.isConnected && session.current.applies config then (.ok (), session, world)
  else
    let (session, world) :=
      if session.channel.isConnected then session.disconnect world else (session, world)
    match session.ensureCli config world with
    | (.error e, session, world) => (.error e, session, world)
    | (.ok (), session, world) => session.connectChannel config world

/-! ## 3. Commands -/

/-- Sends a command. -/
def send (command : Command) (session : Session) (world : World) :
    Except ServerError Unit × World :=
  match session.channel.send command.line world.network with
  | (.ok (), network) => (.ok (), { world with network := network })
  | (.error e, network) => (.error (.channel e), { world with network := network })

/-- Sends commands until one fails. -/
def sendAll (commands : List Command) (session : Session) (world : World) :
    Except ServerError Unit × World :=
  match session.channel.sendAll (commands.map Command.line) world.network with
  | (.ok (), network) => (.ok (), { world with network := network })
  | (.error e, network) => (.error (.channel e), { world with network := network })

/-- Announces a preference that was stored, and asks for the builds that follow from it; nothing
while not connected. -/
def announce (command : Command) (session : Session) (world : World) :
    Except ServerError Unit × Session × World :=
  if !session.channel.isConnected then (.ok (), session, world)
  else
    let (result, world) := session.sendAll (command :: session.bootstrap.builds .updates) world
    (result, session, world)

/-- Stores and announces whether the executable is rebuilt on change. -/
def updateBuildOnChange (executable : Bool) (session : Session) (world : World) :
    Except ServerError Unit × Session × World :=
  let bootstrap := { session.bootstrap with buildExecutableOnChange := executable }
  { session with bootstrap := bootstrap }.announce bootstrap.onChange world

/-- Stores and announces the project directory. -/
def updateProjectDirectory (directory : Path) (session : Session) (world : World) :
    Except ServerError Unit × Session × World :=
  let bootstrap := { session.bootstrap with projectDirectory := directory }
  { session with bootstrap := bootstrap }.announce (bootstrap.directory world.files) world

end Session

end RenderSync
