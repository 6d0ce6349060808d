import RenderSync.Reconciler.Basic

/-!
# Rehearsal

A library and a server that do nothing but keep a record of what they are asked, and that fail
as told.  They obey the same contract as the real ones as far as a pass can see, and they show
what a pass asks for, and in which order.
-/

namespace RenderSync

/-- How the library takes a new path. -/
inductive SetPathMode where
  | accepts
  /-- Refuses and stays as it is. -/
  | refuses
  /-- Takes the path, but loses the library. -/
  | loses
deriving DecidableEq, Repr, Inhabited

/-- Every mode by its name. -/
def SetPathMode.names : List (String × SetPathMode) :=
  [("ok", accepts), ("fail", refuses), ("fail_record", loses)]

/-- How the server takes a connection. -/
inductive ConnectMode where
  | accepts
  | refused
  | notConnected
  | alreadyConnected
  | missingCli
  | cliStart
deriving DecidableEq, Repr, Inhabited

/-- Every mode by its name. -/
def ConnectMode.names : List (String × ConnectMode) :=
  [("ok", accepts), ("refuse", refused), ("not_connected", notConnected),
    ("already", alreadyConnected), ("missing_cli", missingCli), ("cli_start", cliStart)]

/-- The failure of a mode. -/
def ConnectMode.error? (mode : ConnectMode) (config : ServerConfig) : Option ServerError :=
  match mode with
  | accepts => none
  | refused => some (.channel (.refused config.address))
  | notConnected => some (.channel .notConnected)
  | alreadyConnected => some (.channel (.alreadyConnected config.address))
  | missingCli => some .missingCustomCli
  | cliStart => some (.cliStart (config.customCliPath.getD ⟨""⟩))

/-- A recorded library and server. -/
structure Rehearsal where
  current : CurrentState
  /-- What was asked, oldest first. -/
  log : List String
  loads : Bool
  unloads : Bool
  setPathMode : SetPathMode
  connectMode : ConnectMode
deriving Repr, Inhabited

namespace Rehearsal

/-- Nothing is loaded or connected, and everything will succeed. -/
def start : Rehearsal := ⟨⟨⟨false, none⟩, ⟨false, none⟩⟩, [], true, true, .accepts, .accepts⟩

/-- Adds to the record. -/
def note (rehearsal : Rehearsal) (text : String) : Rehearsal :=
  { rehearsal with log := rehearsal.log ++ [text] }

/-- Changes the state of the library. -/
def withLibrary (rehearsal : Rehearsal) (library : LibraryCurrent) : Rehearsal :=
  { rehearsal with current := { rehearsal.current with library := library } }

/-- Changes the state of the server. -/
def withServer (rehearsal : Rehearsal) (server : ServerCurrent) : Rehearsal :=
  { rehearsal with current := { rehearsal.current with server := server } }

/-- Points the library somewhere. -/
def setPath (path : Option Path) (rehearsal : Rehearsal) : Bool × Rehearsal :=
  let library := rehearsal.current.library
  let noted := rehearsal.note ("set_path " ++ (path.map Path.text).getD "-")
  match rehearsal.setPathMode with
  | .accepts => (true, noted.withLibrary { library with path := path })
  | .refuses => (false, noted)
  | .loses => (false, noted.withLibrary ⟨false, path⟩)

/-- Loads the library. -/
def load (rehearsal : Rehearsal) : Bool × Rehearsal :=
  let noted := rehearsal.note "load"
  if rehearsal.loads then
    (true, noted.withLibrary { rehearsal.current.library with loaded := true })
  else (false, noted)

/-- Unloads the library. -/
def unload (rehearsal : Rehearsal) : Bool × Rehearsal :=
  let noted := rehearsal.note "unload"
  if rehearsal.unloads then
    (true, noted.withLibrary { rehearsal.current.library with loaded := false })
  else (false, noted)

/-- Connects. -/
def connect (config : ServerConfig) (rehearsal : Rehearsal) :
    Except ServerError Unit × Rehearsal :=
  let noted := rehearsal.note ("connect " ++ config.address ++ " " ++ config.location.name)
  match rehearsal.connectMode.error? config with
  | none => (.ok (), noted.withServer ⟨true, some config⟩)
  | some error => (.error error, noted)

/-- Disconnects. -/
def disconnect (rehearsal : Rehearsal) : Rehearsal :=
  let server := rehearsal.current.server
  (rehearsal.note (if server.connected then "disconnect" else "disconnect (idle)")).withServer
    { server with connected := false }

/-- The connection is lost. -/
def loseConnection (rehearsal : Rehearsal) : Rehearsal :=
  rehearsal.withServer { rehearsal.current.server with connected := false }

/-- The operations that a pass uses. -/
def controls : ResourceControls Rehearsal where
  library rehearsal := rehearsal.current.library
  setPath := setPath
  load := load
  unload := unload
  server rehearsal := rehearsal.current.server
  connect := connect
  disconnect := disconnect

end Rehearsal

end RenderSync
