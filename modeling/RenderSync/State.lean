import RenderSync.Files.Path
import RenderSync.Wire.ShaderSet

/-!
# Desired and current state

What the user wants in effect, and what is in effect.  A desired state is edited freely; a
current state is a snapshot of the library and of the server session.

The custom path of a server is remembered in every location but counts only where the server is
started from it: `ServerDesired.config` leaves it out elsewhere, and it is the effective
configuration that is compared and applied.  Paths are compared by `Path.same`.
-/

namespace RenderSync

/-! ## 1. Where the server comes from -/

/-- Where the build server comes from. -/
inductive ServerLocation where
  /-- The executable that belongs to the host. -/
  | builtInCli
  /-- An executable chosen by the user. -/
  | customCli
  /-- A server that someone else started; only the connection is managed. -/
  | external
deriving DecidableEq, Repr, Inhabited

namespace ServerLocation

/-- The name of a location. -/
def name : ServerLocation → String
  | builtInCli => "built-in-cli"
  | customCli => "custom-cli"
  | external => "external"

/-- Every location by its name. -/
def names : List (String × ServerLocation) :=
  [("built-in-cli", builtInCli), ("custom-cli", customCli), ("external", external)]

/-- Whether a process has to be started before connecting. -/
def spawnsCli : ServerLocation → Bool
  | external => false
  | _ => true

/-- A name as users write it, in small letters and with hyphens. -/
def normalise (text : String) : String :=
  String.ofList ((Text.lowerAscii text.toList).map fun c => if c = '_' then '-' else c)

/-- The location that a user names, or the message for a name that is none. -/
def parse (text : String) : Except String ServerLocation :=
  let name := normalise text
  if name = "built-in-cli" || name = "builtin" || name = "built-in" then .ok builtInCli
  else if name = "custom-cli" || name = "custom" then .ok customCli
  else if name = "external" then .ok external
  else .error ("unknown server location '" ++ name ++
    "'; expected: built-in-cli, custom-cli, external")

end ServerLocation

/-! ## 2. Server configurations -/

/-- The address used when nothing else is said. -/
def defaultIp : String := "127.0.0.1"

/-- The port used when nothing else is said. -/
def defaultPort : UInt16 := 5184

/-- What a session is set up with; a session lasts as long as it does not change. -/
structure ServerConfig where
  ip : String
  port : UInt16
  location : ServerLocation
  customCliPath : Option Path
deriving DecidableEq, Repr, Inhabited

namespace ServerConfig

/-- The configuration used when nothing else is said. -/
def default : ServerConfig := ⟨defaultIp, defaultPort, .builtInCli, none⟩

/-- An address and a port as they are shown. -/
def addressOf (ip : String) (port : UInt16) : String :=
  ip ++ ":" ++ String.ofList (Digits.ofNat port.toNat)

/-- The address to connect to. -/
def address (config : ServerConfig) : String := addressOf config.ip config.port

/-- Two configurations set up the same session. -/
def same (a b : ServerConfig) : Bool :=
  a.ip == b.ip && a.port == b.port && a.location == b.location &&
    Path.sameOption a.customCliPath b.customCliPath

@[simp] theorem same_refl (config : ServerConfig) : config.same config = true := by simp [same]

/-- A configuration as a value; a missing path is left out. -/
def toJson (config : ServerConfig) : Json :=
  .object ([("ip", .string config.ip), ("port", Json.nat config.port.toNat),
    ("location", .string config.location.name)] ++
    Json.presentField "custom_cli_path" (fun path => .string path.text) config.customCliPath)

/-- A path as a value. -/
def pathOfJson? (value : Json) : Option Path := (Json.string? value).map Path.mk

/-- The configuration that a value holds. -/
def ofJson? (value : Json) : Option ServerConfig := do
  match ← Json.record? [["ip"], ["port"], ["location"], ["custom_cli_path"]] value with
  | [ip, port, location, customCliPath] =>
    return ⟨← Json.required Json.string? ip, ← Json.required Json.word16? port,
      ← Json.required (Json.choice? ServerLocation.names false) location,
      ← Json.defaulted none (Json.optional? pathOfJson?) customCliPath⟩
  | _ => none

end ServerConfig

/-! ## 3. Desired state -/

/-- What is wanted of the library. -/
structure LibraryDesired where
  loaded : Bool
  path : Option Path
deriving DecidableEq, Repr, Inhabited

/-- What is wanted of the server. -/
structure ServerDesired where
  connected : Bool
  ip : String
  port : UInt16
  location : ServerLocation
  customCliPath : Option Path
deriving DecidableEq, Repr, Inhabited

/-- What the user wants in effect. -/
structure DesiredState where
  library : LibraryDesired
  server : ServerDesired
deriving DecidableEq, Repr, Inhabited

/-- The effective configuration: the custom path counts only where it is used. -/
def ServerDesired.config (desired : ServerDesired) : ServerConfig where
  ip := desired.ip
  port := desired.port
  location := desired.location
  customCliPath := match desired.location with
    | .customCli => desired.customCliPath
    | _ => none

namespace DesiredState

/-- Nothing loaded and nothing connected. -/
def default : DesiredState :=
  ⟨⟨false, none⟩, ⟨false, defaultIp, defaultPort, .builtInCli, none⟩⟩

/-- Two desired states ask for the same. -/
def same (a b : DesiredState) : Bool :=
  a.library.loaded == b.library.loaded && Path.sameOption a.library.path b.library.path &&
    a.server.connected == b.server.connected && a.server.ip == b.server.ip &&
    a.server.port == b.server.port && a.server.location == b.server.location &&
    Path.sameOption a.server.customCliPath b.server.customCliPath

/-- A desired state as a value. -/
def toJson (desired : DesiredState) : Json :=
  let path (p : Option Path) := Json.ofOption (fun p : Path => .string p.text) p
  .object
    [("library", .object
        [("loaded", .bool desired.library.loaded), ("path", path desired.library.path)]),
      ("server", .object
        [("connected", .bool desired.server.connected), ("ip", .string desired.server.ip),
          ("port", Json.nat desired.server.port.toNat),
          ("location", .string desired.server.location.name),
          ("custom_cli_path", path desired.server.customCliPath)])]

end DesiredState

/-! ## 4. Current state -/

/-- What is in effect of the library. -/
structure LibraryCurrent where
  loaded : Bool
  path : Option Path
deriving DecidableEq, Repr, Inhabited

/-- What is in effect of the library, as a value. -/
def LibraryCurrent.toJson (current : LibraryCurrent) : Json :=
  .object [("loaded", .bool current.loaded),
    ("path", Json.ofOption (fun path : Path => .string path.text) current.path)]

/-- What is in effect of the server: `applied` is the last configuration that was set up
completely; it is kept when the connection goes. -/
structure ServerCurrent where
  connected : Bool
  applied : Option ServerConfig
deriving DecidableEq, Repr, Inhabited

namespace ServerCurrent

/-- Whether `applied` is this configuration. -/
def applies (current : ServerCurrent) (config : ServerConfig) : Bool :=
  match current.applied with
  | some applied => applied.same config
  | none => false

/-- What is in effect of the server, as a value. -/
def toJson (current : ServerCurrent) : Json :=
  .object [("connected", .bool current.connected),
    ("applied", Json.ofOption ServerConfig.toJson current.applied)]

end ServerCurrent

/-- What is in effect. -/
structure CurrentState where
  library : LibraryCurrent
  server : ServerCurrent
deriving DecidableEq, Repr, Inhabited

namespace CurrentState

/-- Everything that can be observed is as desired. -/
def meets (current : CurrentState) (desired : DesiredState) : Bool :=
  current.library.loaded == desired.library.loaded &&
    Path.sameOption current.library.path desired.library.path &&
    current.server.connected == desired.server.connected &&
    (!current.server.connected || current.server.applies desired.server.config)

/-- A current state as a value. -/
def toJson (current : CurrentState) : Json :=
  .object [("library", current.library.toJson), ("server", current.server.toJson)]

end CurrentState

end RenderSync
