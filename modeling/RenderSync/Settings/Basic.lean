import RenderSync.State

/-!
# Settings

The preferences of a user.  Every section and every field has a default, so that a settings file
need only hold what differs.  `Settings.applyTo` copies preferences into a desired state and
leaves the choice to load and to connect alone.
-/

namespace RenderSync

/-- Where the server is and how it is started. -/
structure ServerSettings where
  ip : String
  port : UInt16
  location : ServerLocation
  customCliPath : Option Path
  /-- Where the host's own executable is, if not in its usual place. -/
  bundledCliPath : Option Path
deriving DecidableEq, Repr, Inhabited

/-- What is built. -/
structure ProjectSettings where
  directory : Path
  buildExecutableOnChange : Bool
deriving DecidableEq, Repr, Inhabited

/-- The preferences of a user. -/
structure Settings where
  server : ServerSettings
  project : ProjectSettings
  /-- The library to load until the server reports a fresh one. -/
  libraryPath : Option Path
  /-- Lifetime of passing notifications, in seconds. -/
  notificationSeconds : UInt64
  /-- How often an unfinished pass is tried again, in milliseconds. -/
  retryMilliseconds : UInt64
deriving DecidableEq, Repr, Inhabited

namespace Settings

/-! ## 1. Defaults and use -/

/-- The section on the server when nothing is said. -/
def defaultServer : ServerSettings := ⟨defaultIp, defaultPort, .builtInCli, none, none⟩

/-- The section on the project when nothing is said. -/
def defaultProject : ProjectSettings := ⟨⟨"."⟩, false⟩

/-- The settings when nothing is said. -/
def default : Settings := ⟨defaultServer, defaultProject, none, 5, 1000⟩

/-- Copies the preferences into a desired state.  A custom path is taken only where it is used,
and the library path only by a state that has none: later on the server knows better. -/
def applyTo (settings : Settings) (desired : DesiredState) : DesiredState where
  library :=
    { desired.library with
      path := match desired.library.path with
        | none => settings.libraryPath
        | some path => some path }
  server :=
    { desired.server with
      ip := settings.server.ip
      port := settings.server.port
      location := settings.server.location
      customCliPath :=
        if settings.server.location = .customCli then settings.server.customCliPath
        else desired.server.customCliPath }

/-- Two settings say the same. -/
def same (a b : Settings) : Bool :=
  a.server.ip == b.server.ip && a.server.port == b.server.port &&
    a.server.location == b.server.location &&
    Path.sameOption a.server.customCliPath b.server.customCliPath &&
    Path.sameOption a.server.bundledCliPath b.server.bundledCliPath &&
    a.project.directory.same b.project.directory &&
    a.project.buildExecutableOnChange == b.project.buildExecutableOnChange &&
    Path.sameOption a.libraryPath b.libraryPath &&
    a.notificationSeconds == b.notificationSeconds &&
    a.retryMilliseconds == b.retryMilliseconds

/-! ## 2. JSON -/

/-- A path as a value. -/
def pathJson (path : Path) : Json := .string path.text

/-- The section on the server as a value; missing paths are left out. -/
def serverJson (server : ServerSettings) : Json :=
  .object ([("ip", .string server.ip), ("port", Json.nat server.port.toNat),
    ("location", .string server.location.name)] ++
    Json.presentField "custom_cli_path" pathJson server.customCliPath ++
    Json.presentField "bundled_cli_path" pathJson server.bundledCliPath)

/-- Settings as a value. -/
def toJson (settings : Settings) : Json :=
  .object
    [("server", serverJson settings.server),
      ("project", .object
        [("directory", pathJson settings.project.directory),
          ("build_executable_on_change", .bool settings.project.buildExecutableOnChange)]),
      ("library", .object (Json.presentField "path" pathJson settings.libraryPath)),
      ("notifications", .object
        [("duration_secs", Json.nat settings.notificationSeconds.toNat)]),
      ("reconcile", .object
        [("retry_interval_ms", Json.nat settings.retryMilliseconds.toNat)])]

/-- The section on the server that a value holds. -/
def serverOfJson? (value : Json) : Option ServerSettings := do
  let names := [["ip"], ["port"], ["location"], ["custom_cli_path"], ["bundled_cli_path"]]
  match ← Json.record? names value with
  | [ip, port, location, customCliPath, bundledCliPath] =>
    return ⟨← Json.defaulted defaultIp Json.string? ip,
      ← Json.defaulted defaultPort Json.word16? port,
      ← Json.defaulted .builtInCli (Json.choice? ServerLocation.names false) location,
      ← Json.defaulted none (Json.optional? ServerConfig.pathOfJson?) customCliPath,
      ← Json.defaulted none (Json.optional? ServerConfig.pathOfJson?) bundledCliPath⟩
  | _ => none

/-- The section on the project that a value holds. -/
def projectOfJson? (value : Json) : Option ProjectSettings := do
  match ← Json.record? [["directory"], ["build_executable_on_change"]] value with
  | [directory, executable] =>
    return ⟨← Json.defaulted defaultProject.directory ServerConfig.pathOfJson? directory,
      ← Json.defaulted false Json.bool? executable⟩
  | _ => none

/-- The only field of a section with one. -/
def soleField? {α : Type} (name : String) (default : α) (decode : Json → Option α)
    (value : Json) : Option α := do
  match ← Json.record? [[name]] value with
  | [field] => Json.defaulted default decode field
  | _ => none

/-- The settings that a value holds. -/
def ofJson? (value : Json) : Option Settings := do
  let names := [["server"], ["project"], ["library"], ["notifications"], ["reconcile"]]
  match ← Json.record? names value with
  | [server, project, library, notifications, reconcile] =>
    return ⟨← Json.defaulted defaultServer serverOfJson? server,
      ← Json.defaulted defaultProject projectOfJson? project,
      ← Json.defaulted none
          (soleField? "path" none (Json.optional? ServerConfig.pathOfJson?)) library,
      ← Json.defaulted 5 (soleField? "duration_secs" 5 Json.word64?) notifications,
      ← Json.defaulted 1000 (soleField? "retry_interval_ms" 1000 Json.word64?) reconcile⟩
  | _ => none

end Settings

end RenderSync
