import RenderSync.CommandLine.Invocation
import RenderSync.Engine.Handlers
import RenderSync.Json.Printer
import RenderSync.Settings.Store

/-!
# What an invocation does

An invocation changes the world, prints something and ends with a code: 0 where all went well, 1
after a failure, 2 when it was not understood.  What is written about faults is written for a
terminal, and told to whoever listens without what is only for terminals.
-/

namespace RenderSync.CommandLine

/-- How an invocation ended. -/
structure Outcome where
  code : Nat
  output : String
  errors : String
  world : World
  /-- How many seconds to go on listening. -/
  listens : Nat
deriving Inhabited

namespace Outcome

/-- It went well. -/
def success (output : String) (world : World) : Outcome := ⟨0, output, "", world, 0⟩

/-- It failed. -/
def failure (message : String) (world : World) : Outcome :=
  ⟨1, "", "Error: " ++ message ++ "\n", world, 0⟩

/-- It was not understood, or asked for help only. -/
def ofRefusal (refusal : Refusal) (world : World) : Outcome :=
  match refusal with
  | .help text => success text world
  | .version => success (programName ++ " " ++ version ++ "\n") world
  | .bare help => ⟨2, "", help, world, 0⟩
  | .fault message usage =>
    let told := Terminal.marked "error:" ++ " " ++ message ++ "\n\n" ++
      (usage.map (· ++ "\n\n")).getD "" ++ "For more information, try " ++ quoted "--help" ++ ".\n"
    ⟨2, "", Terminal.plain told, world, 0⟩

/-- Nobody says where the home directory is. -/
def homeless (world : World) : Outcome :=
  failure "could not determine home directory" world

end Outcome

/-! ## 1. Settings -/

/-- What is done about the settings below a home directory. -/
def manageSettings (action : SettingsAction) (home : Path) (world : World) : Outcome :=
  let file := Settings.fileIn home
  match action with
  | .locate => .success (file.text ++ "\n") world
  | .present json =>
    match Settings.loadIn world.files home with
    | .error _ => .failure "failed to load settings" world
    | .ok settings =>
      .success
        (if json then settings.toJson.renderIndented ++ "\n"
          else String.ofList settings.toDocument) world
  | .create =>
    let word := if world.files.contains file then "exists " else "created "
    match Settings.initIn world.files home with
    | (.error _, files) => .failure "failed to initialise settings" { world with files }
    | (.ok _, files) => .success (word ++ file.text ++ "\n") { world with files }

/-! ## 2. Sending -/

/-- Connects, sends one command and listens for a while. -/
def sendCommand (options : SendOptions) (home : Path) (world : World) : Outcome :=
  match Settings.loadIn world.files home with
  | .error _ => .failure "failed to load settings" world
  | .ok settings =>
    let ip := options.ip.getD settings.server.ip
    let port := options.port.getD settings.server.port
    match Channel.idle.connect ip port world.network with
    | (.error _, _, network) =>
      .failure ("failed to connect to " ++ ServerConfig.addressOf ip port) { world with network }
    | (.ok (), channel, network) =>
      match channel.send options.command.line network with
      | (.error _, network) =>
        .failure ("failed to send " ++ options.command.name) { world with network }
      | (.ok (), network) =>
        { Outcome.success ("sent " ++ options.command.name ++ "\n") { world with network } with
          listens := options.seconds }

end RenderSync.CommandLine
