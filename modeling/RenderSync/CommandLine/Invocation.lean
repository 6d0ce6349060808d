import RenderSync.CommandLine.Grammar
import RenderSync.Files.Path
import RenderSync.Text.Blank
import RenderSync.Wire.Command

/-!
# Invocations

What the program can be asked to do, and the grammar in which it is asked.  Names of targets,
modes and outputs are taken in letters of either case, some of them also shortened.
-/

namespace RenderSync.CommandLine

/-! ## 1. Values -/

/-- A word in small letters. -/
def lower (word : String) : String := String.ofList (Text.lowerAscii word.toList)

/-- The targets by all their names. -/
def targets : List (String × BuildTarget) :=
  [("library", .library), ("lib", .library), ("executable", .executable), ("exe", .executable)]

/-- The modes by their names. -/
def modes : List (String × BuildMode) := [("full", .full), ("updates", .updates)]

/-- The outputs by all their names. -/
def outputs : List (String × ExportOutput) :=
  [("directory", .directory), ("dir", .directory), ("7z", .sevenZip), ("zip", .zip)]

/-- What is wrong with a word that has to be one of some names. -/
def choiceFault {α : Type} (names : List (String × α)) (kind expected : String) (word : String) :
    Option String :=
  match names.lookup (lower word) with
  | some _ => none
  | none => some ("unknown " ++ kind ++ " '" ++ lower word ++ "'; expected: " ++ expected)

/-- What is wrong with a path. -/
def pathFault (word : String) : Option String := if word = "" then some "" else none

/-- An integer as it may be written: a sign where it is allowed, and digits. -/
def integer? (signs : List Char) (word : String) : Except String Int :=
  let (negative, digits) := match word.toList with
    | '+' :: digits => (false, digits)
    | '-' :: digits => if signs.contains '-' then (true, digits) else (false, '-' :: digits)
    | digits => (false, digits)
  if word = "" then .error "cannot parse integer from empty string"
  else if digits.isEmpty || !digits.all Digits.isDecimal then .error "invalid digit found in string"
  else .ok (if negative then -Int.ofNat (Digits.toNat digits) else Int.ofNat (Digits.toNat digits))

/-- What is wrong with a port. -/
def portFault (word : String) : Option String :=
  match integer? ['-'] word with
  | .error text => some text
  | .ok n =>
    if n < -9223372036854775808 then some "number too small to fit in target type"
    else if 9223372036854775808 ≤ n then some "number too large to fit in target type"
    else if n < 0 || 65536 ≤ n then
      some (String.ofList (Digits.ofInt n) ++ " is not in 0..=65535")
    else none

/-- What is wrong with a number of seconds. -/
def secondsFault (word : String) : Option String :=
  match integer? [] word with
  | .error text => some text
  | .ok n =>
    if 18446744073709551616 ≤ n then some "number too large to fit in target type" else none

/-- A number that nothing is wrong with. -/
def number (word : String) : Nat :=
  match integer? ['-'] word with
  | .ok n => n.toNat
  | .error _ => 0

/-! ## 2. Grammar -/

/-- An option that may have any value. -/
def textOption (name value about : String) (default : Option String) : OptionRule :=
  ⟨name, some value, default, about, fun _ => none⟩

/-- `run`. -/
def runGrammar : Grammar :=
  .command "run" "Load the library, connect to the build server and follow settings changes"
    [⟨"settings", some "SETTINGS", none,
        "Settings file to use instead of ~/.shiba/settings.yaml", pathFault⟩,
      .flag "no-connect" "Leave the build server disconnected",
      .flag "no-load" "Leave the library unloaded",
      .flag "once" "Run one pass, print the resulting state as JSON and exit"]
    none []

/-- `settings`. -/
def settingsGrammar : Grammar :=
  .command "settings" "Manage the settings file" [] none
    [.command "init" "Write default settings unless the file already exists" [] none [],
      .command "show" "Print the effective settings"
        [.flag "json" "Emit JSON instead of YAML"] none [],
      .command "path" "Print where the settings file lives" [] none []]

/-- `send`. -/
def sendGrammar : Grammar :=
  .command "send" "Send one command to a running build server and print its events"
    [textOption "ip" "IP" "Server address; defaults to the one in the settings file" none,
      ⟨"port", some "PORT", none, "Server port; defaults to the one in the settings file",
        portFault⟩,
      ⟨"wait-secs", some "WAIT_SECS", some "5", "How long to print incoming events after sending",
        secondsFault⟩]
    none
    [.command "build" "Request a build"
        [⟨"mode", some "MODE", some "full", "", choiceFault modes "build mode" "full, updates"⟩,
          ⟨"target", some "TARGET", some "library", "",
            choiceFault targets "build target" "library, executable"⟩]
        none [],
      .command "export" "Export the project"
        [⟨"output", some "OUTPUT", some "zip", "",
            choiceFault outputs "export output" "directory, 7z, zip"⟩,
          textOption "target" "TARGET" "Passed to the server unchanged" (some "executable")]
        (some ⟨"DIRECTORY", ""⟩) [],
      .command "run" "Run the built executable" [] none []]

/-- The name of the program. -/
def programName : String := "shiba-host"

/-- The version of the program. -/
def version : String := "0.1.0"

/-- The whole command line. -/
def grammar : Grammar :=
  .command programName "Keep a hot-reloaded render library and its build server in sync" [] none
    [runGrammar, settingsGrammar, sendGrammar]

/-! ## 3. Invocations -/

/-- How to run. -/
structure RunOptions where
  settings : Option Path
  connects : Bool
  loads : Bool
  once : Bool
deriving DecidableEq, Repr, Inhabited

/-- What to do about the settings file. -/
inductive SettingsAction where
  | create
  | present (json : Bool)
  | locate
deriving DecidableEq, Repr, Inhabited

/-- What to send, and where to. -/
structure SendOptions where
  ip : Option String
  port : Option UInt16
  /-- How long to listen afterwards. -/
  seconds : Nat
  command : Command
deriving DecidableEq, Repr, Inhabited

/-- What the program is asked to do. -/
inductive Invocation where
  | run (options : RunOptions)
  | settings (action : SettingsAction)
  | send (options : SendOptions)
deriving DecidableEq, Repr, Inhabited

/-- One of the named values that an option chooses. -/
def Given.choice {α : Type} (given : Given) (option : String) (names : List (String × α))
    (default : α) : α :=
  ((given.value? option).bind fun word => names.lookup (lower word)).getD default

/-- The command to send. -/
def commandOf (given : Given) (name : String) : Command :=
  if name = "build" then
    .build (given.choice "mode" modes .full) (given.choice "target" targets .library)
  else if name = "export" then
    .exportProject (given.operand.getD "") (given.choice "output" outputs .zip)
      ((given.value? "target").getD "executable")
  else .run

/-- What was asked for. -/
def invocationOf (given : Given) : Invocation :=
  match given.place with
  | [_, "settings", "init"] => .settings .create
  | [_, "settings", "show"] => .settings (.present (given.has "json"))
  | [_, "settings", _] => .settings .locate
  | [_, "send", name] =>
    .send ⟨given.value? "ip", (given.value? "port").map fun word => (number word).toUInt16,
      ((given.value? "wait-secs").map number).getD 5, commandOf given name⟩
  | _ =>
    .run ⟨(given.value? "settings").map Path.mk, !given.has "no-connect", !given.has "no-load",
      given.has "once"⟩

/-- The invocation that arguments stand for. -/
def parse (arguments : List String) : Except Refusal Invocation :=
  (grammar.parse arguments).map invocationOf

end RenderSync.CommandLine
