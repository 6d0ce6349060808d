import RenderSync.Text.Digits
import RenderSync.Text.Terminal

/-!
# Grammars of command lines

A grammar is a tree of commands.  A command takes options in any order, at most one operand, and
at the end one of its subcommands, if it has any.  Reading goes from left to right and stops at the
first fault; `--` ends the options.

An option with a value takes it from behind `=` or from the next argument, unless that one looks
like an option.  A value from the next argument is judged only when the next option is known or the
arguments have ended, so that an argument that nobody knows is the first fault.  `-h` and `--help`
ask for help at any command, the subcommand `help` asks for it from above, and `-V` and `--version`
are known to the whole program only.
-/

namespace RenderSync.CommandLine

/-- An option. -/
structure OptionRule where
  /-- The name, without the dashes. -/
  name : String
  /-- What its value is called; `none` for an option without a value. -/
  value : Option String
  /-- The value when the option is not given, for the help text. -/
  default : Option String
  about : String
  /-- What is wrong with a value; nothing to say means that there is none. -/
  fault : String → Option String

/-- An operand, which has to be given and must not be empty. -/
structure OperandRule where
  name : String
  about : String

/-- A command. -/
inductive Grammar where
  | command (name about : String) (options : List OptionRule) (operand : Option OperandRule)
    (subcommands : List Grammar)

namespace OptionRule

/-- An option without a value. -/
def flag (name about : String) : OptionRule := ⟨name, none, none, about, fun _ => none⟩

/-- The option with its value, as it is shown. -/
def shown (rule : OptionRule) : String :=
  "--" ++ rule.name ++ (rule.value.map fun value => " <" ++ value ++ ">").getD ""

/-- What help says about it. -/
def helpText (rule : OptionRule) : String :=
  let default := (rule.default.map fun value => "[default: " ++ value ++ "]").toList
  " ".intercalate ([rule.about].filter (· ≠ "") ++ default)

end OptionRule

namespace Grammar

/-- The word that calls it. -/
def name : Grammar → String | command name _ _ _ _ => name

/-- What it is for. -/
def about : Grammar → String | command _ about _ _ _ => about

/-- Its options. -/
def options : Grammar → List OptionRule | command _ _ options _ _ => options

/-- What stands there by its place. -/
def operand : Grammar → Option OperandRule | command _ _ _ operand _ => operand

/-- The commands below it. -/
def subcommands : Grammar → List Grammar | command _ _ _ _ subcommands => subcommands

/-- The option of a name. -/
def option? (grammar : Grammar) (name : String) : Option OptionRule :=
  grammar.options.find? (·.name == name)

/-- The subcommand of a name. -/
def subcommand? (grammar : Grammar) (name : String) : Option Grammar :=
  grammar.subcommands.find? (·.name == name)

/-! ## 1. Help -/

/-- Two columns, the second one aligned. -/
def columns (rows : List (String × String)) : String :=
  let width := (rows.map (·.1.length)).foldl max 0
  String.join (rows.map fun (left, right) =>
    "  " ++ left ++ String.ofList (List.replicate (width + 2 - left.length) ' ') ++ right ++ "\n")

/-- The rows of the subcommands. -/
def commandRows (grammar : Grammar) : List (String × String) :=
  grammar.subcommands.map (fun sub => (sub.name, sub.about)) ++
    [("help", "Print this message or the help of the given subcommand(s)")]

/-- The rows of the options. -/
def optionRows (grammar : Grammar) (isWhole : Bool) : List (String × String) :=
  grammar.options.map (fun rule => ("    " ++ rule.shown, rule.helpText)) ++
    [("-h, --help", "Print help")] ++
    if isWhole then [("-V, --version", "Print version")] else []

/-- How the command is used; `place` is the command with those above it. -/
def usage (grammar : Grammar) (place : List String) : String :=
  "Usage: " ++ " ".intercalate
    (place ++ (if grammar.options.isEmpty then [] else ["[OPTIONS]"]) ++
      (grammar.operand.map fun rule => "<" ++ rule.name ++ ">").toList ++
      if grammar.subcommands.isEmpty then [] else ["<COMMAND>"])

/-- The help text. -/
def help (grammar : Grammar) (place : List String) : String :=
  let part (title : String) (rows : List (String × String)) : String :=
    if rows.isEmpty then "" else "\n" ++ title ++ ":\n" ++ columns rows
  grammar.about ++ "\n\n" ++ grammar.usage place ++ "\n" ++
    (if grammar.subcommands.isEmpty then "" else part "Commands" grammar.commandRows) ++
    part "Arguments"
      (grammar.operand.map fun rule => ("<" ++ rule.name ++ ">", rule.about)).toList ++
    part "Options" (grammar.optionRows (place.length ≤ 1))

/-- The help about the subcommand `help` itself. -/
def helpAboutHelp (place : List String) : String :=
  "Print this message or the help of the given subcommand(s)\n\nUsage: " ++
    " ".intercalate place ++ " [COMMAND]...\n\nArguments:\n" ++
    columns [("[COMMAND]...", "Print help for the subcommand(s)")]

end Grammar

/-! ## 2. What was given -/

/-- What was given. -/
structure Given where
  /-- The commands, the whole program first. -/
  place : List String
  /-- Options by name, with their values. -/
  options : List (String × String)
  operand : Option String
deriving DecidableEq, Repr, Inhabited

/-- The value of an option. -/
def Given.value? (given : Given) (name : String) : Option String := given.options.lookup name

/-- Whether an option was given. -/
def Given.has (given : Given) (name : String) : Bool := (given.value? name).isSome

/-- Why there is nothing to do. -/
inductive Refusal where
  /-- Help was asked for. -/
  | help (text : String)
  | version
  /-- A command says nothing without a subcommand. -/
  | bare (help : String)
  /-- Something is wrong; how the command is used is said where that may help.  The message is
  written for a terminal. -/
  | fault (message : String) (usage : Option String)
deriving DecidableEq, Repr, Inhabited

/-- Something between quotes, set off from the message around it. -/
def quoted (text : String) : String := "'" ++ Terminal.marked text ++ "'"

/-- What was read last and is not settled yet: it is looked at when the next option is known, or
the arguments end, so that a fault further on may come first. -/
inductive Slot where
  /-- An option whose value is still to come. -/
  | awaiting (rule : OptionRule)
  | option (rule : OptionRule) (value : String)
  | operand (rule : OperandRule) (value : String)

/-- How far the arguments of one command were read. -/
structure Reading where
  given : Given
  slot : Option Slot
  /-- Behind `--`. -/
  operandsOnly : Bool

/-- The fault that a value is missing. -/
def valueMissing (shown : String) : Refusal :=
  .fault ("a value is required for " ++ quoted shown ++ " but none was supplied") none

namespace Grammar

/-- The fault with a message. -/
def refuse {α : Type} (grammar : Grammar) (given : Given) (message : String) : Except Refusal α :=
  .error (.fault message (some (grammar.usage given.place)))

/-- The fault that nothing like an argument is known. -/
def unexpected {α : Type} (grammar : Grammar) (given : Given) (argument : String) :
    Except Refusal α :=
  grammar.refuse given ("unexpected argument " ++ quoted argument ++ " found")

/-- Takes an option with its value. -/
def withOption (grammar : Grammar) (rule : OptionRule) (value : String) (given : Given) :
    Except Refusal Given :=
  if given.has rule.name then
    grammar.refuse given ("the argument " ++ quoted rule.shown ++ " cannot be used multiple times")
  else
    match rule.fault value with
    | some "" => .error (valueMissing rule.shown)
    | some text =>
      let message := "invalid value " ++ quoted value ++ " for " ++ quoted rule.shown
      .error (.fault (message ++ ": " ++ text) none)
    | none => .ok { given with options := given.options ++ [(rule.name, value)] }

/-- What was given, with that which was not settled yet. -/
def settle (grammar : Grammar) (reading : Reading) : Except Refusal Given :=
  match reading.slot with
  | none => .ok reading.given
  | some (.awaiting rule) => .error (valueMissing rule.shown)
  | some (.option rule value) => grammar.withOption rule value reading.given
  | some (.operand rule value) =>
    if value = "" then .error (valueMissing ("<" ++ rule.name ++ ">"))
    else .ok { reading.given with operand := some value }

/-- The end of the arguments: everything that has to be there is. -/
def close (grammar : Grammar) (given : Given) : Except Refusal Given :=
  if !grammar.subcommands.isEmpty then
    if given.options.isEmpty then .error (.bare (grammar.help given.place))
    else
      grammar.refuse given (quoted (" ".intercalate given.place) ++
        " requires a subcommand but one was not provided")
  else
    match grammar.operand, given.operand with
    | some rule, none =>
      grammar.refuse given
        ("the following required arguments were not provided:\n  " ++
          Terminal.marked ("<" ++ rule.name ++ ">"))
    | _, _ => .ok given

/-- The help that is asked for by the names of commands. -/
def helpFor (grammar : Grammar) (place : List String) : List String → Refusal
  | [] => .help (grammar.help place)
  | name :: rest =>
    match grammar.subcommand? name with
    | some sub => helpFor sub (place ++ [name]) rest
    | none =>
      let unknown (name : String) (usage : String) : Refusal :=
        .fault ("unrecognized subcommand " ++ quoted name) (some usage)
      if name = "help" && !grammar.subcommands.isEmpty then
        let place := place ++ ["help"]
        match rest with
        | [] => .help (helpAboutHelp place)
        | name :: _ => unknown name ("Usage: " ++ " ".intercalate place ++ " [COMMAND]...")
      else unknown name (grammar.usage place)

/-! ## 3. Reading -/

/-- An option that was given, cut at the first `=`. -/
def cutOption (body : List Char) : String × Option String :=
  match body.dropWhile (· ≠ '=') with
  | [] => (String.ofList body, none)
  | _ :: value => (String.ofList (body.takeWhile (· ≠ '=')), some (String.ofList value))

/-- Help or the version is asked for, unless something before it is wrong. -/
def asks (grammar : Grammar) (refusal : Refusal) (reading : Reading) : Except Refusal Reading :=
  match grammar.settle reading with
  | .error fault => .error fault
  | .ok _ => .error refusal

/-- Reads an option that starts with two dashes. -/
def readLong (grammar : Grammar) (body : List Char) (reading : Reading) :
    Except Refusal Reading :=
  let isWhole := reading.given.place.length = 1
  let (name, attached) := cutOption body
  let tooMuch (shown value : String) : Except Refusal Reading :=
    grammar.refuse reading.given ("unexpected value " ++ quoted value ++ " for " ++ quoted shown ++
      " found; no more were expected")
  if name = "help" || name = "version" && isWhole then
    match attached with
    | some value => tooMuch ("--" ++ name) value
    | none =>
      grammar.asks (if name = "help" then .help (grammar.help reading.given.place) else .version)
        reading
  else
    match grammar.option? name with
    | none => grammar.unexpected reading.given ("--" ++ name)
    | some rule =>
      match rule.value, attached with
      | none, some value => tooMuch rule.shown value
      | some _, none =>
        (grammar.settle reading).map fun given =>
          { reading with given, slot := some (.awaiting rule) }
      | _, _ => do
        let given ← grammar.withOption rule (attached.getD "") (← grammar.settle reading)
        return { reading with given, slot := none }

/-- Reads an option that starts with one dash; the first letter decides. -/
def readShort (grammar : Grammar) (letter : Char) (reading : Reading) : Except Refusal Reading :=
  if letter = 'h' then grammar.asks (.help (grammar.help reading.given.place)) reading
  else if letter = 'V' && reading.given.place.length = 1 then grammar.asks .version reading
  else grammar.unexpected reading.given (String.ofList ['-', letter])

/-- Reads an argument that is no option and no value. -/
def readPlain (grammar : Grammar) (argument : String) (reading : Reading) :
    Except Refusal Reading :=
  let isCommand := argument = "help" || (grammar.subcommand? argument).isSome
  match grammar.operand, reading.given.operand, reading.slot with
  | _, _, some (.operand _ _) | none, _, _ | _, some _, _ =>
    if grammar.subcommands.isEmpty || reading.operandsOnly && isCommand then
      grammar.unexpected reading.given argument
    else grammar.refuse reading.given ("unrecognized subcommand " ++ quoted argument)
  | some rule, none, _ =>
    (grammar.settle reading).map fun given =>
      { reading with given, slot := some (.operand rule argument) }

/-- Reads one argument that is no subcommand. -/
def readOne (grammar : Grammar) (argument : String) (reading : Reading) :
    Except Refusal Reading :=
  if reading.operandsOnly then grammar.readPlain argument reading
  else
    match argument.toList, reading.slot with
    | ['-', '-'], _ => .ok { reading with operandsOnly := true }
    | '-' :: '-' :: body, _ => grammar.readLong body reading
    | '-' :: letter :: _, _ => grammar.readShort letter reading
    | _, some (.awaiting rule) => .ok { reading with slot := some (.option rule argument) }
    | _, _ => grammar.readPlain argument reading

/-- A subcommand may come here. -/
def Reading.isBetween (reading : Reading) : Bool :=
  !reading.operandsOnly &&
    match reading.slot with
    | some (.awaiting _) => false
    | _ => true

/-- Reads the arguments of a command.  What a subcommand finds wrong comes before what is wrong
with the last option in front of it. -/
def read (grammar : Grammar) (reading : Reading) : List String → Except Refusal Given
  | [] => do grammar.close (← grammar.settle reading)
  | argument :: rest =>
    match if Reading.isBetween reading then grammar.subcommand? argument else none with
    | some sub => do
      let below ← read sub ⟨⟨reading.given.place ++ [argument], [], none⟩, none, false⟩ rest
      let given ← grammar.settle reading
      return { below with options := given.options ++ below.options }
    | none =>
      if Reading.isBetween reading && argument = "help" && !grammar.subcommands.isEmpty then
        .error (grammar.helpFor reading.given.place rest)
      else
        match grammar.readOne argument reading with
        | .error refusal => .error refusal
        | .ok reading => read grammar reading rest

/-- Reads a command line. -/
def parse (grammar : Grammar) (arguments : List String) : Except Refusal Given :=
  grammar.read ⟨⟨[grammar.name], [], none⟩, none, false⟩ arguments

end Grammar

end RenderSync.CommandLine
