import RenderSync.Process.Program
import RenderSync.Shell.System
import RenderSync.Shell.Utility

/-!
# Launching programs

A process becomes a program: it keeps its number, its descriptors and what it exports, and gets an
agenda.  `becomes` follows the interpreters of scripts; `launch` looks for a command the way the
shell does.
-/

namespace RenderSync.Shell

/-! ## 1. Becoming a program -/

namespace Process

/-- The process with nothing left of the program that it ran: only what is exported stays. -/
def cleared (process : Process) : Process :=
  { process.withoutTraps.withoutAside with
    bindings := process.bindings.filter fun entry => entry.2.exported
    functions := []
    options := []
    arguments := []
    documents := []
    frames := []
    agenda := []
    line := 0
    label := ""
    status := 0
    capturedStatus := 0
    background := none
    optionPlace := 0
    shell := process.number
    isRich := false
    features := []
    aliases := []
    calls := []
    outcomes := [0]
    places := [] }

/-- Ends at once with a complaint and a status. -/
def refusesWith (message : String) (status : Nat) (process : Process) : Process :=
  { process with
    agenda := [.emit 2 (process.name ++ ": " ++ message ++ "\n") process.name, .finish status] }

/-- Ends at once with a complaint. -/
def refuses (message : String) (process : Process) : Process :=
  process.refusesWith ((if process.isRich then "" else "0: ") ++ message) 2

/-- The letters of the options of the shell. -/
def optionLetters : List Char := "aefuxvnCbEhIilmVc".toList

/-- The options that go by a name. -/
def optionNames : List (String × Char) :=
  [("errexit", 'e'), ("noglob", 'f'), ("ignoreeof", 'I'), ("interactive", 'i'), ("monitor", 'm'),
    ("noexec", 'n'), ("stdin", 's'), ("xtrace", 'x'), ("verbose", 'v'), ("vi", 'V'), ("emacs", 'E'),
    ("noclobber", 'C'), ("allexport", 'a'), ("notify", 'b'), ("nounset", 'u')]

/-- The options of a rich shell that go by a name. -/
def richOptionNames : List (String × Char) :=
  [("allexport", 'a'), ("braceexpand", 'B'), ("errexit", 'e'), ("errtrace", 'E'),
    ("functrace", 'T'), ("hashall", 'h'), ("histexpand", 'H'), ("keyword", 'k'), ("monitor", 'm'),
    ("noclobber", 'C'), ("noexec", 'n'), ("noglob", 'f'), ("notify", 'b'), ("nounset", 'u'),
    ("onecmd", 't'), ("physical", 'P'), ("privileged", 'p'), ("verbose", 'v'), ("xtrace", 'x')]

/-- Features of a rich shell that are switched like options. -/
def richOptionFeatures : List String :=
  ["emacs", "history", "ignoreeof", "interactive-comments", "nolog", "pipefail", "posix", "vi"]

/-- The letters of the options of a rich shell. -/
def richOptionLetters : List Char := "abefhkmnptuvxBCEHPTcilrsD".toList

/-- Turns a feature on or off. -/
def setFeature (on : Bool) (name : String) (process : Process) : Process :=
  let others := process.features.filter (· ≠ name)
  { process with features := if on then name :: others else others }

/-- Turns an option on or off. -/
def setOption (on : Bool) (letter : Char) (process : Process) : Process :=
  let others := process.options.filter (· ≠ letter)
  { process with options := if on then others ++ [letter] else others }

/-- What the arguments of a shell ask for. -/
structure Wishes where
  process : Process
  /-- A script is given as an argument. -/
  given : Bool
  /-- The script comes from the input. -/
  typed : Bool
  operands : List String

/-- Turns an option on or off that goes by a name. -/
def setNamed (on : Bool) (name : String) (process : Process) : Except String Process :=
  let names := if process.isRich then richOptionNames else optionNames
  match names.lookup name with
  | some letter => .ok (process.setOption on letter)
  | none =>
    if process.isRich && richOptionFeatures.contains name then .ok (process.setFeature on name)
    else .error (if process.isRich then name ++ ": invalid option name"
      else "Illegal option " ++ (if on then "-o " else "+o ") ++ name)

/-- Turns on or off what the letters of a word say, of which some want the next words; those that
are left. -/
def takeLetters (on : Bool) (process : Process) : List Char → List String →
    Except String (Process × List String)
  | [], rest => .ok (process, rest)
  | 'o' :: letters, name :: rest => do
    takeLetters on (← process.setNamed on name) letters rest
  | 'O' :: letters, name :: rest =>
    if process.isRich then takeLetters on (process.setFeature on name) letters rest
    else .error ("Illegal option " ++ (if on then "-O" else "+O"))
  | c :: letters, rest =>
    let known := if process.isRich then richOptionLetters else optionLetters
    if c = 's' || known.contains c then
      let kept : Bool := c ≠ 's' && c ≠ 'l' && (c ≠ 'c' || process.isRich)
      takeLetters on (if kept then process.setOption on c else process) letters rest
    else
      let sign := if on then "-" else "+"
      .error (if process.isRich then sign ++ c.toString ++ ": invalid option"
        else "Illegal option " ++ sign ++ c.toString)

/-- Reads the options of the shell from its arguments; `fuel` bounds how many words are options. -/
def takeOptionsFuel : (fuel : Nat) → (given typed : Bool) → Process → List String →
    Except String Wishes
  | 0, given, typed, process, words => .ok ⟨process, given, typed, words⟩
  | _, given, typed, process, [] => .ok ⟨process, given, typed, []⟩
  | fuel + 1, given, typed, process, word :: rest =>
    match word.toList with
    | ['-'] | ['-', '-'] => .ok ⟨process, given, typed, rest⟩
    | '-' :: '-' :: name =>
      if process.isRich then
        match String.ofList name, rest with
        | "posix", rest => takeOptionsFuel fuel given typed (process.setFeature true "posix") rest
        | "rcfile", _ :: rest | "init-file", _ :: rest =>
          takeOptionsFuel fuel given typed process rest
        | _, rest => takeOptionsFuel fuel given typed process rest
      else .error "Illegal option --"
    | sign :: letter :: letters =>
      if sign = '-' || sign = '+' then do
        let letters := letter :: letters
        let (process, rest) ← takeLetters (sign = '-') process letters rest
        takeOptionsFuel fuel (given || letters.contains 'c') (typed || letters.contains 's')
          process rest
      else .ok ⟨process, given, typed, word :: rest⟩
    | _ => .ok ⟨process, given, typed, word :: rest⟩

/-- Reads the options of the shell from its arguments. -/
def takeOptions (process : Process) (words : List String) : Except String Wishes :=
  takeOptionsFuel (words.length + 1) false false process words

/-- Variables that a shell starts with. -/
def firstBindings (process : Process) : List (String × Variable) :=
  [("IFS", .ofText " \t\n"), ("OPTIND", .ofText "1"),
    ("PPID", .ofText (decimal (max 1 process.parent))), ("PS1", .ofText "# "),
    ("PS2", .ofText "> "), ("PS4", .ofText "+ "), ("PWD", (Variable.ofText process.here).handedOn)]

/-- Variables that a rich shell starts with. -/
def firstRichBindings (process : Process) : List (String × Variable) :=
  let level := ((process.lookup "SHLVL").bind fun text => Digits.toNat? 10 text.toList).getD 0
  let unless_ (name value : String) : List (String × Variable) :=
    if (process.lookup name).isSome then [] else [(name, .ofText value)]
  [("IFS", .ofText " \t\n"), ("OPTIND", .ofText "1"), ("OPTERR", .ofText "1"),
    ("PPID", ⟨.text (decimal (max 1 process.parent)), false, true, ['i']⟩),
    ("PS4", .ofText "+ "), ("PWD", (Variable.ofText process.here).handedOn),
    ("SHLVL", (Variable.ofText (decimal (level + 1))).handedOn), ("OSTYPE", .ofText "linux-gnu"),
    ("HOSTTYPE", .ofText "x86_64"), ("MACHTYPE", .ofText "x86_64-pc-linux-gnu"),
    ("SECONDS", .ofText "0"), ("_", .ofText process.name)] ++
    unless_ "PATH" "/usr/local/sbin:/usr/local/bin:/usr/sbin:/usr/bin:/sbin:/bin" ++
    unless_ "TERM" "dumb" ++ unless_ "SHELL" "/bin/bash" ++ unless_ "HOSTNAME" "localhost" ++
    (if (process.lookup "OLDPWD").isSome then [] else [("OLDPWD", ⟨.nothing, true, false, []⟩)])

/-- A shell that runs a script. -/
def running (script : String) (last : Bool) (process : Process) : Process :=
  { process with agenda := [.source (.start script.toList 1 []) ⟨false, last⟩] }

/-- A shell with arguments. -/
def asShell (rich : Bool) (files : FileTree) (arguments : List String) (process : Process) :
    Process :=
  let first := if rich then process.firstRichBindings else process.firstBindings
  let process := first.foldl (fun process (name, value) => process.bind name value) process
  let process := if rich then
      { process with isRich := true, options := ['h', 'B'], seed := process.number }
    else process
  match takeOptions process arguments with
  | .error message => process.refuses message
  | .ok wishes =>
    if wishes.given then
      match wishes.operands with
      | [] => process.refuses "-c requires an argument"
      | script :: rest =>
        { wishes.process.running script true with
          name := rest.headD process.name
          arguments := rest.tail }
    else
      match wishes.operands, wishes.typed with
      | file :: rest, false =>
        match files.read? (pathFrom process.here file) with
        | some bytes =>
          let script := Octets.ofBytes bytes
          { wishes.process.running script false with name := file, arguments := rest }
        | none =>
          if rich then process.refusesWith (file ++ ": No such file or directory") 127
          else process.refuses ("cannot open " ++ file ++ ": No such file")
      | operands, _ => { wishes.process with arguments := operands, agenda := [.typed []] }

/-- A program of the system with arguments. -/
def asProgram (files : FileTree) (program : String) (arguments : List String)
    (process : Process) : Process :=
  if program = "sh" || program = "dash" then process.asShell false files arguments
  else if program = "bash" || program = "rbash" then process.asShell true files arguments
  else { process with agenda := [.program (program :: arguments)] }

/-- The process when it has become what is at a path; `fuel` bounds how many interpreters have
interpreters themselves. -/
def becomes (files : FileTree) (name path : String) (arguments : List String)
    (process : Process) : (fuel : Nat) → Except LaunchFault Process
  | 0 => .error .plain
  | fuel + 1 =>
    match Program.find files (pathFrom process.here path) with
    | .system program => .ok ({ process.cleared with name }.asProgram files program arguments)
    | .script interpreter argument =>
      let interpreter := Octets.ofBytes interpreter
      process.becomes files interpreter interpreter
        ((argument.map Octets.ofBytes).toList ++ path :: arguments) fuel
    | .plain => .error .plain
    | .denied => .error .denied
    | .missing => .error .missing

/-- How many interpreters there may be between a script and a program. -/
def interpreterLimit : Nat := 6

/-! ## 2. Looking for a command -/

/-- The directories where commands are looked for if nothing says which. -/
def assumedPath : String := "/bin:/usr/bin"

/-- The directories where commands are looked for; `assumes` says that there are some in any
case. -/
def searchPath (assumes : Bool) (process : Process) : List String :=
  match process.lookup "PATH" with
  | some text => (Text.splitAt ':' text.toList).map String.ofList
  | none => if assumes then (Text.splitAt ':' assumedPath.toList).map String.ofList else [""]

/-- The paths that a command may stand for. -/
def candidates (assumes : Bool) (name : String) (process : Process) : List String :=
  if name.toList.contains '/' then [name]
  else (process.searchPath assumes).map fun directory =>
    if directory = "" then "./" ++ name else directory ++ "/" ++ name

/-- The process with its variables as a rich shell hands them on to what is at a path. -/
def arranged (path : String) (process : Process) : Process :=
  let others := process.bindings.filter (·.1 ≠ "_")
  { process with
    bindings := (others.mergeSort fun a b => Content.rowOf a.1 ≤ Content.rowOf b.1) ++
      [("_", (Variable.ofText path).handedOn)] }

/-- The process when it has become the first of some paths that is a program.  A file that does
not say how to run it is a script of a shell. -/
def launchAmong (files : FileTree) (shell name : String) (arguments : List String)
    (process : Process) (fault : LaunchFault) : List String → Except LaunchFault Process
  | [] => .error fault
  | path :: rest =>
    let process := if process.isRich then process.arranged path else process
    match process.becomes files name path arguments interpreterLimit with
    | .ok launched => .ok launched
    | .error .plain =>
      .ok ({ process.cleared with name }.asProgram files shell (path :: arguments))
    | .error .missing => launchAmong files shell name arguments process fault rest
    | .error .denied => launchAmong files shell name arguments process .denied rest

/-- The process when it has become what a command stands for. -/
def launch (files : FileTree) (assumes : Bool) (name : String) (arguments : List String)
    (process : Process) : Except LaunchFault Process :=
  let shell := if process.isRich && !assumes then "bash" else "sh"
  process.launchAmong files shell name arguments .missing (process.candidates assumes name)

/-- The path of the program that a command stands for. -/
def programPath? (files : FileTree) (name : String) (process : Process) : Option String :=
  (process.candidates false name).find? fun path =>
    Program.isExecutable files (pathFrom process.here path)

end Process

/-! ## 3. Children -/

namespace Turn

/-- Forgets the first child that has ended and that the process has asked for. -/
def forgetNoted (turn : Turn) : Turn :=
  match turn.processes.find? fun process => process.isNoted && process.parent = turn.me.number with
  | some noted =>
    { turn with processes := turn.processes.filter (·.number != noted.number) }
  | none => turn

/-- Makes a copy of the process with an agenda and with some change; its number. -/
def fork (agenda : List Task) (change : Process → Process) (turn : Turn) : Nat × Turn :=
  let turn := turn.forgetNoted
  let child := change
    { turn.me.withoutTraps with
      number := turn.next
      parent := turn.me.number
      wakeAt := none
      paused := false
      held := []
      job := none
      agenda := if turn.me.knocks = [] then agenda else .meet :: agenda }
  (turn.next, { turn with next := turn.next + 1, processes := turn.processes ++ [child] })

/-- Puts a program in the place of the shell; a command that cannot be launched ends it. -/
def execute (fields : List String) (turn : Turn) : Turn :=
  match fields with
  | [] => turn
  | name :: arguments =>
    match turn.me.launch turn.files false name arguments with
    | .ok me => { turn with me }
    | .error fault =>
      let isPath := name.toList.contains '/'
      let problem :=
        if turn.me.isRich && isPath && turn.files.isDirectory (pathFrom turn.me.here name) then
          "Is a directory"
        else if fault ≠ .missing || turn.me.isRich && isPath then fault.problem
        else if turn.me.isRich && turn.me.label = "" then "command not found"
        else "not found"
      (turn.complain (name ++ ": " ++ problem)).mine fun me =>
        { me with agenda := [.exit fault.status] }

end Turn

end RenderSync.Shell
