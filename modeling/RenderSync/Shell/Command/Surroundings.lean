import RenderSync.Shell.Command.Basic

/-!
# Commands for what is around

Commands that print, decide, move to another directory, or say what a command is.
-/

namespace RenderSync.Shell.Command

/-! ## 1. Printing and deciding -/

/-- Prints words. -/
def echo : Command := fun words turn =>
  prints "echo" (String.ofList
    (if turn.me.isRich then Format.echoWithOptions words else Format.echo words)) turn

/-- What a rich shell knows of formats. -/
def richStyle : Format.Style := ⟨true, true, true, some Quoting.brief⟩

/-- A complaint about a format in the words of a rich shell. -/
def richComplaint : Format.Complaint → String
  | .notNumeric text | .partly text => text ++ ": invalid number"
  | .outOfRange text => text ++ ": Numerical result out of range"
  | .unknown directive =>
    "\x60" ++ String.ofList (directive.toList.reverse.take 1) ++ "': invalid format character"
  | .unfinished directive => "\x60" ++ directive ++ "': missing format character"

/-- Prints by a format; a rich shell may be told a variable for the text. -/
def printf : Command := fun arguments turn =>
  let isRich := turn.me.isRich
  let (holder, arguments) : Option String × List String := match isRich, arguments with
    | true, "-v" :: name :: rest => (some name, rest)
    | _, arguments => (none, arguments)
  withLetters "" arguments fun _ arguments =>
    match arguments with
    | [] => .refused 2 (if isRich then "usage: printf [-v var] format [arguments]"
        else "usage: printf format [arg ...]")
    | format :: arguments =>
      let printing := if isRich then Format.printedWith richStyle format arguments
        else Format.printed format arguments
      let message (complaint : Format.Complaint) : String :=
        if isRich then richComplaint complaint else complaint.message
      let turn := printing.complaints.foldl (fun turn complaint =>
        turn.complainAs "printf: " (message complaint)) turn
      let (status, turn) := match printing.failure with
        | some complaint =>
          (if isRich then 1 else 2, turn.complainAs "printf: " (message complaint))
        | none => (if printing.complaints = [] then 0 else 1, turn)
      let text := String.ofList printing.output
      match holder with
      | some name =>
        let (name, key) := Process.withKey name
        withValue (turn.me.store name key false text) fun me =>
          .done ({ turn with me }.withStatus status)
      | none =>
        .done ((turn.withStatus status).plan (if text = "" then [] else [.emit 1 text "printf"]))

/-- Decides a condition; `bracket` says that it ends with a closing one. -/
def test (bracket : Bool) : Command := fun arguments turn =>
  if bracket && arguments.getLast? ≠ some "]" then
    .refused 2 (if turn.me.isRich then "missing \x60]'" else "missing ]")
  else
    let words := if bracket then arguments.dropLast else arguments
    match Condition.holds (view turn.me turn.files) words with
    | .ok holds => .done (turn.succeeded holds)
    | .error message => .refused 2 message

/-! ## 2. Directories -/

/-- Shows where the shell is. -/
def pwd : Command := fun _ turn => prints "pwd" (turn.me.here ++ "\n") turn

/-- Moves to another directory; a dash stands for the one before. -/
def cd : Command := fun arguments turn =>
  withLetters (if turn.me.isRich then "LPe@" else "LP") arguments fun _ words =>
    if turn.me.isRich && words.length > 1 then .fault "too many arguments"
    else if turn.me.isRich && words = [] && (turn.me.lookup "HOME").isNone then
      .fault "HOME not set"
    else
    let back := words.head? = some "-"
    let target := match words with
      | [] => (turn.me.lookup "HOME").getD ""
      | word :: _ => if back then (turn.me.lookup "OLDPWD").getD "" else word
    let path := pathFrom turn.me.here (if target = "" then "." else target)
    let refused : Answer := .fault (if turn.me.isRich then
        target ++ ": " ++ (if turn.files.contains path then PathTrouble.notDirectory
          else turn.files.trouble path).message
      else "can't cd to " ++ target)
    if !turn.files.isDirectory path then refused
    else
      match turn.files.canonical? path with
      | none => refused
      | some path =>
        let here := Octets.ofString path.text
        let moved := turn.mine fun me =>
          ({ me with here }.bind "OLDPWD" (Variable.ofText me.here).handedOn).bind "PWD"
            (Variable.ofText here).handedOn
        if back then prints "cd" (here ++ "\n") moved else .done (moved.withStatus 0)

/-- The directories that were put aside, behind the one where the shell is. -/
def shownPlaces (me : Process) : String :=
  let home := me.lookup "HOME"
  let brief (path : String) : String :=
    match home with
    | some home =>
      if path = home then "~"
      else if home ≠ "" && (home ++ "/").toList.isPrefixOf path.toList then
        "~" ++ String.ofList (path.toList.drop home.length)
      else path
    | none => path
  " ".intercalate ((me.here :: me.places).map brief) ++ "\n"

/-- Shows the directories that were put aside. -/
def dirs : Command := fun arguments turn =>
  match arguments with
  | "-c" :: _ => .done ((turn.withStatus 0).mine fun me => { me with places := [] })
  | _ => prints "dirs" (shownPlaces turn.me) turn

/-- Moves to another directory and puts aside the one before. -/
def pushd : Command := fun arguments turn =>
  let move (target : String) (places : List String) : Answer :=
    match cd [target] turn with
    | .done turn =>
      let turn := turn.mine fun me => { me with places }
      prints "pushd" (shownPlaces turn.me) turn
    | answer => answer
  match arguments, turn.me.places with
  | [], [] => .fault "no other directory"
  | [], place :: rest => move place (turn.me.here :: rest)
  | target :: _, places => move target (turn.me.here :: places)

/-- Moves back to the directory that was put aside last. -/
def popd : Command := fun _ turn =>
  match turn.me.places with
  | [] => .fault "directory stack empty"
  | place :: rest =>
    match cd [place] turn with
    | .done turn =>
      let turn := turn.mine fun me => { me with places := rest }
      prints "popd" (shownPlaces turn.me) turn
    | answer => answer

/-! ## 3. Commands -/

/-- Commands of the shell that a function may take the name of. -/
def ordinaryNames : List String :=
  ["[", "alias", "bg", "cd", "command", "echo", "false", "fg", "getopts", "hash", "jobs", "kill",
    "printf", "pwd", "read", "test", "true", "type", "ulimit", "umask", "unalias", "wait"]

/-- Commands that only a rich shell has. -/
def richNames : List String :=
  ["bind", "builtin", "caller", "compgen", "complete", "compopt", "declare", "dirs", "disown",
    "enable", "fc", "help", "history", "let", "logout", "mapfile", "popd", "pushd", "readarray",
    "shopt", "source", "suspend", "typeset"]

/-- A command of the shell itself that is no special one. -/
def isOrdinary (isRich : Bool) (name : String) : Bool :=
  ordinaryNames.contains name || isRich && (richNames.contains name || specialNames.contains name)

/-- A special command; a rich shell has none. -/
def isSpecial (isRich : Bool) (name : String) : Bool := !isRich && specialNames.contains name

/-- What a command is. -/
inductive Kind where
  | alias_ (text : String)
  | keyword
  | function
  | special
  | ordinary
  | program (path : String)
  | unknown

/-- What a name stands for. -/
def kindOf (name : String) (turn : Turn) : Kind :=
  let isRich := turn.me.isRich
  match turn.me.manner.aliases.lookup name with
  | some text => .alias_ text
  | none =>
    if (if isRich then richKeywords else keywords).contains name then .keyword
    else if isSpecial isRich name then .special
    else if (turn.me.functions.lookup name).isSome then .function
    else if isOrdinary isRich name then .ordinary
    else
      match turn.me.programPath? turn.files name with
      | some path => .program path
      | none => .unknown

/-- Says what names stand for; `brief` in one word each. -/
def describe (brief : Bool) (names : List String) (turn : Turn) : Answer :=
  let line (name : String) : String × Bool :=
    let found (long : String) (short : String) : String × Bool :=
      (if brief then short ++ "\n" else name ++ " is " ++ long ++ "\n", true)
    match kindOf name turn with
    | .alias_ text =>
      if turn.me.isRich then found ("aliased to \x60" ++ text ++ "'")
        ("alias " ++ name ++ "=" ++ Quoting.single text)
      else found ("an alias for " ++ text) ("alias " ++ name ++ "=" ++ quoted text)
    | .keyword => found "a shell keyword" name
    | .function => found (if turn.me.isRich then "a function" else "a shell function") name
    | .special => found "a special shell builtin" name
    | .ordinary => found "a shell builtin" name
    | .program path => found path path
    | .unknown => (if brief || turn.me.isRich then "" else name ++ ": not found\n", false)
  let lines := names.map line
  let missing := (names.zip lines).filter fun entry => !entry.2.2
  let told := if turn.me.isRich && !brief then
      missing.foldl (fun turn entry => turn.complainAs "type: " (entry.1 ++ ": not found")) turn
    else turn
  match prints "type" (String.join (lines.map Prod.fst)) told with
  | .done turn =>
    .done (turn.withStatus (if lines.all Prod.snd then 0 else if turn.me.isRich then 1 else 127))
  | answer => answer

/-- Says what names stand for; in a rich shell options choose what is said. -/
def type : Command := fun arguments turn =>
  let (options, names) := arguments.span fun word =>
    word.length > 1 && word.toList.head? = some '-'
  let letters := options.flatMap fun word => word.toList.drop 1
  if !turn.me.isRich || letters = [] then describe false arguments turn
  else
    let word (name : String) : Option String :=
      match kindOf name turn with
      | .alias_ _ => some "alias"
      | .keyword => some "keyword"
      | .function => some "function"
      | .special | .ordinary => some "builtin"
      | .program _ => some "file"
      | .unknown => none
    let path (name : String) : Option String :=
      match kindOf name turn with
      | .program path => some path
      | .unknown => none
      | _ => if letters.contains 'P' then turn.me.programPath? turn.files name else some ""
    let found := names.map (if letters.contains 't' then word
      else if letters.contains 'p' || letters.contains 'P' then path
      else fun name => (word name).map fun _ => name)
    if letters.contains 't' || letters.contains 'p' || letters.contains 'P' then
      match prints "type" (String.join (found.map fun text =>
        match text with
        | some "" | none => ""
        | some text => text ++ "\n")) turn with
      | .done turn => .done (turn.succeeded (found.all Option.isSome))
      | answer => answer
    else describe false names turn

/-- What `command` does with options that ask what a name stands for; a command to run is none of
its business. -/
def command : Command := fun arguments turn =>
  match arguments with
  | "-v" :: names => describe true (if turn.me.isRich then names else names.take 1) turn
  | "-V" :: names => describe false (if turn.me.isRich then names else names.take 1) turn
  | _ => .done (turn.withStatus 0)

/-- The times that nothing has taken. -/
def times : Command := fun _ turn =>
  let line := if turn.me.isRich then "0m0.000s 0m0.000s\n" else "0m0.000000s 0m0.000000s\n"
  prints "times" (line ++ line) turn

end RenderSync.Shell.Command
