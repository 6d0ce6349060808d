import RenderSync.Shell.Command.Variables

/-!
# Features

Commands that switch features of the shell on and off, and words that stand for others.
-/

namespace RenderSync.Shell.Command

/-! ## 1. Features of a rich shell -/

/-- Features that are on from the start. -/
def commonFeatures : List String :=
  ["checkwinsize", "cmdhist", "complete_fullquote", "extquote", "force_fignore", "globasciiranges",
    "globskipdots", "hostcomplete", "interactive_comments", "patsub_replacement", "progcomp",
    "promptvars", "sourcepath"]

/-- Features that are off at the start. -/
def otherFeatures : List String :=
  ["assoc_expand_once", "autocd", "cdable_vars", "cdspell", "checkhash", "checkjobs", "compat31",
    "compat32", "compat40", "compat41", "compat42", "compat43", "compat44", "direxpand",
    "dirspell", "dotglob", "execfail", "expand_aliases", "extdebug", "extglob", "failglob",
    "globstar", "gnu_errfmt", "histappend", "histreedit", "histverify", "huponexit",
    "inherit_errexit", "lastpipe", "lithist", "localvar_inherit", "localvar_unset",
    "login_shell", "mailwarn", "no_empty_cmd_completion", "nocaseglob", "nocasematch",
    "noexpand_translation", "nullglob", "progcomp_alias", "restricted_shell", "shift_verbose",
    "varredir_close", "xpg_echo"]

/-- A feature is on; one that is on from the start is kept under its name when it is off. -/
def featureIsOn (me : Process) (name : String) : Bool :=
  me.hasFeature name != commonFeatures.contains name

/-- Switches a feature. -/
def switchFeature (on : Bool) (name : String) (me : Process) : Process :=
  me.setFeature (on != commonFeatures.contains name) name

/-- A feature and whether it is on, in a line. -/
def featureLine (width : Nat) (name : String) (on : Bool) : String :=
  name ++ String.ofList (List.replicate (width - name.length) ' ') ++ "\t" ++
    (if on then "on" else "off") ++ "\n"

/-- Switches features, shows them, or says whether they are on. -/
def shopt : Command := fun arguments turn =>
  withLetters "supqo" arguments fun letters names =>
    let known := commonFeatures ++ otherFeatures
    let isOption := letters.contains 'o'
    let isKnown (name : String) : Bool :=
      if isOption then
        (Process.richOptionNames.lookup name).isSome || Process.richOptionFeatures.contains name
      else known.contains name
    let holds (name : String) : Bool := if isOption then isOn turn.me name
      else featureIsOn turn.me name
    match names.find? fun name => !isKnown name with
    | some name => .fault (name ++ ": invalid shell option name")
    | none =>
      if letters.contains 's' || letters.contains 'u' then
        let on := letters.contains 's'
        if names = [] then
          let found := (known.mergeSort (· ≤ ·)).filter fun name => holds name = on
          prints "shopt" (String.join (found.map fun name => featureLine 20 name on)) turn
        else
          .done ((turn.withStatus 0).mine fun me => names.foldl (fun me name =>
            if isOption then
              match me.setNamed on name with
              | .ok me => me
              | .error _ => me
            else switchFeature on name me) me)
      else
        let chosen := if names = [] then known.mergeSort (· ≤ ·) else names
        let text := String.join (chosen.map fun name =>
          if letters.contains 'p' then
            "shopt " ++ (if holds name then "-s " else "-u ") ++ name ++ "\n"
          else featureLine 20 name (holds name))
        match prints "shopt" (if letters.contains 'q' then "" else text) turn with
        | .done turn => .done (turn.succeeded (names.all holds))
        | answer => answer

/-- The options of a rich shell that go by a name, and whether they are on. -/
def richOptionTable (me : Process) : String :=
  let names := (Process.richOptionNames.map Prod.fst ++ Process.richOptionFeatures).mergeSort
    (· ≤ ·)
  String.join (names.map fun name => featureLine 15 name (isOn me name || name =
    "interactive-comments"))

/-- The commands that make the options of a rich shell what they are. -/
def richOptionCommands (me : Process) : String :=
  let names := (Process.richOptionNames.map Prod.fst ++ Process.richOptionFeatures).mergeSort
    (· ≤ ·)
  String.join (names.map fun name =>
    "set " ++ (if isOn me name || name = "interactive-comments" then "-o " else "+o ") ++ name ++
      "\n")

/-- The variables of a rich shell as it writes them. -/
def shownRichly (me : Process) : String :=
  let sorted := (me.bindings.filter fun entry => entry.2.content ≠ .nothing).mergeSort fun a b =>
    a.1 ≤ b.1
  String.join (sorted.map fun (name, entry) =>
    name ++ "=" ++ (match entry.content with
      | .text value => if value = "" then "" else Quoting.asNeeded value
      | content => content.written) ++ "\n")

/-- Sets options and arguments of a rich shell. -/
def setRichly : Command := fun arguments turn =>
  match arguments with
  | [] => prints "set" (shownRichly turn.me) turn
  | ["-o"] => prints "set" (richOptionTable turn.me) turn
  | ["+o"] => prints "set" (richOptionCommands turn.me) turn
  | _ =>
    match turn.me.takeOptions arguments with
    | .error message => .refused 2 message
    | .ok wishes =>
      let replaces := wishes.operands ≠ [] || arguments.contains "--"
      let me := { wishes.process with
        options := wishes.process.options.filter fun c => c ≠ 'c' || turn.me.hasOption 'c' }
      .done ({ turn with
        me := if replaces then { me with arguments := wishes.operands } else me }.withStatus 0)

/-! ## 2. Words that stand for others -/

/-- Lets words stand for others, or shows what they stand for. -/
def alias_ : Command := fun arguments turn =>
  let arguments := if arguments.head? = some "-p" then arguments.tail else arguments
  let line (name text : String) : String :=
    (if turn.me.isRich then "alias " ++ name ++ "=" ++ Quoting.single text
      else name ++ "=" ++ quoted text) ++ "\n"
  if arguments = [] then
    prints "alias" (String.join ((turn.me.aliases.mergeSort fun a b => a.1 ≤ b.1).map fun entry =>
      line entry.1 entry.2)) turn
  else
    let (text, turn, status) := arguments.foldl (fun (state : String × Turn × Nat) word =>
      let (text, turn, status) := state
      match binding word with
      | (name, some value) =>
        (text, turn.mine fun me =>
          { me with aliases := (name, value) :: me.aliases.filter (·.1 ≠ name) }, status)
      | (name, none) =>
        match turn.me.aliases.lookup name with
        | some value => (text ++ line name value, turn, status)
        | none =>
          (text, if turn.me.isRich then turn.complainAs "alias: " (name ++ ": not found")
            else turn.tell 2 ("alias: " ++ name ++ " not found\n"), 1)) ("", turn, 0)
    match prints "alias" text turn with
    | .done turn => .done (turn.withStatus status)
    | answer => answer

/-- Words stand for themselves again. -/
def unalias : Command := fun arguments turn =>
  withLetters "a" arguments fun letters names =>
    let isKnown (name : String) : Bool := (turn.me.aliases.lookup name).isSome
    let missing := names.filter fun name => !isKnown name
    let told := missing.foldl (fun turn name =>
      if turn.me.isRich then turn.complainAs "unalias: " (name ++ ": not found")
      else turn.tell 2 ("unalias: " ++ name ++ " not found\n")) turn
    .done ((told.succeeded (missing = [])).mine fun me =>
      { me with aliases := if letters.contains 'a' then []
        else me.aliases.filter fun entry => !names.contains entry.1 })

end RenderSync.Shell.Command
