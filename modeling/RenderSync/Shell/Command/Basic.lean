import RenderSync.Shell.Condition
import RenderSync.Shell.Format
import RenderSync.Shell.Launch

/-!
# Commands of the shell itself

A command of the shell is a function of its arguments on the system as the shell sees it.  It
answers with the system after it, with a fault that is complained about in its name, or that it
has to wait.
-/

namespace RenderSync.Shell

/-- What a command of the shell answers. -/
inductive Answer where
  | done (turn : Turn)
  | fault (message : String)
  /-- The same with a status of its own. -/
  | refused (status : Nat) (message : String)
  /-- It can only go on later. -/
  | blocked
deriving Inhabited

/-- A command of the shell itself. -/
abbrev Command := List String → Turn → Answer

namespace Command

/-- Succeeds or fails, and nothing else. -/
def status (status : Nat) : Command := fun _ turn => .done (turn.withStatus status)

/-- Prints and succeeds. -/
def prints (name text : String) (turn : Turn) : Answer :=
  .done ((turn.withStatus 0).plan (if text = "" then [] else [.emit 1 text name]))

/-- A variable or an element is set. -/
def isSet (me : Process) (text : String) : Bool :=
  match Process.withKey text with
  | (name, none) =>
    (parameter? me name).isSome
  | (name, some key) =>
    match Subject.ofElement me name key with
    | .ok subject => subject.isThere false
    | .error _ => false

/-- An option is on, by its name. -/
def isOn (me : Process) (name : String) : Bool :=
  match Process.richOptionNames.lookup name with
  | some letter => me.hasOption letter
  | none => me.hasFeature name

/-- What can be seen of files and of the shell. -/
def view (me : Process) (files : FileTree) : Condition.View :=
  ⟨me.here, files, me.isRich, isSet me, isOn me⟩

/-- The largest number that arguments may be. -/
def largest : Nat := 2147483647

/-- An argument that has to be a number; it may have a sign in front, and blanks around it. -/
def number (text : String) : Except String Nat :=
  match integer? false text.toList with
  | some (.ofNat n) => if n ≤ largest then .ok n else .error ("Illegal number: " ++ text)
  | _ => .error ("Illegal number: " ++ text)

/-- Goes on with a value, or answers with the fault. -/
def withValue {α : Type} (value : Except String α) (act : α → Answer) : Answer :=
  match value with
  | .ok value => act value
  | .error message => .fault message

/-- Goes on with options, letters without values, and operands. -/
def withLetters (allowed : String) (arguments : List String)
    (act : List Char → List String → Answer) : Answer :=
  let isOption (word : String) : Bool :=
    word.length > 1 && word.toList.head? = some '-' && word ≠ "--"
  let (options, rest) := arguments.span isOption
  let letters := options.flatMap fun word => word.toList.drop 1
  match letters.find? fun c => !allowed.toList.contains c with
  | some c => .refused 2 ("Illegal option -" ++ c.toString)
  | none => act letters (if rest.head? = some "--" then rest.tail else rest)

/-- Characters in front that are quotes, or that are none, and what follows. -/
def quoteRuns : (fuel : Nat) → List Char → List Char
  | 0, _ | _, [] => []
  | fuel + 1, text =>
    let (plain, rest) := text.span (· ≠ '\'')
    let (quotes, rest) := rest.span (· = '\'')
    (if plain = [] && quotes ≠ [] then [] else '\'' :: plain ++ ['\'']) ++
      (if quotes = [] then [] else '"' :: quotes ++ ['"']) ++ quoteRuns fuel rest

/-- A text in quotes, so that the shell reads it as it is. -/
def quoted (text : String) : String :=
  if text = "" then "''" else String.ofList (quoteRuns text.length text.toList)

/-- Variables in the order of their names, each shown after some words. -/
def shown (before : String) (bindings : List (String × Variable)) : String :=
  let sorted := bindings.mergeSort fun a b => a.1 ≤ b.1
  String.join (sorted.map fun (name, entry) =>
    before ++ name ++
      (match entry.value with
        | some value => "=" ++ quoted value
        | none => "") ++ "\n")

end Command

end RenderSync.Shell
