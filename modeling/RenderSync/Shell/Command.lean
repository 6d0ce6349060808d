import RenderSync.Shell.Command.Control
import RenderSync.Shell.Command.Declarations
import RenderSync.Shell.Command.Features
import RenderSync.Shell.Command.Input
import RenderSync.Shell.Command.Surroundings

/-!
# The commands of the shell by name

A special command of a plain shell is found before functions, keeps the assignments in front of it,
and ends the shell when it fails; `specialNames` lists them.  A rich shell has no special commands,
but more of them, and some of its commands do more.
-/

namespace RenderSync.Shell.Command

/-- Commands that do nothing here: there is no control of jobs, and nothing is remembered. -/
def idle : List String :=
  ["bind", "compgen", "complete", "compopt", "disown", "enable", "fc", "hash", "help", "history",
    "logout", "suspend"]

/-- Shows the numbers of what runs in the background, if they are asked for. -/
def jobs : Command := fun arguments turn =>
  let mine := turn.processes.filter fun process =>
    process.parent = turn.me.number && process.job.isSome && !process.isNoted
  prints "jobs" (if arguments.contains "-p" then
    String.join (mine.map fun process => decimal process.number ++ "\n") else "") turn

/-- Says where a function was called. -/
def caller : Command := fun arguments turn =>
  let calls := turn.me.calls
  match arguments with
  | [] =>
    let text := match calls with
      | [] => "0 NULL"
      | call :: _ => decimal call.line ++ " " ++ call.script
    prints "caller" (text ++ "\n") turn
  | word :: _ =>
    match Digits.toNat? 10 word.toList with
    | none => .refused 2 (word ++ ": invalid number")
    | some n =>
      match calls.drop n with
      | [] => .done (turn.withStatus 1)
      | call :: outer =>
        let name := (outer.head?.map Calling.name).getD "main"
        prints "caller" (" ".intercalate [decimal call.line, name, call.script] ++ "\n") turn

/-- The command of a name that only a rich shell has, or that does more there. -/
def findRich? (name : String) : Option Command :=
  match name with
  | "caller" => some caller
  | "declare" | "typeset" | "local" => some (declare name)
  | "dirs" => some dirs
  | "export" => some exportRichly
  | "let" => some let_
  | "mapfile" | "readarray" => some mapfile
  | "popd" => some popd
  | "pushd" => some pushd
  | "readonly" => some readonlyRichly
  | "set" => some setRichly
  | "shopt" => some shopt
  | "source" => some dot
  | "unset" => some unsetRichly
  | _ => none

/-- The command of a name. -/
def findPlain? (name : String) (context : Context) : Option Command :=
  match name with
  | ":" | "true" => some (status 0)
  | "false" => some (status 1)
  | "." => some dot
  | "break" => some break_
  | "continue" => some continue_
  | "eval" => some (eval context)
  | "exec" => some exec
  | "exit" => some exit
  | "export" => some export_
  | "local" => some local_
  | "readonly" => some readonly
  | "return" => some return_
  | "set" => some set
  | "shift" => some shift
  | "times" => some times
  | "trap" => some trap
  | "unset" => some unset
  | "[" => some (test true)
  | "test" => some (test false)
  | "alias" => some alias_
  | "cd" => some cd
  | "command" => some command
  | "echo" => some echo
  | "getopts" => some getopts
  | "jobs" => some jobs
  | "kill" => some kill
  | "printf" => some printf
  | "pwd" => some pwd
  | "read" => some read
  | "type" => some type
  | "ulimit" => some fun _ turn => prints "ulimit" "unlimited\n" turn
  | "umask" => some umask
  | "unalias" => some unalias
  | "wait" => some wait
  | "bg" | "fg" => some fun _ _ => .fault "No current job"
  | _ => if idle.contains name then some (status 0) else none

/-- The command of a name. -/
def find? (isRich : Bool) (name : String) (context : Context) : Option Command :=
  match if isRich then findRich? name else none with
  | some command => some command
  | none => findPlain? name context

end RenderSync.Shell.Command
