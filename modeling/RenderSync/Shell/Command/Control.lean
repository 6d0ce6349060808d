import RenderSync.Shell.Command.Basic
import RenderSync.Shell.Redirection

/-!
# Commands for control

Commands that change what is done next.  They look at the agenda: a loop, a function and a script
that was read in each end with a task of their own, so leaving one of them means to drop what
stands before that task, apart from what puts things back.
-/

namespace RenderSync.Shell

namespace Task

/-- The end of a round of a loop. -/
def isLoop : Task → Bool
  | .again .. | .judge .. | .next .. => true
  | _ => false

/-- Puts something back, and is done in any case. -/
def isRepair : Task → Bool
  | .restore _ | .uncover _ | .relabel _ | .depart .. => true
  | _ => false

/-- The end of a function. -/
def isFunctionEnd : Task → Bool
  | .leave _ => true
  | _ => false

/-- The end of a function or of a script that was read in. -/
def isReturnPoint : Task → Bool
  | .leave _ | .return_ => true
  | _ => false

end Task

namespace Command

/-! ## 1. Loops and functions -/

/-- How many loops there are around, in the same function. -/
def loopDepth (agenda : List Task) : Nat :=
  (agenda.takeWhile fun task => !task.isFunctionEnd).countP Task.isLoop

/-- The tasks up to the end of a loop, `depth` loops out, that are done in any case, and the
tasks from there on. -/
def outOf : (depth : Nat) → List Task → List Task × List Task
  | _, [] => ([], [])
  | depth, task :: rest =>
    if task.isLoop then
      match depth with
      | 0 | 1 => ([], task :: rest)
      | depth + 1 => outOf depth rest
    else
      let (kept, rest) := outOf depth rest
      (if task.isRepair then task :: kept else kept, rest)

/-- How many loops an argument asks for. -/
def depthOf (arguments : List String) : Except String Nat :=
  match arguments.head? with
  | none => .ok 1
  | some text =>
    match number text with
    | .ok 0 => .error ("Illegal number: " ++ text)
    | found => found

/-- Leaves loops. -/
def break_ : Command := fun arguments turn =>
  withValue (depthOf arguments) fun depth =>
    let depth := min depth (loopDepth turn.me.agenda)
    let turn := turn.withStatus 0
    if depth = 0 then .done turn
    else
      match outOf depth turn.me.agenda with
      | (kept, .judge _ status _ :: rest) =>
        .done (turn.mine fun me => { me with status, agenda := kept ++ rest })
      | (kept, rest) => .done (turn.mine fun me => { me with agenda := kept ++ rest.drop 1 })

/-- Goes on with the next round of a loop. -/
def continue_ : Command := fun arguments turn =>
  withValue (depthOf arguments) fun depth =>
    let depth := min depth (loopDepth turn.me.agenda)
    let turn := turn.withStatus 0
    if depth = 0 then .done turn
    else
      match outOf depth turn.me.agenda with
      | (kept, .judge loop status context :: rest) =>
        .done (turn.mine fun me =>
          { me with status, agenda := kept ++ .again loop context :: rest })
      | (kept, rest) => .done (turn.mine fun me => { me with agenda := kept ++ rest })

/-- The status that an argument asks for; a rich shell takes any number, and complains about what
is none. -/
def askedStatus (arguments : List String) (status : Nat) (turn : Turn) (act : Nat → Turn → Answer) :
    Answer :=
  match arguments.head? with
  | none => act status turn
  | some text =>
    if turn.me.isRich then
      match integer? false text.toList with
      | some n => act (n % 256).toNat turn
      | none => act 2 (turn.complain (text ++ ": numeric argument required"))
    else withValue (number text) fun status => act status turn

/-- Leaves a function or a script that was read in; elsewhere the shell, unless it is a rich one. -/
def return_ : Command := fun arguments turn =>
  askedStatus arguments turn.me.status turn fun status turn =>
    let agenda := turn.me.agenda
    let kept := (agenda.takeWhile fun task => !task.isReturnPoint).filter Task.isRepair
    let rest := agenda.dropWhile fun task => !task.isReturnPoint
    if rest.isEmpty && turn.me.isRich then
      .refused 2 "can only \x60return' from a function or sourced script"
    else
      let rest := if rest.isEmpty then [.exit status] else rest
      .done ((turn.withStatus status).mine fun me => { me with agenda := kept ++ rest })

/-- The status from before what is being done about a signal or the end. -/
def statusBefore? (agenda : List Task) : Option Nat :=
  agenda.findSome? fun task =>
    match task with
    | .resume status | .finish status => some status
    | _ => none

/-- The shell ends, when everything was put back. -/
def exits (status : Nat) (turn : Turn) : Turn :=
  turn.mine fun me =>
    { me with agenda := me.agenda.filter Task.isRepair ++ [.exit status] }

/-- Ends the shell. -/
def exit : Command := fun arguments turn =>
  let status := (statusBefore? turn.me.agenda).getD turn.me.status
  if turn.me.isRich && arguments.length > 1 && (integer? false (arguments.headD "").toList).isSome
  then .refused 1 "too many arguments"
  else askedStatus arguments status turn fun status turn =>
    .done (exits status (turn.withStatus status))

/-- A place from which a script goes on. -/
def isResumePoint : Task → Bool
  | .source .. | .relabel _ => true
  | _ => false

/-- Nothing more of the line is done, apart from what puts things back. -/
def discards (status : Nat) (turn : Turn) : Turn :=
  (turn.withStatus status).mine fun me =>
    let (line, rest) := me.agenda.span fun task => !isResumePoint task
    { me with agenda := (line.filter fun task => task.isRepair || task.isFunctionEnd) ++ rest }

/-! ## 2. Scripts -/

/-- Reads a script in; complaints are made in another name as long as it runs. -/
def reads (text label : String) (tested : Bool) (after : List Task) (turn : Turn) : Turn :=
  let source := Source.start text.toList 1 turn.me.documents
  (turn.plan (.source source ⟨tested, false⟩ :: after ++ [.relabel turn.me.label])).mine
    fun me => { me with label := if me.isRich then me.label else label }

/-- Runs arguments as a script. -/
def eval (context : Context) : Command := fun words turn =>
  let text := " ".intercalate words
  if text.toList.all isSpace then .done (turn.withStatus 0)
  else .done (reads text "eval: " context.tested [] turn)

/-- Runs a file as a part of the script. -/
def dot : Command := fun arguments turn =>
  let arguments := if arguments.head? = some "--" then arguments.tail else arguments
  match arguments with
  | [] =>
    if turn.me.isRich then .refused 2 "filename argument required" else .done (turn.withStatus 0)
  | name :: operands =>
    let bytes? (path : String) : Option (List UInt8) :=
      turn.files.read? (pathFrom turn.me.here path)
    let run (turn : Turn) (path : String) (bytes : List UInt8) : Answer :=
      let calling : Calling := ⟨"source", path, turn.me.line⟩
      let old := turn.me.arguments
      let turn := (turn.withStatus 0).mine fun me =>
        if me.isRich && operands ≠ [] then { me with arguments := operands } else me
      .done ((reads (Octets.ofBytes bytes) (path ++ ": ") false
        (if turn.me.isRich then [.return_, .depart old operands.isEmpty] else [.return_]) turn).mine
          fun me => if me.isRich then { me with calls := calling :: me.calls } else me)
    let paths := if name.toList.contains '/' then [name]
      else turn.me.candidates false name ++ if turn.me.isRich then ["./" ++ name] else []
    let all (more : Bool) (there : List UInt8) : Option Nat :=
      if more then none else some there.length
    match descriptorOf? (placeNamed turn.files (pathFrom turn.me.here name)),
      paths.findSome? fun path => (bytes? path).map (path, ·) with
    | some descriptor, _ =>
      match turn.read descriptor all with
      | .blocked => .blocked
      | .done bytes turn => run turn name (bytes.getD [])
      | .failed _ => .fault (name ++ ": No such file or directory")
    | none, some (path, bytes) => run turn (if turn.me.isRich then name else path) bytes
    | none, none =>
      if turn.me.isRich then .fault (name ++ ": No such file or directory")
      else if name.toList.contains '/' then .fault ("cannot open " ++ name ++ ": No such file")
      else .fault (name ++ ": not found")

/-- Puts a program in the place of the shell. -/
def exec : Command := fun words turn =>
  let words := match turn.me.isRich, words with
    | true, "-a" :: _ :: rest | true, "-c" :: rest | true, "-l" :: rest | true, "--" :: rest => rest
    | _, words => words
  if words = [] then .done (turn.withStatus 0)
  else
    match ({ turn with me.label := "exec: " }).execute words with
    | launched => .done (launched.mine fun me => { me with label := turn.me.label })

/-! ## 3. Signals -/

/-- A signal of the name or number, `trap` counting the end as one. -/
def signal? (text : String) : Option Signal := Signal.ofName? text

/-- A signal whose name may have three letters more in front, or something else that a rich shell
can be told to do something about. -/
def richSignal? (text : String) : Option Signal :=
  let name := (text.toList.map Char.toUpper)
  let bare := if "SIG".toList.isPrefixOf name then name.drop 3 else name
  match String.ofList bare with
  | "ERR" => some .onFailure
  | "DEBUG" => some .beforeCommand
  | "RETURN" => some .onReturn
  | bare => signal? bare

/-- The name of a signal as a rich shell says it. -/
def richSignalName (signal : Signal) : String :=
  if signal = .atExit then "EXIT"
  else if signal = .onFailure then "ERR"
  else if signal = .beforeCommand then "DEBUG"
  else if signal = .onReturn then "RETURN"
  else "SIG" ++ Signal.name signal

/-- What is done about signals, or about some of them. -/
def shownTraps (me : Process) (chosen : Signal → Bool) : String :=
  let numbers := List.range 68
  String.join (numbers.filterMap fun n =>
    if !chosen ⟨n⟩ then none
    else (me.traps.lookup ⟨n⟩).map fun action =>
      "trap -- " ++ (if me.isRich then Quoting.single action else quoted action) ++ " " ++
        (if me.isRich then richSignalName ⟨n⟩ else Signal.name ⟨n⟩) ++ "\n")

/-- Says what is to be done about signals. -/
def trap : Command := fun arguments turn =>
  let arguments := if arguments.head? = some "--" then arguments.tail else arguments
  let isNumber (word : String) : Bool := word ≠ "" && word.toList.all Digits.isDecimal
  match arguments with
  | [] => prints "trap" (shownTraps turn.me fun _ => true) turn
  | "-p" :: names =>
    let known := names.filterMap richSignal?
    prints "trap" (shownTraps turn.me fun signal => names = [] || known.contains signal) turn
  | first :: rest =>
    let signal? (name : String) : Option Signal :=
      if turn.me.isRich then richSignal? name else signal? name
    let (action, names) : Option String × List String :=
      if rest = [] || isNumber first then (none, arguments)
      else (if first = "-" then none else some first, rest)
    let set (me : Process) (signal : Signal) : Process :=
      let others := me.traps.filter (·.1 != signal)
      { me with
        traps := match action with
          | some action => (signal, action) :: others
          | none => others }
    let (turn, status) := names.foldl (fun (turn, status) name =>
      match signal? name with
      | some signal => if status = 0 then (turn.mine (set · signal), status) else (turn, status)
      | none =>
        (if turn.me.isRich then
          turn.complain ("trap: " ++ name ++ ": invalid signal specification")
        else turn.tell 2 ("trap: " ++ name ++ ": bad trap\n"), 1)) (turn, 0)
    .done (turn.withStatus status)

/-- There is such a process; ended ones exist as long as nobody has asked for them. -/
def exists_ (chosen : Process → Bool) (turn : Turn) : Bool :=
  (turn.me :: turn.processes).any fun process => !process.isNoted && chosen process

/-- A signal arrives at some processes. -/
def deliver (signal : Signal) (chosen : Process → Bool) (turn : Turn) : Turn :=
  let told (process : Process) : Process :=
    if chosen process then process.signal signal else process
  { turn with me := told turn.me, processes := turn.processes.map told }

/-- The children of the shell that a text such as `%1` names. -/
def jobOf (text : String) (turn : Turn) : Except String (List Nat) :=
  let mine := turn.processes.filter fun process =>
    process.parent = turn.me.number && process.job.isSome
  let jobs := (mine.filterMap Process.job).mergeSort (· ≤ ·)
  let job := match text.toList.drop 1 with
    | [] | ['%'] | ['+'] => jobs.getLast?
    | digits => Digits.toNat? 10 digits
  match (mine.filter (·.job = job)).map Process.number with
  | [] => .error (if turn.me.isRich then text ++ ": no such job" else "No such job: " ++ text)
  | found => .ok found

/-- Sends a signal to the process or, behind a dash, to the group that a text names.  A job is no
group, so that none is found. -/
def sendTo (signal : Signal) (target : String) (turn : Turn) : Except String (Bool × Turn) :=
  match target.toList with
  | '%' :: _ => do
    let found ← jobOf target turn
    if turn.me.isRich then
      return (true, deliver signal (fun process => found.contains process.number) turn)
    else return (false, turn)
  | '-' :: digits => do
    let group ← number (String.ofList digits)
    return (exists_ (·.group = group) turn, deliver signal (·.group = group) turn)
  | _ => do
    let n ← number target
    if n = 0 then return (true, deliver signal (·.group = turn.me.group) turn)
    else return (exists_ (·.number = n) turn, deliver signal (·.number = n) turn)

/-- The usage of `kill`. -/
def killUsage : String :=
  "Usage: kill [-s sigspec | -signum | -sigspec] [pid | job]... or\nkill -l [exitstatus]"

/-- Sends a signal to processes. -/
def kill : Command := fun arguments turn =>
  let send (signal : Signal) (targets : List String) : Answer :=
    let targets := if targets.head? = some "--" then targets.tail else targets
    if targets = [] then .fault killUsage
    else
      withValue (targets.foldlM (fun (turn, status) target => do
        let (found, turn) ← sendTo signal target turn
        return if found then (turn, status)
          else if turn.me.isRich then
            (turn.complainAs "kill: " ("(" ++ target ++ ") - No such process"), 1)
          else (turn.complainAs "kill: " "No such process\n", 1)) (turn, 0))
        fun (turn, status) => .done (turn.withStatus status)
  let signal? (text : String) : Option Signal :=
    if turn.me.isRich then richSignal? text else signal? text
  match arguments with
  | [] => .fault killUsage
  | "-l" :: rest =>
    match rest with
    | [] =>
      let others := (List.range 65).drop 1
      prints "kill" (String.join ("0\n" :: others.map fun n => Signal.name ⟨n⟩ ++ "\n")) turn
    | text :: _ =>
      withValue (number text) fun n =>
        let n := if n > 128 then n - 128 else n
        if n = 0 || n > 64 then
          .fault ("invalid signal number or exit status: " ++ text)
        else prints "kill" (Signal.name ⟨n⟩ ++ "\n") turn
  | ["-s"] => .fault "No arg for -s option"
  | "-s" :: name :: targets =>
    match signal? name with
    | some signal => send signal targets
    | none => .fault ("invalid signal number or name: " ++ name)
  | word :: targets =>
    match word.toList with
    | ['-', '-'] => send .terminate targets
    | '-' :: name =>
      match signal? (String.ofList name) with
      | some signal => send signal targets
      | none => .fault ("Illegal option -" ++ String.ofList (name.take 1))
    | _ => send .terminate arguments

/-! ## 4. Children -/

/-- The children of the shell. -/
def children (turn : Turn) : List Nat :=
  (turn.processes.filter (·.parent = turn.me.number)).map Process.number

/-- Waits for children. -/
def wait : Command := fun arguments turn =>
  let (holder, arguments) : Option String × List String := match turn.me.isRich, arguments with
    | true, "-p" :: name :: rest => (some name, rest)
    | true, "-n" :: "-p" :: name :: rest => (some name, "-n" :: rest)
    | _, arguments => (none, arguments)
  withLetters (if turn.me.isRich then "nf" else "") arguments fun letters operands =>
  if letters.contains 'n' then
    let wanted := operands.filterMap fun text => Digits.toNat? 10 text.toList
    let open_ := (turn.processes.filter fun process =>
      process.parent = turn.me.number && !process.isNoted &&
        (wanted = [] || wanted.contains process.number)).map Process.number
    if open_ = [] then .done (turn.withStatus 127)
    else .done (turn.plan [.attendAny open_ holder])
  else
  match operands with
  | [] => .done ((turn.withStatus 0).plan [.attend (children turn) false])
  | _ =>
    let known := children turn
    let task (text : String) : Except String Task :=
      if text.toList.head? = some '%' then (jobOf text turn).map fun found => .attend found true
      else (number text).map fun n =>
        if known.contains n then .attend [n] true else .setStatus 127
    withValue (operands.mapM task) fun tasks => .done ((turn.withStatus 0).plan tasks)

end Command

end RenderSync.Shell
