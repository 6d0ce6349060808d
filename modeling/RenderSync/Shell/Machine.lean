import RenderSync.Shell.Running
import RenderSync.Shell.Statement

/-!
# Machines

`step` does the first task of a process, and answers `none` when that is not possible at this
moment.  `run` lets all processes take steps in turn until none of them can take one, or until
their share is used up, so that a script that never ends does not stop the rest of the world.
-/

namespace RenderSync.Shell

namespace Task

/-- Before this task, something may be done about signals. -/
def isBoundary : Task → Bool
  | .source .. | .run .. | .again .. | .judge .. | .next .. | .decide .. | .check _ => true
  | .resume _ | .leave _ | .return_ | .depart .. | .exit _ => true
  | _ => false

end Task

namespace Turn

/-! ## 1. Children -/

/-- How a child has ended; one that is not known has no status. -/
def endOf? (turn : Turn) (child : Nat) : Option ExitStatus :=
  match turn.processes.find? (·.number = child) with
  | some process => process.ended
  | none => some (.exited 127)

/-- How all of some children have ended. -/
def endsOf? (turn : Turn) (children : List Nat) : Option (List ExitStatus) :=
  children.mapM turn.endOf?

/-- Forgets children. -/
def reap (children : List Nat) (turn : Turn) : Turn :=
  { turn with processes := turn.processes.filter fun process => !children.contains process.number }

/-- Says of children that signals have ended them. -/
def notices (ends : List ExitStatus) (turn : Turn) : Turn :=
  ends.foldl (fun turn status =>
    match status with
    | .signaled number =>
      match Signal.notice? ⟨number⟩ with
      | some text => turn.tell 2 (text ++ "\n")
      | none => turn
    | .exited _ => turn) turn

/-- Takes over how the last of some children has ended, or the last of those that failed if that is
asked for. -/
def takesOver (ends : List ExitStatus) (turn : Turn) : Turn :=
  let all := ends.map statusOf
  let last := all.getLast?.getD 0
  let status := if turn.me.hasFeature "pipefail" then
      ((all.reverse.find? (· ≠ 0)).getD last)
    else last
  (turn.withStatus status).mine fun me => { me with outcomes := if all = [] then [0] else all }

/-- Takes over how the last of some children has ended, and forgets them. -/
def collects (children : List Nat) (ends : List ExitStatus) (turn : Turn) : Turn :=
  ((turn.notices ends).reap children).takesOver ends

/-- Somebody has asked for children that have ended. -/
def notes (children : List Nat) (turn : Turn) : Turn :=
  { turn with
    processes := turn.processes.map fun process =>
      if children.contains process.number then { process with isNoted := true } else process }

/-! ## 2. Tasks -/

/-- Reads and runs the next line of a script. -/
def readOn (source : Source) (context : Context) (turn : Turn) : Turn :=
  match readLine { source with documents := turn.me.documents, manner := turn.me.manner } with
  | .error fault =>
    let turn := turn.mine fun me => { me with line := fault.line }
    let isInner : Bool := turn.me.agenda.any fun task =>
      match task with
      | .relabel _ => true
      | _ => false
    if !turn.me.isRich then turn.fails fault.message
    else if isInner then Command.discards 2 (turn.complain fault.message)
    else Command.exits 2 ((turn.complain fault.message).withStatus 2)
  | .ok (statements, rest) =>
    let turn := turn.mine fun me => { me with documents := rest.documents }
    if rest.isFinished && (context.last || !turn.me.isRich) then turn.plan (runs context statements)
    else if statements.isEmpty && rest.isFinished then turn
    else turn.plan (runs context.inner statements ++ [.source rest context])

/-- Takes what a child writes. -/
def gathers (descriptor child : Nat) (gathered : List UInt8) (statement : Statement)
    (captured : List String) (context : Context) (turn : Turn) : Option Turn :=
  match turn.read descriptor anything with
  | .blocked => none
  | .done (some bytes) turn =>
    some (turn.plan [.capture descriptor child (gathered ++ bytes) statement captured context])
  | _ =>
    (turn.endOf? child).map fun status =>
      let text := Octets.ofBytes (gathered.filter (· ≠ 0))
      (((turn.notices [status]).reap [child]).mine fun me =>
        { me.close descriptor with capturedStatus := statusOf status }).plan
          [.run statement (captured ++ [text]) context]

/-- Runs a command of the shell. -/
def invokes (fields : List String) (special : Bool) (context : Context) (turn : Turn) :
    Option Turn :=
  match fields with
  | [] => some turn
  | name :: arguments =>
    match Command.find? turn.me.isRich name context with
    | none => some (turn.withStatus 127)
    | some command =>
      match command arguments turn with
      | .done turn => some turn
      | .blocked => none
      | .fault message =>
        let status := if turn.me.isRich then 1 else 2
        let turn := (turn.complainAs (name ++ ": ") message).withStatus status
        some (if special then Command.exits 2 turn else turn)
      | .refused status message =>
        let turn := (turn.complainAs (name ++ ": ") message).withStatus status
        some (if special then Command.exits 2 turn else turn)

/-- Writes for a command. -/
def emits (descriptor : Nat) (text command : String) (turn : Turn) : Option Turn :=
  match turn.write descriptor (Octets.toBytes text) with
  | .done _ turn => some turn
  | .blocked => none
  | .failed problem =>
    let told := if problem = "Broken pipe" then turn.mine (·.signal .brokenPipe) else turn
    if told.me.ended.isSome then some told
    else some ((told.complainAs (command ++ ": ") "I/O error").withStatus 1)

/-- The shell ends, but first comes what is to be done then. -/
def ends (status : Nat) (turn : Turn) : Turn :=
  let turn := turn.withStatus status
  match turn.me.traps.lookup .atExit with
  | some action =>
    turn.mine fun me =>
      { me with
        traps := me.traps.filter (·.1 != .atExit)
        agenda := [.source (.start action.toList 1 me.documents) .plain, .finish status] }
  | none => turn.mine (·.end_ (.exited (status % 256)))

/-- Does something about a signal. -/
def handles (signal : Signal) (turn : Turn) : Turn :=
  let action := (turn.me.traps.lookup signal).getD ""
  (turn.mine fun me => { me with caught := me.caught.filter (· ≠ signal) }).plan
    [.source (.start action.toList 1 turn.me.documents) .plain, .resume turn.me.status]

/-- Goes on with a loop over words. -/
def nextItem (name : String) (items : List String) (body : List Statement) (context : Context)
    (turn : Turn) : Turn :=
  match items with
  | [] => turn
  | item :: items =>
    match turn.me.assign name item with
    | .error message => turn.fails message
    | .ok me =>
      { turn with me := me.plan (runs context body ++ [.next name items body context]) }

/-- Waits for one of some children; a variable gets its number. -/
def attendsAny (children : List Nat) (holder : Option String) (turn : Turn) : Option Turn :=
  let ended := children.filterMap fun child => do
    let process ← turn.processes.find? (·.number = child)
    return (child, ← process.ended)
  match ended with
  | (child, status) :: _ =>
    let turn := ((turn.notices [status]).reap [child]).withStatus (statusOf status)
    some (match holder with
      | some name => turn.mine fun me => me.bind name (.ofText (decimal child))
      | none => turn)
  | [] =>
    match turn.me.caught with
    | signal :: _ => some (turn.withStatus (128 + signal.number))
    | [] => none

/-- A command has failed where this matters: something is done about it, or the shell ends. -/
def checksFailure (line : Nat) (turn : Turn) : Turn :=
  let status := turn.me.status
  if status = 0 then turn
  else
    let last (turn : Turn) : Turn :=
      if turn.me.hasOption 'e' then Command.exits status turn else turn
    let isWatched := turn.me.calls = [] || turn.me.hasOption 'E'
    match if isWatched then turn.me.traps.lookup .onFailure else none with
    | some action =>
      turn.plan [.source (.start action.toList line turn.me.documents) .condition, .resume status,
        .decide [] (if turn.me.hasOption 'e' then [.exit status] else [])]
    | none => last turn

/-- Gives a variable elements, whether or not it is protected. -/
def fills (name : String) (appends : Bool) (items : List (Option String × String)) (turn : Turn) :
    Turn :=
  let entry := turn.me.entry name
  let open_ := turn.me.bind name { entry with readOnly := false }
  match open_.fill name appends items with
  | .ok me =>
    { turn with me := me.bind name { me.entry name with readOnly := entry.readOnly } }
  | .error message => turn.fails message

/-- Does a task; `none` if that is not possible at this moment. -/
def task (first : Task) (turn : Turn) : Option Turn :=
  match first with
  | .source source context => some (turn.readOn source context)
  | .run body captured context => some (turn.statement body captured context)
  | .capture descriptor child gathered statement captured context =>
    turn.gathers descriptor child gathered statement captured context
  | .await children => (turn.endsOf? children).map fun ends => turn.collects children ends
  | .attend children wanted =>
    match turn.endsOf? children, turn.me.caught with
    | some ends, _ =>
      some ((if wanted then (turn.notices ends).takesOver ends else turn).notes children)
    | none, signal :: _ => some (turn.withStatus (128 + signal.number))
    | none, [] => none
  | .attendAny children holder => turn.attendsAny children holder
  | .tally => some (turn.mine fun me => { me with outcomes := [me.status] })
  | .fill name appends items => some (turn.fills name appends items)
  | .invoke fields special context => turn.invokes fields special context
  | .launch fields => some (turn.execute fields)
  | .program (name :: arguments) => some (turn.begins name arguments)
  | .program [] => some turn
  | .typed gathered => turn.types gathered
  | .feed feed => turn.feeds feed
  | .pour descriptors => turn.pours descriptors
  | .trail place offset => turn.trails place offset
  | .follow course => turn.follows course
  | .hear hearing next => turn.hears hearing next
  | .meet =>
    if turn.me.knocks.all turn.isAnswered then some (turn.mine fun me => { me with knocks := [] })
    else none
  | .emit descriptor text command => turn.emits descriptor text command
  | .decide yes no => some (turn.plan (if turn.me.status = 0 then yes else no))
  | .again loop context =>
    match loop with
    | .loop _ condition _ => some (turn.plan (round condition loop turn.me.status context))
    | .count line _ condition step _ =>
      let status := turn.me.status
      some (turn.plan (sums line step ++ countRound line condition loop status context))
    | _ => some turn
  | .judge loop status context =>
    match loop with
    | .loop until_ _ body =>
      if (turn.me.status = 0) != until_ then
        some (turn.plan (runs context body ++ [.again loop context]))
      else some (turn.withStatus status)
    | .count _ _ _ _ body =>
      if turn.me.status = 0 then some (turn.plan (runs context body ++ [.again loop context]))
      else some (turn.withStatus status)
    | _ => some turn
  | .next name items body context => some (turn.nextItem name items body context)
  | .setStatus status => some (turn.withStatus status)
  | .invert => some (turn.succeeded (turn.me.status ≠ 0))
  | .check line => some (turn.checksFailure line)
  | .restore saved => some (turn.mine (·.putBack saved))
  | .uncover covered => some (turn.mine (·.uncover covered))
  | .relabel label => some (turn.mine fun me => { me with label })
  | .leave arguments =>
    some (turn.mine fun me =>
      { me.uncover (me.frames.headD []) with
        arguments
        frames := me.frames.tail
        calls := me.calls.tail })
  | .return_ => some turn
  | .depart arguments keeps =>
    some (turn.mine fun me =>
      { me with
        arguments := if keeps then me.arguments else arguments
        calls := me.calls.tail })
  | .resume status => some (turn.withStatus status)
  | .exit status => some (turn.ends status)
  | .finish status => some (turn.mine (·.end_ (.exited (status % 256))))

/-! ## 3. Steps -/

/-- The first of the signals about which something is to be done. -/
def pending? (me : Process) : Option Signal :=
  me.caught.foldl (fun found signal =>
    match found with
    | some first => if signal.number < first.number then some signal else some first
    | none => some signal) none

/-- One step of the process that is on; `none` if it can take none at this moment. -/
def step (turn : Turn) : Option Turn :=
  let me := turn.me
  if me.ended.isSome || me.paused then none
  else if me.wakeAt.any (turn.now < ·) then none
  else
    match pending? me, me.agenda with
    | some signal, [] => some (turn.handles signal)
    | none, [] => some (turn.ends me.status)
    | pending, first :: rest =>
      match if first.isBoundary then pending else none with
      | some signal => some (turn.handles signal)
      | none => { turn with me := { me with agenda := rest, wakeAt := none } }.task first

/-- Steps of the process that is on, as far as it can take them and `fuel` allows; how much of
that is left. -/
def goOn : (fuel : Nat) → Turn → Nat × Turn
  | 0, turn => (0, turn)
  | fuel + 1, turn =>
    match turn.step with
    | some turn => goOn fuel turn
    | none => (fuel + 1, turn)

end Turn

/-! ## 4. Turns -/

namespace System

/-- Lets a process have a turn of at most `share` steps; how many it took. -/
def turnOf (share number : Nat) (system : System) : Nat × System :=
  match system.processes.find? (·.number = number) with
  | none => (0, system)
  | some me =>
    let others := system.processes.filter (·.number != number)
    let turn : Turn := { system with processes := others, me }
    let (left, turn) := turn.goOn share
    (share - left, { turn.toSystem with processes := turn.processes ++ [turn.me] })

/-- Forgets children that have ended and whose parents have, too, and what nobody can reach. -/
def tidy (system : System) : System :=
  let alive := (system.processes.filter (·.ended.isNone)).map Process.number
  let processes := system.processes.filter fun process =>
    process.ended.isNone || process.parent = 0 || alive.contains process.parent
  let held := processes.flatMap fun process => process.descriptors.map Prod.snd
  let opened := system.opened.filter fun entry => held.contains entry.1
  let pipes := system.pipes.filter fun entry => opened.any fun (_, stream) =>
    stream = .source entry.1 || stream = .sink entry.1 || stream = .loop entry.1
  let named := system.named.filter fun named => pipes.any (·.1 = named.pipe)
  { system with processes, opened, pipes, named }

/-- How many steps a process takes before others have a turn. -/
def shareOfOne : Nat := 500

/-- How many steps all processes take at most before time passes. -/
def shareOfAll : Nat := 20000

/-- Lets every process have a turn, in the order of their numbers; how many steps were taken. -/
def round (system : System) : Nat × System :=
  let numbers := (system.processes.map Process.number).mergeSort (· ≤ ·)
  let (steps, system) := numbers.foldl (fun (steps, system) number =>
    let (more, system) := system.turnOf shareOfOne number
    (steps + more, system)) (0, system)
  (steps, system.tidy)

/-- Lets processes have turns until none of them can go on, or until `fuel` steps were taken. -/
def runFuel : (rounds fuel : Nat) → System → System
  | 0, _, system => system
  | rounds + 1, fuel, system =>
    let (steps, system) := system.round
    if steps = 0 || fuel ≤ steps then system else runFuel rounds (fuel - steps) system

/-- Lets processes go on as far as they can at this moment. -/
def run (system : System) : System := runFuel shareOfAll shareOfAll system

end System

end RenderSync.Shell
