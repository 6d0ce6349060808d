import RenderSync.Shell.Process

/-!
# The system

Processes share files, the moment it is, and the streams that they have open: a stream belongs to
nobody and is reached through descriptors, so that two processes that got a descriptor from a third
one read and write at one place.

A `Turn` is the system as the process that is on sees it: itself, and the others.
-/

namespace RenderSync.Shell

/-! ## 1. Streams -/

/-- What a descriptor leads to. -/
inductive Stream where
  | device (device : Device)
  /-- Somebody outside reads everything: the one who started a process. -/
  | log (owner : Nat)
  | file (place : Place) (offset : Nat) (appends : Bool)
  /-- A text that nobody changes. -/
  | document (rest : List UInt8)
  /-- The end of a pipe to read from. -/
  | source (pipe : Nat)
  /-- The end of a pipe to write to. -/
  | sink (pipe : Nat)
  /-- Both ends of a pipe. -/
  | loop (pipe : Nat)
deriving DecidableEq, Repr, Inhabited

/-- How much a pipe holds before a writer has to wait. -/
def pipeRoom : Nat := 65536

/-- A pipe with a name as long as somebody has it open. -/
structure NamedPipe where
  place : Place
  pipe : Nat
  /-- How often each side was opened. -/
  readers : Nat
  writers : Nat
deriving DecidableEq, Repr, Inhabited

/-! ## 2. The system -/

/-- The processes of a system, and what they share apart from files. -/
structure Table where
  now : Moment
  /-- The number of the next process. -/
  next : Nat
  processes : List Process
  /-- The streams that are open, by number. -/
  opened : List (Nat × Stream)
  /-- What is in the pipes, by number. -/
  pipes : List (Nat × List UInt8)
  named : List NamedPipe
  /-- The number of the next stream or pipe. -/
  fresh : Nat
deriving Inhabited

/-- Processes and files. -/
structure System extends Table where
  files : FileTree
deriving Inhabited

/-- The system as one process sees it: `processes` are the others. -/
structure Turn extends System where
  me : Process
deriving Inhabited

namespace Turn

/-- Changes the process that is on. -/
def mine (change : Process → Process) (turn : Turn) : Turn := { turn with me := change turn.me }

/-- Sets the status. -/
def withStatus (status : Nat) (turn : Turn) : Turn := turn.mine (·.withStatus status)

/-- Sets the status for success or failure. -/
def succeeded (ok : Bool) (turn : Turn) : Turn := turn.withStatus (if ok then 0 else 1)

/-- Puts tasks in front of the others. -/
def plan (tasks : List Task) (turn : Turn) : Turn := turn.mine (·.plan tasks)

/-- Opens a stream; its number. -/
def openStream (stream : Stream) (turn : Turn) : Nat × Turn :=
  (turn.fresh,
    { turn with opened := (turn.fresh, stream) :: turn.opened, fresh := turn.fresh + 1 })

/-- Changes a stream. -/
def setStream (number : Nat) (stream : Stream) (turn : Turn) : Turn :=
  { turn with opened := turn.opened.map fun entry =>
      if entry.1 = number then (number, stream) else entry }

/-- Makes a pipe: the numbers of the pipe, of its source and of its sink. -/
def openPipe (turn : Turn) : Nat × Nat × Nat × Turn :=
  let pipe := turn.fresh
  let turn := { turn with pipes := (pipe, []) :: turn.pipes, fresh := pipe + 1 }
  let (source, turn) := turn.openStream (.source pipe)
  let (sink, turn) := turn.openStream (.sink pipe)
  (pipe, source, sink, turn)

/-- Some process has a descriptor that leads to the stream. -/
def isHeld (stream : Stream) (turn : Turn) : Bool :=
  let numbers := (turn.opened.filter (·.2 = stream)).map Prod.fst
  (turn.me :: turn.processes).any fun process =>
    process.descriptors.any fun entry => numbers.contains entry.2

/-- Some process can read from a pipe. -/
def hasReader (pipe : Nat) (turn : Turn) : Bool :=
  turn.isHeld (.source pipe) || turn.isHeld (.loop pipe)

/-- Some process can write to a pipe. -/
def hasWriter (pipe : Nat) (turn : Turn) : Bool :=
  turn.isHeld (.sink pipe) || turn.isHeld (.loop pipe)

/-- The pipe with a name at a place; it is made when somebody opens it first. -/
def namedAt (place : Place) (turn : Turn) : NamedPipe × Turn :=
  match turn.named.find? (·.place = place) with
  | some named => (named, turn)
  | none =>
    let named : NamedPipe := ⟨place, turn.fresh, 0, 0⟩
    (named, { turn with
      pipes := (turn.fresh, []) :: turn.pipes
      named := named :: turn.named
      fresh := turn.fresh + 1 })

/-- Opens a pipe with a name; whoever opens one side waits for the other. -/
def openNamed (place : Place) (reads writes : Bool) (turn : Turn) : Nat × Turn :=
  let (named, turn) := turn.namedAt place
  let awaited := if reads then turn.hasWriter named.pipe else turn.hasReader named.pipe
  let known := { named with
    readers := named.readers + if reads then 1 else 0
    writers := named.writers + if writes then 1 else 0 }
  let turn := { turn with named := turn.named.map fun (other : NamedPipe) =>
    if other.place = place then known else other }
  let stream : Stream := if reads && writes then .loop named.pipe
    else if reads then .source named.pipe else .sink named.pipe
  let (number, turn) := turn.openStream stream
  if awaited || (reads && writes) then (number, turn)
  else
    let knock : Knock := ⟨named.pipe, reads, if reads then named.writers else named.readers⟩
    (number, turn.mine fun me => { me with knocks := knock :: me.knocks })

/-- The other side of a pipe was opened since. -/
def isAnswered (knock : Knock) (turn : Turn) : Bool :=
  match turn.named.find? (·.pipe = knock.pipe) with
  | some named =>
    knock.before < (if knock.forWriter then named.writers else named.readers)
  | none => true

/-- What is in a pipe. -/
def pipeContents (pipe : Nat) (turn : Turn) : List UInt8 := (turn.pipes.lookup pipe).getD []

/-- Sets what is in a pipe. -/
def fillPipe (pipe : Nat) (contents : List UInt8) (turn : Turn) : Turn :=
  { turn with pipes := turn.pipes.map fun entry =>
      if entry.1 = pipe then (pipe, contents) else entry }

/-- What comes of reading or writing. -/
inductive Outcome (α : Type) where
  | done (value : α) (turn : Turn)
  /-- Nothing can be done at this moment. -/
  | blocked
  /-- It cannot be done at all. -/
  | failed (message : String)

/-- The bytes of a file, wherever it is. -/
def bytesAt (files : FileTree) (place : Place) : List UInt8 :=
  match files.get? place with
  | some (.file _ content) => content.bytes
  | _ => []

/-- What can be read from a device at once; nothing comes out of one that is empty. -/
def bytesOf : Device → List UInt8
  | .null => []
  | .zero | .full => List.replicate 4096 0
  | .random => (List.range 4096).map fun n => UInt8.ofNat (n * n + n / 256)

/-- What is wrong with a device that is full. -/
def noRoom : String := "No space left on device"

/-- Writes to a descriptor. -/
def write (descriptor : Nat) (bytes : List UInt8) (turn : Turn) : Outcome Unit :=
  match turn.me.stream? descriptor with
  | none => .failed "Bad file descriptor"
  | some number =>
    match turn.opened.lookup number with
    | some (.device .full) => if bytes = [] then .done () turn else .failed noRoom
    | some (.device _) | some (.log _) => .done () turn
    | some (.file place offset appends) =>
      match turn.files.get? place with
      | some (.file mode content) =>
        let old := content.bytes
        let start := if appends then old.length else offset
        let gap := List.replicate (start - old.length) 0
        let new := old.take start ++ gap ++ bytes ++ old.drop (start + bytes.length)
        let files := (turn.files.put place (.file mode (.octets new))).stamp place
        .done () ({ turn with files }.setStream number
          (.file place (start + bytes.length) appends))
      | _ => .done () turn
    | some (.sink pipe) | some (.loop pipe) =>
      if !turn.hasReader pipe then .failed "Broken pipe"
      else
        let contents := turn.pipeContents pipe
        if contents.length < pipeRoom || bytes = [] then
          .done () (turn.fillPipe pipe (contents ++ bytes))
        else .blocked
    | _ => .failed "Bad file descriptor"

/-- Takes bytes from a descriptor: as many as `enough` says of those that are there, and `none` at
the end.  `enough` gets to know whether more may come, and answers `none` to wait for it. -/
def read (descriptor : Nat) (enough : Bool → List UInt8 → Option Nat) (turn : Turn) :
    Outcome (Option (List UInt8)) :=
  let take (more : Bool) (there : List UInt8) (keep : List UInt8 → Turn) :
      Outcome (Option (List UInt8)) :=
    if there = [] && !more then .done none turn
    else
      match enough more there with
      | none => .blocked
      | some n => .done (some (there.take n)) (keep (there.drop n))
  match turn.me.stream? descriptor with
  | none => .failed "Bad file descriptor"
  | some number =>
    match turn.opened.lookup number with
    | some (.device device) => take false (bytesOf device) fun _ => turn
    | some (.document rest) => take false rest fun left => turn.setStream number (.document left)
    | some (.file place offset appends) =>
      let bytes := bytesAt turn.files place
      take false (bytes.drop offset) fun left =>
        turn.setStream number (.file place (max offset (bytes.length - left.length)) appends)
    | some (.source pipe) | some (.loop pipe) =>
      take (turn.hasWriter pipe) (turn.pipeContents pipe) fun left => turn.fillPipe pipe left
    | _ => .failed "Bad file descriptor"

/-- Writes at once, or not at all. -/
def tell (descriptor : Nat) (text : String) (turn : Turn) : Turn :=
  match turn.write descriptor (Octets.toBytes text) with
  | .done _ turn => turn
  | .blocked | .failed _ => turn

/-- Complains in the name of the script, with the line of the command that is on. -/
def complainAs (label message : String) (turn : Turn) : Turn :=
  turn.tell 2 (turn.me.name ++ (if turn.me.isRich then ": line " else ": ") ++
    String.ofList (Digits.ofNat turn.me.line) ++ ": " ++ label ++ message ++ "\n")

/-- `complainAs` under the label of the process. -/
def complain (message : String) (turn : Turn) : Turn := turn.complainAs turn.me.label message

/-- All that is there, or at least something. -/
def anything (more : Bool) (there : List UInt8) : Option Nat :=
  if there = [] && more then none else some there.length

/-- Up to the end of a line. -/
def lineOf (more : Bool) (there : List UInt8) : Option Nat :=
  match there.idxOf? 10 with
  | some n => some (n + 1)
  | none => if more then none else some there.length

end Turn

end RenderSync.Shell
