import RenderSync.Engine.Handlers

/-!
# An engine on a bench

An engine whose parts are reached one by one, and whose peer is moved by hand: each operation on a
part is an operation on the bench that leaves the other parts alone.  The bench remembers which
processes it saw running, in the order in which they came, and what handlers noted.
-/

namespace RenderSync

/-- Time passes until something holds, but no longer than `fuel` ticks. -/
def World.await (holds : World → Bool) (fuel : Nat) (world : World) : World :=
  let (_, processes, files) := world.processes.passUntil
    (fun processes files => holds { world with processes, files }) fuel world.files
  { world with processes, files }

/-- An engine on a bench. -/
structure Bench (ι : Type) where
  engine : Engine ι
  /-- The processes that were seen running, by number. -/
  seenRunning : List Nat
  /-- What handlers noted, oldest first. -/
  notes : List Json

namespace Bench

variable {ι : Type} {α : Type}

/-- Nothing seen yet. -/
def ofEngine (engine : Engine ι) : Bench ι := ⟨engine, [], []⟩

/-! ## 1. Parts -/

/-- What is outside. -/
def world (bench : Bench ι) : World := bench.engine.resources.world

/-- The files. -/
def files (bench : Bench ι) : FileTree := bench.world.files

/-- The session with the server. -/
def session (bench : Bench ι) : Session := bench.engine.resources.session

/-- The library. -/
def library (bench : Bench ι) : Library ι := bench.engine.resources.library

/-- Changes the world. -/
def mapWorld (change : World → World) (bench : Bench ι) : Bench ι :=
  { bench with engine.resources.world := change bench.world }

/-- Changes the network. -/
def mapNetwork (change : Network → Network) : Bench ι → Bench ι :=
  mapWorld fun world => { world with network := change world.network }

/-- Changes the session. -/
def mapSession (change : Session → Session) (bench : Bench ι) : Bench ι :=
  { bench with engine.resources.session := change bench.session }

/-- Does something to the files. -/
def onFiles (operation : FileTree → α × FileTree) (bench : Bench ι) : α × Bench ι :=
  let (answer, files) := operation bench.files
  (answer, bench.mapWorld fun world => { world with files })

/-- Does something to the session. -/
def onSession (operation : Session → World → α × Session × World) (bench : Bench ι) :
    α × Bench ι :=
  let (answer, resources) := bench.engine.resources.withSession operation
  (answer, { bench with engine.resources := resources })

/-- Does something to the library. -/
def onLibrary (operation : Library ι → FileTree → α × Library ι × FileTree) (bench : Bench ι) :
    α × Bench ι :=
  let (answer, library, files) := operation bench.library bench.files
  (answer, { bench with engine.resources.library := library }.mapWorld
    fun world => { world with files })

/-- Does something to the channel. -/
def onChannel (operation : Channel → Network → α × Channel × Network) (bench : Bench ι) :
    α × Bench ι :=
  let (answer, channel, network) := operation bench.session.channel bench.world.network
  (answer, (bench.mapSession fun session => { session with channel }).mapNetwork fun _ => network)

/-- The channel of a bench. -/
def channelPlace : Channel.Place (Bench ι) where
  get bench := bench.session.channel
  set channel := mapSession fun session => { session with channel }

/-! ## 2. The peer -/

/-- A handler's note. -/
def note (entry : Json) (bench : Bench ι) : Bool × Bench ι :=
  (true, { bench with notes := bench.notes ++ [entry] })

/-- A handler that notes whole frames under a label. -/
def noteFrame (label : List Json) : Handler (Bench ι) :=
  fun frame => note (.array (label ++ [frame]))

/-- A table in which events are noted as they were understood. -/
def noteEvents (kind : EventKind) (table : HandlerTable (Bench ι)) : HandlerTable (Bench ι) :=
  table.on kind fun event => note (.array [.string "typed", event.frame])

/-- Whether a connection was ever made to a port. -/
def wasReached (port : UInt16) (bench : Bench ι) : Bool :=
  !(bench.world.network.receivedOn port).isEmpty

/-- The peer says no more, and the channel notices. -/
def stopReading (bench : Bench ι) : Bench ι :=
  bench.mapSession fun session => { session with channel := session.channel.stopReading }

/-- The peer throws the connection away, and the channel notices. -/
def resetPeer (bench : Bench ι) : Bench ι :=
  match bench.session.channel.connection with
  | none => bench
  | some connection => (bench.mapNetwork (·.reset connection.number)).stopReading

/-- Bytes arrive: they go to `table`, or without one to the engine itself. -/
def receive (loader : LibraryLoader ι) (now : Moment) (table : Option (HandlerTable (Bench ι)))
    (bytes : List UInt8) (bench : Bench ι) : Bench ι :=
  match table with
  | some table => Channel.receive channelPlace table bytes bench
  | none => { bench with engine := bench.engine.receive loader now bytes }

/-! ## 3. Time -/

/-- Takes down the process that runs. -/
def look (bench : Bench ι) : Bench ι :=
  match bench.session.cliNumber? bench.world with
  | none => bench
  | some number =>
    if bench.seenRunning.contains number then bench
    else { bench with seenRunning := bench.seenRunning ++ [number] }

/-- Which of the processes that were seen is the one that runs. -/
def running? (bench : Bench ι) : Option Nat :=
  (bench.session.cliNumber? bench.world).bind bench.seenRunning.idxOf?

/-- Forgets what handlers noted and what happened to the library. -/
def clear (bench : Bench ι) : Bench ι :=
  { bench with notes := [], engine.resources.library.slot.events := [] }

/-- The end of the engine, and what it does to the library. -/
def finish (loader : LibraryLoader ι) (bench : Bench ι) : Bench ι :=
  let cleared := bench.clear
  { cleared with engine := cleared.engine.finish loader }

end Bench

end RenderSync
