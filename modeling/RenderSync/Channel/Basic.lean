import RenderSync.Channel.Framing
import RenderSync.Channel.Handlers
import RenderSync.Channel.Network
import RenderSync.Wire.Command

/-!
# The channel

One connection at a time, with frames both ways.  A reader takes what arrives until the peer stops
sending or a handler cannot go on; the channel counts as connected while its reader is at work.
After that the connection is stale: it is still held, so that its address is known and what is
sent is still accepted, until the channel connects again or disconnects.
-/

namespace RenderSync

/-- A connection that is held. -/
structure Connection where
  address : String
  /-- Which connection of the network it is. -/
  number : Nat
  isReading : Bool
  /-- Bytes of a line that is not complete. -/
  pending : List UInt8
deriving DecidableEq, Repr, Inhabited

/-- A channel with the connection it holds. -/
structure Channel where
  connection : Option Connection
deriving DecidableEq, Repr, Inhabited

namespace Channel

/-- No connection. -/
def idle : Channel := ⟨none⟩

/-- The reader is at work. -/
def isConnected (channel : Channel) : Bool := channel.connection.any Connection.isReading

/-- The address of the connection that is held. -/
def address (channel : Channel) : Option String := channel.connection.map Connection.address

/-- Connects, unless a reader is at work; a stale connection goes in any case. -/
def connect (ip : String) (port : UInt16) (channel : Channel) (network : Network) :
    Except ChannelError Unit × Channel × Network :=
  match channel.connection with
  | some ⟨address, _, true, _⟩ => (.error (.alreadyConnected address), channel, network)
  | _ =>
    match network.connect ip port with
    | (.error e, network) => (.error e, idle, network)
    | (.ok number, network) =>
      (.ok (), ⟨some ⟨ServerConfig.addressOf ip port, number, true, []⟩⟩, network)

/-- Sends a line. -/
def send (text : String) (channel : Channel) (network : Network) :
    Except ChannelError Unit × Network :=
  match channel.connection with
  | none => (.error .notConnected, network)
  | some connection =>
    match network.send connection.number (Framing.bytes text) with
    | (true, network) => (.ok (), network)
    | (false, network) => (.error (.io connection.address .brokenPipe), network)

/-- Sends lines until one fails. -/
def sendAll : List String → Channel → Network → Except ChannelError Unit × Network
  | [], _, network => (.ok (), network)
  | text :: rest, channel, network =>
    match channel.send text network with
    | (.ok (), network) => sendAll rest channel network
    | (.error e, network) => (.error e, network)

/-- Lets the connection go. -/
def disconnect (_ : Channel) : Channel := idle

/-- The reader stops; the connection is held. -/
def stopReading (channel : Channel) : Channel :=
  ⟨channel.connection.map fun connection => { connection with isReading := false }⟩

/-- The frames in bytes that arrive, and the channel with the bytes that wait. -/
def take (bytes : List UInt8) (channel : Channel) : List Json × Channel :=
  match channel.connection with
  | some ⟨address, number, true, pending⟩ =>
    let (frames, pending) := Framing.feed pending bytes
    (frames, ⟨some ⟨address, number, true, pending⟩⟩)
  | _ => ([], channel)

/-- A channel inside a state of any type. -/
structure Place (σ : Type) where
  get : σ → Channel
  set : Channel → σ → σ

/-- Bytes arrive: their frames go to the handlers, in order.  All of them do, even if a handler
lets the connection go; a handler that cannot go on stops the reader. -/
def receive {σ : Type} (place : Place σ) (table : HandlerTable σ) (bytes : List UInt8)
    (state : σ) : σ :=
  let (frames, channel) := (place.get state).take bytes
  match table.dispatchAll frames (place.set channel state) with
  | (true, state) => state
  | (false, state) => place.set (place.get state).stopReading state

end Channel

end RenderSync
