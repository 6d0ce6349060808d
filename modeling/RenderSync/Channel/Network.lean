import RenderSync.Channel.Host
import RenderSync.Failure
import RenderSync.Settings.Basic

/-!
# The network

Listeners, on this host and on others that can be reached, and the connections that they accepted,
seen from the peer: what it received, and whether it still takes anything.  A network that is down
reaches nobody.
-/

namespace RenderSync

/-- The peer's end of a connection. -/
structure Peer where
  port : UInt16
  received : List UInt8
  /-- The peer has reset the connection. -/
  isReset : Bool
deriving DecidableEq, Repr, Inhabited

/-- Listeners and the connections they accepted, oldest first. -/
structure Network where
  isUp : Bool
  /-- The ports of this host where somebody listens. -/
  listening : List UInt16
  /-- The other hosts that can be reached, as they are written, each with the ports where somebody
  listens there. -/
  remote : List (String × List UInt16)
  peers : List Peer
deriving DecidableEq, Repr, Inhabited

namespace Network

/-- A network that reaches nobody. -/
def isolated : Network := ⟨false, [], [], []⟩

/-- The ports where somebody listens on a host, if it can be reached. -/
def portsOf? (ip : String) (network : Network) : Option (List UInt16) :=
  if !network.isUp then none
  else if (Host.ofText ip).isLoopback then some network.listening
  else network.remote.lookup ip

/-- Connects; answers which connection it is. -/
def connect (ip : String) (port : UInt16) (network : Network) :
    Except ChannelError Nat × Network :=
  let address := ServerConfig.addressOf ip port
  if ip.toList.contains '\x00' then (.error (.io address .malformedAddress), network)
  else
    match network.portsOf? ip with
    | none => (.error (.io address (Host.ofText ip).faultAlone), network)
    | some listening =>
      if !listening.contains port then (.error (.refused address), network)
      else
        (.ok network.peers.length, { network with peers := network.peers ++ [⟨port, [], false⟩] })

/-- Sends bytes on a connection; answers whether they were taken. -/
def send (connection : Nat) (bytes : List UInt8) (network : Network) : Bool × Network :=
  match network.peers[connection]? with
  | none => (false, network)
  | some peer =>
    if peer.isReset then (false, network)
    else
      (true,
        { network with
          peers := network.peers.set connection { peer with received := peer.received ++ bytes } })

/-- A peer resets its connection. -/
def reset (connection : Nat) (network : Network) : Network :=
  { network with
    peers := network.peers.modify connection fun peer => { peer with isReset := true } }

/-- Nobody listens on a port of this host any more. -/
def closeListener (port : UInt16) (network : Network) : Network :=
  { network with listening := network.listening.filter (· != port) }

/-- What arrived at a port, connection by connection. -/
def receivedOn (port : UInt16) (network : Network) : List (List UInt8) :=
  (network.peers.filter (·.port == port)).map Peer.received

end Network

end RenderSync
