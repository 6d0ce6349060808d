import RenderSync.Proofs.Session

/-!
# Connections: what connecting promises and what it takes

A connection that was just accepted takes everything that is sent on it (`sendAll_of_open`): the
peer resets a connection only by itself, never because of what it receives.  So the bootstrap
commands cannot fail on a network that does not change meanwhile, and what connecting takes is
the process and an address that accepts (`Serves`).

In the other direction there is one promise: a session that `connect` was successful with has a
reader at work and the configuration applied (`ServesAs`), whichever way it came to that, and it
says so of itself afterwards (`connect_spec`).
-/

namespace RenderSync

/-! ## 1. Sending on a fresh connection -/

namespace Network

/-- The peer of a connection takes what is sent. -/
def IsOpen (network : Network) (connection : Nat) : Prop :=
  ∃ peer, network.peers[connection]? = some peer ∧ peer.isReset = false

/-- Sending does not close a connection. -/
theorem IsOpen.send {network : Network} {connection : Nat} (h : network.IsOpen connection)
    (bytes : List UInt8) :
    (network.send connection bytes).1 = true ∧ (network.send connection bytes).2.IsOpen connection
    := by
  obtain ⟨peer, hpeer, hreset⟩ := h
  have hlt : connection < network.peers.length := (List.getElem?_eq_some_iff.mp hpeer).1
  have hsend : network.send connection bytes =
      (true, { network with
        peers := network.peers.set connection
          { peer with received := peer.received ++ bytes } }) := by
    simp [Network.send, hpeer, hreset]
  rw [hsend]
  exact ⟨rfl, { peer with received := peer.received ++ bytes },
    List.getElem?_set_self hlt, hreset⟩

/-- A connection that was accepted is open. -/
theorem isOpen_of_connect {ip : String} {port : UInt16} {network connected : Network}
    {connection : Nat} (h : network.connect ip port = (.ok connection, connected)) :
    connected.IsOpen connection := by
  unfold Network.connect at h
  dsimp only at h
  split at h
  · cases h
  · split at h
    · cases h
    · split at h
      · cases h
      · cases h
        exact ⟨⟨port, [], false⟩, List.getElem?_concat_length, rfl⟩

end Network

namespace Channel

/-- **Everything can be sent on an open connection.** -/
theorem sendAll_of_open {channel : Channel} {connection : Connection}
    (hheld : channel.connection = some connection) (texts : List String) :
    ∀ {network : Network}, network.IsOpen connection.number →
      (channel.sendAll texts network).1 = .ok () := by
  induction texts with
  | nil => exact fun _ => rfl
  | cons text rest ih =>
    intro network hopen
    obtain ⟨hsent, hstill⟩ := hopen.send (Framing.bytes text)
    rcases hsend : network.send connection.number (Framing.bytes text) with ⟨taken, after⟩
    rw [hsend] at hsent hstill
    obtain rfl : taken = true := hsent
    have hline : channel.send text network = (.ok (), after) := by
      simp only [send, hheld, hsend]
    simp only [sendAll, hline]
    exact ih hstill

/-- **What connecting comes to**: a reader that is at work already refuses, otherwise the network
decides, and what was held before is gone in any case. -/
theorem connect_eq {channel : Channel} (h : channel.isConnected = false) (ip : String)
    (port : UInt16) (network : Network) :
    channel.connect ip port network =
      match network.connect ip port with
      | (.error e, network) => (.error e, idle, network)
      | (.ok number, network) =>
        (.ok (), ⟨some ⟨ServerConfig.addressOf ip port, number, true, []⟩⟩, network) := by
  obtain ⟨connection⟩ := channel
  cases connection with
  | none => rfl
  | some connection =>
    obtain ⟨address, number, reading, pending⟩ := connection
    obtain rfl : reading = false := h
    rfl

end Channel

namespace Session

/-! ## 2. Connecting -/

/-- A session that is set up with a configuration. -/
def ServesAs (config : ServerConfig) (session : Session) : Prop :=
  session.current.connected = true ∧ session.current.applies config = true

/-- A connect checks for this first. -/
theorem ServesAs.check {config : ServerConfig} {session : Session} (h : session.ServesAs config) :
    (session.channel.isConnected && session.current.applies config) = true :=
  Bool.and_eq_true_iff.mpr h

theorem check_of_not_servesAs {config : ServerConfig} {session : Session}
    (h : ¬session.ServesAs config) :
    (session.channel.isConnected && session.current.applies config) = false :=
  Bool.eq_false_iff.mpr fun hboth => h (Bool.and_eq_true_iff.mp hboth)

/-- **What connecting takes**: the process can be had, and the address accepts a connection. -/
structure Serves (config : ServerConfig) (session : Session) (world : World) : Prop where
  launches : Launches config session world
  accepts : ∃ number, (world.network.connect config.ip config.port).1 = .ok number

/-- Setting up the connection does not touch the process. -/
theorem connectChannel_cli (config : ServerConfig) (session : Session) (world : World) :
    (session.connectChannel config world).2.1.cli = session.cli ∧
      (session.connectChannel config world).2.1.supervisor = session.supervisor := by
  unfold connectChannel
  split
  · exact ⟨rfl, rfl⟩
  · dsimp only
    split <;> exact ⟨rfl, rfl⟩

/-- The channel of a connection that was just accepted. -/
def freshChannel (config : ServerConfig) (number : Nat) : Channel :=
  ⟨some ⟨ServerConfig.addressOf config.ip config.port, number, true, []⟩⟩

/-- **What setting up the connection can come to**: the address does not accept, and then nothing
is held; or it does, and then all the bootstrap commands are sent. -/
theorem connectChannel_cases {config : ServerConfig} {session : Session} (world : World)
    (hclosed : session.channel.isConnected = false) :
    (∃ e network, world.network.connect config.ip config.port = (.error e, network) ∧
      session.connectChannel config world =
        (.error (.channel e), { session with channel := .idle },
          { world with network := network })) ∨
    ∃ number network sent, world.network.connect config.ip config.port = (.ok number, network) ∧
      (freshChannel config number).sendAll
        ((session.bootstrap.commands world.files).map Command.line) network = (.ok (), sent) ∧
      session.connectChannel config world =
        (.ok (), { session with channel := freshChannel config number, applied := some config },
          { world with network := sent }) := by
  have hchannel := Channel.connect_eq hclosed config.ip config.port world.network
  rcases hconnect : world.network.connect config.ip config.port with ⟨e | number, network⟩
  · rw [hconnect] at hchannel
    exact Or.inl ⟨e, network, rfl, by simp only [connectChannel, hchannel]⟩
  · rw [hconnect] at hchannel
    have hheld : (freshChannel config number).connection =
        some ⟨ServerConfig.addressOf config.ip config.port, number, true, []⟩ := rfl
    have hall := Channel.sendAll_of_open hheld
      ((session.bootstrap.commands world.files).map Command.line)
      (Network.isOpen_of_connect hconnect)
    rcases hsend : (freshChannel config number).sendAll
      ((session.bootstrap.commands world.files).map Command.line) network with ⟨done, sent⟩
    rw [hsend] at hall
    obtain rfl : done = .ok () := hall
    refine Or.inr ⟨number, network, sent, rfl, hsend, ?_⟩
    rw [freshChannel] at hsend
    simp only [connectChannel, hchannel, hsend, freshChannel]

/-- Where setting up the connection succeeds, the session is set up. -/
theorem connectChannel_servesAs {config : ServerConfig} {session : Session} {world : World}
    (hclosed : session.channel.isConnected = false)
    (h : (session.connectChannel config world).1 = .ok ()) :
    (session.connectChannel config world).2.1.ServesAs config := by
  rcases connectChannel_cases world hclosed with
    ⟨e, network, -, he⟩ | ⟨number, network, sent, -, -, he⟩
  · rw [he] at h
    cases h
  · rw [he]
    exact ⟨rfl, config.same_refl⟩

/-- It succeeds where the address accepts a connection. -/
theorem connectChannel_ok {config : ServerConfig} {session : Session} {world : World}
    (hclosed : session.channel.isConnected = false)
    (haccepts : ∃ number, (world.network.connect config.ip config.port).1 = .ok number) :
    (session.connectChannel config world).1 = .ok () := by
  obtain ⟨number, haccepts⟩ := haccepts
  rcases connectChannel_cases world hclosed with
    ⟨e, network, hrefused, -⟩ | ⟨number, network, sent, -, -, he⟩
  · rw [hrefused] at haccepts
    cases haccepts
  · rw [he]

/-- A session that is set up already stays as it is. -/
theorem connect_of_servesAs {config : ServerConfig} {session : Session} (world : World)
    (h : session.ServesAs config) : session.connect config world = (.ok (), session, world) := by
  have hboth : (session.channel.isConnected && session.current.applies config) = true := by
    rw [h.2, Bool.and_true]
    exact h.1
  simp [connect, hboth]

/-- The session before the process is seen to: it is not connected. -/
def down (session : Session) (world : World) : Session × World :=
  if session.channel.isConnected then session.disconnect world else (session, world)

theorem Sound.down {session : Session} (h : session.Sound) (world : World) :
    (session.down world).1.Sound ∧ (session.down world).1.channel.isConnected = false := by
  unfold Session.down
  split
  · refine ⟨h.disconnect world, ?_⟩
    rw [Channel.isConnected, (disconnect_idle h world).1.connection]
    rfl
  · next hconnected => exact ⟨h, Bool.not_eq_true _ ▸ hconnected⟩

/-- **A session that is not set up like this**: it is taken down, then the process is seen to, and
then the connection is set up. -/
theorem connect_of_not_servesAs {config : ServerConfig} {session : Session} (world : World)
    (h : ¬session.ServesAs config) :
    session.connect config world =
      match (session.down world).1.ensureCli config (session.down world).2 with
      | (.error e, session, world) => (.error e, session, world)
      | (.ok (), session, world) => session.connectChannel config world := by
  unfold connect
  rw [check_of_not_servesAs h]
  rfl

/-- **Connecting keeps the invariant, and where it succeeds the session is set up.** -/
theorem connect_spec {session : Session} (h : session.Sound) (config : ServerConfig)
    (world : World) :
    (session.connect config world).2.1.Sound ∧
      ((session.connect config world).1 = .ok () →
        (session.connect config world).2.1.ServesAs config) := by
  by_cases hserves : session.ServesAs config
  · rw [connect_of_servesAs world hserves]
    exact ⟨h, fun _ => hserves⟩
  · rw [connect_of_not_servesAs world hserves]
    obtain ⟨hdown, hclosed⟩ := h.down world
    obtain ⟨hsound, honly⟩ := hdown.ensureCli config (session.down world).2
    rcases hensure : (session.down world).1.ensureCli config (session.down world).2 with
      ⟨_ | _, ready, world'⟩ <;> rw [hensure] at hsound honly
    · exact ⟨hsound, fun hok => by cases hok⟩
    · have hclosed' : ready.channel.isConnected = false := by
        rw [show ready.channel = (session.down world).1.channel from honly.channel]
        exact hclosed
      obtain ⟨hcli, hsupervisor⟩ := connectChannel_cli config ready world'
      exact ⟨Sound.congr hsound hcli hsupervisor, connectChannel_servesAs hclosed'⟩

/-- **Connecting succeeds where everything that it takes is there**, for a session that is not
connected, whatever else it may be. -/
theorem connect_ok_of_serves {session : Session} (h : session.Sound) {config : ServerConfig}
    {world : World} (hclosed : session.channel.isConnected = false)
    (hserves : Serves config session world) : (session.connect config world).1 = .ok () := by
  have hnot : ¬session.ServesAs config := fun hyes =>
    Bool.false_ne_true (hclosed.symm.trans hyes.1)
  have hdown : session.down world = (session, world) := by simp [down, hclosed]
  have hready := ensureCli_of_launches h hserves.launches
  obtain ⟨-, honly⟩ := h.ensureCli config world
  rw [connect_of_not_servesAs world hnot, hdown]
  dsimp only
  rcases hensure : session.ensureCli config world with ⟨done, ready, world'⟩
  rw [hensure] at hready honly
  obtain rfl : done = .ok () := hready
  have hclosed' : ready.channel.isConnected = false := by
    rw [show ready.channel = session.channel from honly.channel]
    exact hclosed
  have hnetwork : world'.network = world.network := honly.network
  exact connectChannel_ok hclosed' (hnetwork ▸ hserves.accepts)

/-! ## 3. Announcing -/

/-- An announcement changes the session in nothing. -/
theorem announce_session (command : Command) (session : Session) (world : World) :
    (session.announce command world).2.1 = session := by
  unfold announce
  split
  · rfl
  · rcases session.sendAll (command :: session.bootstrap.builds .updates) world with ⟨result, after⟩
    rfl

/-- Preferences that are stored and announced keep the invariant. -/
theorem Sound.updateBuildOnChange {session : Session} (h : session.Sound) (executable : Bool)
    (world : World) : (session.updateBuildOnChange executable world).2.1.Sound := by
  unfold Session.updateBuildOnChange
  rw [announce_session]
  exact h.congr rfl rfl

theorem Sound.updateProjectDirectory {session : Session} (h : session.Sound) (directory : Path)
    (world : World) : (session.updateProjectDirectory directory world).2.1.Sound := by
  unfold Session.updateProjectDirectory
  rw [announce_session]
  exact h.congr rfl rfl

end Session

end RenderSync
