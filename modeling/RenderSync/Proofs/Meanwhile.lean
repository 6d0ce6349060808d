import RenderSync.Proofs.Lines
import RenderSync.Proofs.Passes

/-!
# Connecting while others act

To connect takes a while, and others act meanwhile: files and processes change, and a peer may
close or reset the connection between two of the bootstrap commands, so that the next one cannot be
sent.  `Session.connectAmid` is `Session.connect` with anything of that kind happening between its
steps, and without it the two are the same (`connectAmid_undisturbed`).  Others can do whatever
they like, except that what a peer has received stays received (`Network.Keeps`).

Whatever they do there are three ways for it to end (`ConnectWay`).  A session that is set up
already stays as it is.  A connect that fails leaves no connection, and what was applied before
stays applied.  And one that succeeds has applied its configuration to a connection on which exactly
the bootstrap commands were sent so far, in order.
-/

namespace RenderSync

/-! ## 1. What peers have received -/

namespace Network

/-- What was sent on a connection. -/
def received? (connection : Nat) (network : Network) : Option (List UInt8) :=
  network.peers[connection]?.map Peer.received

/-- Nothing is sent, and what was sent stays. -/
def Keeps (before after : Network) : Prop :=
  ∀ connection bytes, before.received? connection = some bytes →
    after.received? connection = some bytes

/-- What was sent stays, and more may be sent. -/
def Extends (before after : Network) : Prop :=
  ∀ connection bytes, before.received? connection = some bytes →
    ∃ more, after.received? connection = some (bytes ++ more)

theorem Keeps.extends {before after : Network} (h : before.Keeps after) : before.Extends after :=
  fun connection bytes hbytes => ⟨[], by rw [List.append_nil]; exact h connection bytes hbytes⟩

theorem Extends.refl (network : Network) : network.Extends network :=
  Keeps.extends fun _ _ hbytes => hbytes

theorem Extends.trans {first second third : Network} (h : first.Extends second)
    (h' : second.Extends third) : first.Extends third := by
  intro connection bytes hbytes
  obtain ⟨more, hmore⟩ := h connection bytes hbytes
  obtain ⟨rest, hrest⟩ := h' connection (bytes ++ more) hmore
  exact ⟨more ++ rest, by rw [hrest, List.append_assoc]⟩

/-- What is taken is received behind what was sent before; what is not taken changes nothing. -/
theorem received?_send {network : Network} {connection : Nat} {old : List UInt8}
    (h : network.received? connection = some old) (bytes : List UInt8) :
    (network.send connection bytes).2.received? connection =
      some (old ++ if (network.send connection bytes).1 then bytes else []) := by
  obtain ⟨peer, hpeer, rfl⟩ := Option.map_eq_some_iff.mp h
  have hlt : connection < network.peers.length := (List.getElem?_eq_some_iff.mp hpeer).1
  unfold send
  rw [hpeer]
  dsimp only
  split
  · rw [if_neg Bool.false_ne_true, List.append_nil]
    exact h
  · rw [if_pos rfl, received?, List.getElem?_set_self hlt]
    rfl

/-- Nothing is sent on another connection. -/
theorem received?_send_of_ne {network : Network} {connection other : Nat}
    (h : other ≠ connection) (bytes : List UInt8) :
    (network.send connection bytes).2.received? other = network.received? other := by
  unfold send received?
  split
  · rfl
  · split
    · rfl
    · dsimp only
      rw [List.getElem?_set_ne h.symm]

theorem extends_send (network : Network) (connection : Nat) (bytes : List UInt8) :
    network.Extends (network.send connection bytes).2 := by
  intro other old hold
  by_cases hsame : other = connection
  · subst hsame
    exact ⟨_, received?_send hold bytes⟩
  · exact ⟨[], by rw [received?_send_of_ne hsame, hold, List.append_nil]⟩

/-- Nothing was sent yet on a connection that was just accepted. -/
theorem received?_of_connect {ip : String} {port : UInt16} {network connected : Network}
    {connection : Nat} (h : network.connect ip port = (.ok connection, connected)) :
    connected.received? connection = some [] := by
  unfold Network.connect at h
  dsimp only at h
  split at h
  · cases h
  · split at h
    · cases h
    · split at h
      · cases h
      · cases h
        simp [received?]

end Network

/-! ## 2. Others -/

/-- What others do. -/
structure Outside where
  change : World → World
  keeps : ∀ world : World, world.network.Keeps (change world).network

/-- Nothing. -/
def Outside.nothing : Outside := ⟨id, fun _ _ _ hbytes => hbytes⟩

/-- What others do while a session is connected. -/
structure Meanwhile where
  /-- Once what is in the way has been taken down. -/
  beforeProcess : Outside
  /-- Once the process was seen to. -/
  beforeConnection : Outside
  /-- Before each of the bootstrap commands, by its place. -/
  beforeCommand : Nat → Outside

/-- Nothing. -/
def Meanwhile.nothing : Meanwhile := ⟨.nothing, .nothing, fun _ => .nothing⟩

namespace Channel

/-- Sends lines until one fails, while others act before each. -/
def sendAllAmid (before : Nat → Outside) :
    List String → Nat → Channel → World → Except ChannelError Unit × World
  | [], _, _, world => (.ok (), world)
  | text :: rest, place, channel, world =>
    let world := (before place).change world
    match channel.send text world.network with
    | (.ok (), network) =>
      sendAllAmid before rest (place + 1) channel { world with network := network }
    | (.error e, network) => (.error e, { world with network := network })

/-- A line that is sent is received. -/
theorem send_ok {channel : Channel} {connection : Connection}
    (hheld : channel.connection = some connection) {text : String} {network after : Network}
    {old : List UInt8} (hold : network.received? connection.number = some old)
    (hsent : channel.send text network = (.ok (), after)) :
    after.received? connection.number = some (old ++ Framing.bytes text) := by
  have hreceived := Network.received?_send hold (Framing.bytes text)
  simp only [send, hheld] at hsent
  rcases hstep : network.send connection.number (Framing.bytes text) with ⟨_ | _, taken⟩ <;>
    rw [hstep] at hsent hreceived
  · cases hsent
  · cases hsent
    exact hreceived

/-- **If all lines could be sent then exactly they were received**, in order and behind what was
sent before. -/
theorem sendAllAmid_ok {before : Nat → Outside} {channel : Channel} {connection : Connection}
    (hheld : channel.connection = some connection) (texts : List String) :
    ∀ {place : Nat} {world after : World} {old : List UInt8},
      world.network.received? connection.number = some old →
      channel.sendAllAmid before texts place world = (.ok (), after) →
      after.network.received? connection.number = some (old ++ texts.flatMap Framing.bytes) := by
  induction texts with
  | nil =>
    intro place world after old hold hall
    cases hall
    rw [List.flatMap_nil, List.append_nil]
    exact hold
  | cons text rest ih =>
    intro place world after old hold hall
    rw [sendAllAmid] at hall
    have hkept := (before place).keeps world connection.number old hold
    rcases hsent : channel.send text ((before place).change world).network with
      ⟨e | ⟨⟩, network⟩ <;> rw [hsent] at hall
    · cases hall
    · have hline := send_ok hheld hkept hsent
      rw [List.flatMap_cons, ← List.append_assoc]
      exact ih hline hall

/-- Undisturbed it is the sending of lines. -/
theorem sendAllAmid_undisturbed (texts : List String) (channel : Channel) :
    ∀ (place : Nat) (world : World),
      channel.sendAllAmid (fun _ => .nothing) texts place world =
        ((channel.sendAll texts world.network).1,
          { world with network := (channel.sendAll texts world.network).2 }) := by
  induction texts with
  | nil => exact fun _ _ => rfl
  | cons text rest ih =>
    intro place world
    have hquiet : Outside.nothing.change world = world := rfl
    rw [sendAllAmid, sendAll, hquiet]
    rcases channel.send text world.network with ⟨e | ⟨⟩, network⟩
    · rfl
    · exact ih (place + 1) { world with network := network }

end Channel

namespace Session

/-! ## 3. Connecting -/

/-- Connects and sends the bootstrap commands, while others act before each of them. -/
def connectChannelAmid (before : Nat → Outside) (config : ServerConfig) (session : Session)
    (world : World) : Except ServerError Unit × Session × World :=
  match session.channel.connect config.ip config.port world.network with
  | (.error e, channel, network) =>
    (.error (.channel e), { session with channel := channel }, { world with network := network })
  | (.ok (), channel, network) =>
    let texts := (session.bootstrap.commands world.files).map Command.line
    match channel.sendAllAmid before texts 0 { world with network := network } with
    | (.ok (), world) =>
      (.ok (), { session with channel := channel, applied := some config }, world)
    | (.error e, world) =>
      (.error (.channel e), { session with channel := channel.disconnect }, world)

/-- A session that is not set up as it shall be, once it was taken down and the process was seen
to. -/
def readied (meanwhile : Meanwhile) (config : ServerConfig) (session : Session) (world : World) :
    Except ServerError Unit × Session × World :=
  let (session, world) := session.down world
  let (result, session, world) :=
    session.ensureCli config (meanwhile.beforeProcess.change world)
  (result, session, meanwhile.beforeConnection.change world)

/-- **Sets up a session while others act.** -/
def connectAmid (meanwhile : Meanwhile) (config : ServerConfig) (session : Session)
    (world : World) : Except ServerError Unit × Session × World :=
  if session.channel.isConnected && session.current.applies config then (.ok (), session, world)
  else
    match session.readied meanwhile config world with
    | (.error e, session, world) => (.error e, session, world)
    | (.ok (), session, world) =>
      session.connectChannelAmid meanwhile.beforeCommand config world

theorem connectChannelAmid_undisturbed (config : ServerConfig) (session : Session)
    (world : World) :
    session.connectChannelAmid (fun _ => .nothing) config world =
      session.connectChannel config world := by
  unfold connectChannelAmid connectChannel
  rcases session.channel.connect config.ip config.port world.network with
    ⟨e | ⟨⟩, channel, network⟩
  · rfl
  · dsimp only
    rw [Channel.sendAllAmid_undisturbed]
    rcases channel.sendAll ((session.bootstrap.commands world.files).map Command.line) network with
      ⟨e | ⟨⟩, sent⟩
    · rfl
    · rfl

/-- **Undisturbed it is connecting.** -/
theorem connectAmid_undisturbed (config : ServerConfig) (session : Session) (world : World) :
    session.connectAmid .nothing config world = session.connect config world := by
  by_cases hserves : session.ServesAs config
  · rw [connect_of_servesAs world hserves, connectAmid, hserves.check]
    rfl
  · have hready : session.readied .nothing config world =
        (session.down world).1.ensureCli config (session.down world).2 := rfl
    rw [connect_of_not_servesAs world hserves, connectAmid, check_of_not_servesAs hserves, hready]
    rcases (session.down world).1.ensureCli config (session.down world).2 with
      ⟨e | ⟨⟩, ready, after⟩
    · rfl
    · exact connectChannelAmid_undisturbed config ready after

/-- Stopping the process and letting the connection go touches neither the configuration nor what
the server is told. -/
theorem disconnect_keeps {session : Session} (h : session.Sound) (world : World) :
    (session.disconnect world).1.applied = session.applied ∧
      (session.disconnect world).1.bootstrap = session.bootstrap := by
  cases hidle : session.channel.address.isNone && session.launched.isNone &&
      !session.cli.isOpen with
  | true =>
    have hstays : session.disconnect world = (session, world) := by
      unfold disconnect
      rw [hidle]
      rfl
    rw [hstays]
    exact ⟨rfl, rfl⟩
  | false =>
    rw [disconnect_of_busy hidle]
    have honly := stopCli_processOnly h world
    exact ⟨honly.applied, honly.bootstrap⟩

theorem down_keeps {session : Session} (h : session.Sound) (world : World) :
    (session.down world).1.applied = session.applied ∧
      (session.down world).1.bootstrap = session.bootstrap := by
  unfold down
  split
  · exact disconnect_keeps h world
  · exact ⟨rfl, rfl⟩

/-- **What readying leaves**: no connection, and neither the configuration nor what the server is
told has changed. -/
theorem readied_spec {session : Session} (h : session.Sound) (meanwhile : Meanwhile)
    (config : ServerConfig) (world : World) :
    let ready := (session.readied meanwhile config world).2.1
    ready.Sound ∧ ready.channel.isConnected = false ∧ ready.applied = session.applied ∧
      ready.bootstrap = session.bootstrap := by
  obtain ⟨hdown, hclosed⟩ := h.down world
  obtain ⟨happlied, hbootstrap⟩ := down_keeps h world
  obtain ⟨hsound, honly⟩ := hdown.ensureCli config
    (meanwhile.beforeProcess.change (session.down world).2)
  refine ⟨hsound, ?_, honly.applied.trans happlied, honly.bootstrap.trans hbootstrap⟩
  exact (congrArg Channel.isConnected honly.channel).trans hclosed

/-- What the server is told by a connect. -/
def greeting (meanwhile : Meanwhile) (config : ServerConfig) (session : Session) (world : World) :
    List Command :=
  session.bootstrap.commands (session.readied meanwhile config world).2.2.files

/-- **The three ways for a connect to end.** -/
inductive ConnectWay (meanwhile : Meanwhile) (config : ServerConfig) (session : Session)
    (world : World) : Except ServerError Unit × Session × World → Prop
  /-- The session was set up already. -/
  | kept (hserves : session.ServesAs config) :
    ConnectWay meanwhile config session world (.ok (), session, world)
  /-- Something is missing, or failed. -/
  | failed {e : ServerError} {after : Session} {later : World}
    (hnot : ¬session.ServesAs config) (hsound : after.Sound)
    (happlied : after.applied = session.applied)
    (hclosed : after.channel.isConnected = false) :
    ConnectWay meanwhile config session world (.error e, after, later)
  /-- There is a new connection, and the bootstrap commands were sent on it. -/
  | opened {after : Session} {later : World} {number : Nat}
    (hnot : ¬session.ServesAs config) (hsound : after.Sound)
    (happlied : after.applied = some config)
    (hchannel : after.channel = freshChannel config number)
    (hsent : later.network.received? number =
      some (((session.greeting meanwhile config world).map Command.line).flatMap Framing.bytes)) :
    ConnectWay meanwhile config session world (.ok (), after, later)

/-- What setting up the connection can come to, while others act. -/
theorem connectChannelAmid_cases (config : ServerConfig) {session : Session}
    (hclosed : session.channel.isConnected = false) (before : Nat → Outside) (world : World) :
    (∃ e later, session.connectChannelAmid before config world =
      (.error e, { session with channel := .idle }, later)) ∨
    ∃ number later, session.connectChannelAmid before config world =
        (.ok (), { session with channel := freshChannel config number, applied := some config },
          later) ∧
      later.network.received? number = some (((session.bootstrap.commands world.files).map
        Command.line).flatMap Framing.bytes) := by
  have hchannel := Channel.connect_eq hclosed config.ip config.port world.network
  rcases hconnect : world.network.connect config.ip config.port with ⟨e | number, network⟩
  · rw [hconnect] at hchannel
    exact Or.inl ⟨.channel e, { world with network := network }, by
      simp only [connectChannelAmid, hchannel]⟩
  · rw [hconnect] at hchannel
    have hfresh : ({ world with network := network } : World).network.received? number =
        some [] := Network.received?_of_connect hconnect
    have hheld : (freshChannel config number).connection =
        some ⟨ServerConfig.addressOf config.ip config.port, number, true, []⟩ := rfl
    rcases hsend : (freshChannel config number).sendAllAmid before
      ((session.bootstrap.commands world.files).map Command.line) 0
      { world with network := network } with ⟨e | ⟨⟩, later⟩
    · rw [freshChannel] at hsend
      exact Or.inl ⟨_, _, by simp only [connectChannelAmid, hchannel, hsend]; rfl⟩
    · have hall := Channel.sendAllAmid_ok hheld _ hfresh hsend
      rw [List.nil_append] at hall
      refine Or.inr ⟨number, later, ?_, hall⟩
      rw [freshChannel] at hsend
      simp only [connectChannelAmid, hchannel, hsend, freshChannel]

/-- **Every connect ends in one of these ways**, whatever others do meanwhile. -/
theorem connectAmid_way {session : Session} (h : session.Sound) (meanwhile : Meanwhile)
    (config : ServerConfig) (world : World) :
    ConnectWay meanwhile config session world (session.connectAmid meanwhile config world) := by
  unfold connectAmid
  split
  · next hboth => exact .kept (Bool.and_eq_true_iff.mp hboth)
  next hboth =>
  have hnot : ¬session.ServesAs config := fun hserves =>
    hboth (Bool.and_eq_true_iff.mpr hserves)
  obtain ⟨hsound, hclosed, happlied, hbootstrap⟩ := readied_spec h meanwhile config world
  -- the options are those of the session before, which readying has not touched
  have hgreeting : session.greeting meanwhile config world =
      (session.readied meanwhile config world).2.1.bootstrap.commands
        (session.readied meanwhile config world).2.2.files := by
    rw [hbootstrap]
    rfl
  have hopened : ∀ {after : Session} {later : World} {number : Nat}, after.Sound →
      after.applied = some config → after.channel = freshChannel config number →
      later.network.received? number = some (((session.readied meanwhile config
        world).2.1.bootstrap.commands (session.readied meanwhile config world).2.2.files).map
          Command.line |>.flatMap Framing.bytes) →
      ConnectWay meanwhile config session world (.ok (), after, later) := by
    intro after later number hsound happlied hchannel hsent
    rw [← hgreeting] at hsent
    exact .opened hnot hsound happlied hchannel hsent
  rcases hready : session.readied meanwhile config world with ⟨e | ⟨⟩, ready, later⟩ <;>
    rw [hready] at hsound hclosed happlied hopened
  · exact .failed hnot hsound happlied hclosed
  · dsimp only at hsound hclosed happlied hopened ⊢
    rcases connectChannelAmid_cases config hclosed meanwhile.beforeCommand later with
      ⟨e, last, he⟩ | ⟨number, last, he, hsent⟩
    · rw [he]
      exact .failed hnot (hsound.congr rfl rfl) happlied rfl
    · rw [he]
      exact hopened (hsound.congr rfl rfl) rfl rfl hsent

end Session

end RenderSync
