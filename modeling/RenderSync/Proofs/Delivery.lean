import RenderSync.Proofs.Meanwhile

/-!
# Delivery

A channel has a connection to lose: peers stop, the channel lets go, connects anew, and handlers do
the same from inside the reader.  What is sent goes to the connection that is current at that
moment, or nowhere.  `ChannelRun` keeps account of that, from the answers alone: a message is
`accepted` where the send has answered with success, and it is noted with the connection that was
current.  The other side of the account are the octets that the peers have received.

Two facts carry the invariant (`ChannelRun.Orderly`).  The current connection is the one that was
accepted last, so that nothing is noted for a connection before it is there, and nothing any more
once another one has taken its place.  And without a reset the network takes whatever is sent, so
that a send fails only before it has written anything.

Peers may write and stop on connections that are not current any more; the channel is not aware of
that.  Handlers can be any that reach the channel through its own operations (`Proper`).
-/

namespace RenderSync

/-! ## 1. Connecting and sending, once more -/

namespace Network

/-- A connect that fails changes nothing, and one that succeeds adds a connection at the end. -/
theorem connect_cases (ip : String) (port : UInt16) (network : Network) :
    (∃ e, network.connect ip port = (.error e, network)) ∨
      network.connect ip port =
        (.ok network.peers.length,
          { network with peers := network.peers ++ [⟨port, [], false⟩] }) := by
  unfold connect
  dsimp only
  split
  · exact Or.inl ⟨_, rfl⟩
  split
  · exact Or.inl ⟨_, rfl⟩
  split
  · exact Or.inl ⟨_, rfl⟩
  · exact Or.inr rfl

/-- No peer has reset its connection. -/
def Unreset (network : Network) : Prop := ∀ peer ∈ network.peers, peer.isReset = false

/-- Every connection takes what is sent on it. -/
theorem Unreset.isOpen {network : Network} (h : network.Unreset) {connection : Nat}
    (hlt : connection < network.peers.length) : network.IsOpen connection :=
  ⟨_, List.getElem?_eq_getElem hlt, h _ (List.getElem_mem hlt)⟩

/-- Sending neither makes connections nor resets them. -/
theorem Unreset.send {network : Network} (h : network.Unreset) (connection : Nat)
    (bytes : List UInt8) :
    (network.send connection bytes).2.Unreset ∧
      (network.send connection bytes).2.peers.length = network.peers.length := by
  unfold Network.send
  split
  · exact ⟨h, rfl⟩
  next peer hpeer =>
  split
  · exact ⟨h, rfl⟩
  next hopen =>
  refine ⟨fun other hother => ?_, List.length_set⟩
  rcases List.mem_or_eq_of_mem_set hother with hother | rfl
  · exact h other hother
  · exact Bool.not_eq_true _ ▸ hopen

end Network

namespace Channel

/-- Sends a message as one line.  One that has no text is refused before the connection is looked
at. -/
def sendMessage (message : Option Json) (channel : Channel) (network : Network) :
    Except ChannelError Unit × Network :=
  match message with
  | none => (.error .notEncodable, network)
  | some value => channel.send value.render network

/-- A reader that is at work refuses another connection, and nothing changes. -/
theorem connect_of_isConnected {channel : Channel} (h : channel.isConnected = true) (ip : String)
    (port : UInt16) (network : Network) :
    ∃ address, channel.address = some address ∧
      channel.connect ip port network = (.error (.alreadyConnected address), channel, network) := by
  obtain ⟨_ | ⟨address, number, reading, pending⟩⟩ := channel
  · cases h
  · obtain rfl : reading = true := h
    exact ⟨address, rfl, rfl⟩

/-- What is taken from a connection does not change which one it is. -/
theorem take_number (channel : Channel) (bytes : List UInt8) :
    (channel.take bytes).2.connection.map Connection.number =
      channel.connection.map Connection.number := by
  obtain ⟨_ | ⟨address, number, _ | _, pending⟩⟩ := channel
  · rfl
  · rfl
  · rfl

/-- Nor does a reader that stops. -/
theorem stopReading_number (channel : Channel) :
    channel.stopReading.connection.map Connection.number =
      channel.connection.map Connection.number := by
  obtain ⟨_ | connection⟩ := channel
  · rfl
  · rfl

end Channel

/-! ## 2. Runs of a channel -/

/-- An operation of a channel. -/
inductive ChannelCall where
  | connect (ip : String) (port : UInt16)
  | send (message : Option Json)
  | disconnect

/-- What can happen to a channel. -/
inductive ChannelMove where
  | call (made : ChannelCall)
  | peerWrite (number : Nat) (bytes : List UInt8)
  | peerClose (number : Nat)
  | closeListener (port : UInt16)

/-- A channel, its network, and what handlers keep for themselves. -/
structure ChannelRun (τ : Type) where
  channel : Channel
  network : Network
  /-- The messages whose sends have answered with success, oldest first, each with the connection
  that was current. -/
  accepted : List (Nat × Json)
  memory : τ

namespace ChannelRun

variable {τ : Type}

/-- Nothing has happened yet; nobody has connected in this network. -/
def start (network : Network) (memory : τ) : ChannelRun τ :=
  ⟨.idle, { network with peers := [] }, [], memory⟩

/-- The connection that the channel holds. -/
def current? (run : ChannelRun τ) : Option Nat := run.channel.connection.map Connection.number

/-- The account of a send. -/
def noted (message : Option Json) (answer : Except ChannelError Unit) (run : ChannelRun τ) :
    List (Nat × Json) :=
  match answer, run.current?, message with
  | .ok (), some number, some value => run.accepted ++ [(number, value)]
  | _, _, _ => run.accepted

/-- What an operation answers, and what it leaves. -/
def call : ChannelCall → ChannelRun τ → Except ChannelError Unit × ChannelRun τ
  | .connect ip port, run =>
    let (answer, channel, network) := run.channel.connect ip port run.network
    (answer, { run with channel := channel, network := network })
  | .send message, run =>
    let (answer, network) := run.channel.sendMessage message run.network
    (answer, { run with network := network, accepted := run.noted message answer })
  | .disconnect, run => (.ok (), { run with channel := run.channel.disconnect })

/-- Operations, one after the other. -/
def calls (list : List ChannelCall) (run : ChannelRun τ) : ChannelRun τ :=
  list.foldl (fun run made => (run.call made).2) run

/-- The channel in a run. -/
def place : Channel.Place (ChannelRun τ) where
  get := channel
  set channel run := { run with channel := channel }

/-- Handlers that reach the channel through its operations; they may do with their own memory what
they like, and they may give up. -/
def Proper (table : HandlerTable (ChannelRun τ)) : Prop :=
  ∀ entry ∈ table.entries, ∀ frame run, ∃ made memory,
    (entry.2 frame run).2 = { calls made run with memory := memory }

/-- One move.  What a peer does on a connection that is not current any more does not reach the
channel. -/
def step (table : HandlerTable (ChannelRun τ)) : ChannelMove → ChannelRun τ → ChannelRun τ
  | .call made, run => (run.call made).2
  | .peerWrite number bytes, run =>
    if run.current? = some number then Channel.receive place table bytes run else run
  | .peerClose number, run =>
    if run.current? = some number then { run with channel := run.channel.stopReading } else run
  | .closeListener port, run => { run with network := run.network.closeListener port }

/-- Moves, one after the other. -/
def steps (table : HandlerTable (ChannelRun τ)) (list : List ChannelMove) (run : ChannelRun τ) :
    ChannelRun τ :=
  list.foldl (fun run next => run.step table next) run

/-- The messages that were accepted while a connection was current, in order. -/
def sentOn (number : Nat) (run : ChannelRun τ) : List Json :=
  (run.accepted.filter (·.1 == number)).map Prod.snd

/-! ## 3. The account is right -/

/-- **Every peer has received what was accepted for it**, and the connections have been current one
after the other. -/
structure Orderly (run : ChannelRun τ) : Prop where
  newest : ∀ number, run.current? = some number → number + 1 = run.network.peers.length
  unreset : run.network.Unreset
  past : ∀ sent ∈ run.accepted, sent.1 < run.network.peers.length
  sorted : (run.accepted.map Prod.fst).Pairwise (· ≤ ·)
  received : ∀ number bytes, run.network.received? number = some bytes →
    bytes = (run.sentOn number).flatMap fun value => Framing.bytes value.render

variable {run : ChannelRun τ} {table : HandlerTable (ChannelRun τ)}

theorem Orderly.start (network : Network) (memory : τ) :
    (ChannelRun.start network memory).Orderly :=
  ⟨nofun, nofun, nofun, .nil, nofun⟩

/-- The account does not depend on what the channel knows of its connection, nor on what handlers
remember. -/
theorem Orderly.withChannel (h : run.Orderly) {channel : Channel} (memory : τ)
    (hnumber : ∀ number, channel.connection.map Connection.number = some number →
      run.current? = some number) :
    { run with channel := channel, memory := memory }.Orderly :=
  ⟨fun number hcurrent => h.newest number (hnumber number hcurrent), h.unreset, h.past, h.sorted,
    h.received⟩

/-- Nothing was accepted yet for a connection that is still to come. -/
theorem Orderly.sentOn_eq_nil (h : run.Orderly) {number : Nat}
    (hnumber : run.network.peers.length ≤ number) : run.sentOn number = [] := by
  rw [sentOn, List.map_eq_nil_iff, List.filter_eq_nil_iff]
  intro sent hsent hsame
  have hpast := h.past sent hsent
  rw [eq_of_beq hsame] at hpast
  exact absurd hpast (Nat.not_lt.mpr hnumber)

/-- A connection that is accepted is the newest, and it has received nothing. -/
theorem Orderly.accepted (h : run.Orderly) (address : String) (port : UInt16) :
    (ChannelRun.mk ⟨some ⟨address, run.network.peers.length, true, []⟩⟩
      { run.network with peers := run.network.peers ++ [⟨port, [], false⟩] }
      run.accepted run.memory).Orderly := by
  refine ⟨fun number hcurrent => ?_, fun peer hpeer => ?_, fun sent hsent => ?_, h.sorted,
    fun number bytes hbytes => ?_⟩
  · obtain rfl : run.network.peers.length = number := Option.some.inj hcurrent
    have hlength : (run.network.peers ++ [Peer.mk port [] false]).length =
        run.network.peers.length + 1 := List.length_append
    exact hlength.symm
  · rcases List.mem_append.mp hpeer with hpeer | hpeer
    · exact h.unreset peer hpeer
    · rw [List.mem_singleton.mp hpeer]
  · rw [List.length_append]
    exact Nat.lt_add_right 1 (h.past sent hsent)
  · rcases Nat.lt_or_ge number run.network.peers.length with hold | hnew
    · refine h.received number bytes ?_
      rw [Network.received?, List.getElem?_append_left hold] at hbytes
      exact hbytes
    · rw [Network.received?, List.getElem?_append_right hnew] at hbytes
      obtain ⟨peer, hpeer, rfl⟩ := Option.map_eq_some_iff.mp hbytes
      have hnothing : (run.sentOn number).flatMap
          (fun value => Framing.bytes value.render) = [] := by
        rw [h.sentOn_eq_nil hnew]
        rfl
      rw [List.mem_singleton.mp (List.mem_of_getElem? hpeer)]
      exact hnothing.symm

/-- **A connect** refuses where the reader is at work, and leaves no connection where it fails. -/
theorem Orderly.connect (h : run.Orderly) (ip : String) (port : UInt16) :
    (run.call (.connect ip port)).2.Orderly := by
  rw [call]
  cases hconnected : run.channel.isConnected with
  | true =>
    obtain ⟨address, -, hrefused⟩ :=
      Channel.connect_of_isConnected hconnected ip port run.network
    rw [hrefused]
    exact h
  | false =>
    rw [Channel.connect_eq hconnected]
    rcases Network.connect_cases ip port run.network with ⟨e, he⟩ | hok
    · rw [he]
      exact h.withChannel run.memory nofun
    · rw [hok]
      exact h.accepted (ServerConfig.addressOf ip port) port

/-- What a send comes to while a connection is held: it is accepted, and the line is received. -/
theorem Orderly.send_of_current (h : run.Orderly) {number : Nat}
    (hcurrent : run.current? = some number) (value : Json) :
    run.call (.send (some value)) =
      (.ok (), { run with
        network := (run.network.send number (Framing.bytes value.render)).2
        accepted := run.accepted ++ [(number, value)] }) := by
  obtain ⟨connection, hheld, rfl⟩ := Option.map_eq_some_iff.mp hcurrent
  have hlt : connection.number < run.network.peers.length :=
    Nat.lt_of_succ_le (Nat.le_of_eq (h.newest connection.number hcurrent))
  have htaken := ((h.unreset.isOpen hlt).send (Framing.bytes value.render)).1
  rcases hsent : run.network.send connection.number (Framing.bytes value.render) with
    ⟨taken, after⟩
  rw [hsent] at htaken
  obtain rfl : taken = true := htaken
  simp only [call, Channel.sendMessage, Channel.send, hheld, hsent, noted, hcurrent]

/-- Without a connection nothing is accepted, nor is a message that has no text; and then nothing
changes. -/
theorem send_of_none {message : Option Json} (h : run.current? = none ∨ message = none) :
    ∃ e, run.call (.send message) = (.error e, run) := by
  cases message with
  | none => exact ⟨.notEncodable, rfl⟩
  | some value =>
    have hnone : run.channel.connection = none :=
      Option.map_eq_none_iff.mp (h.resolve_right (Option.some_ne_none value))
    refine ⟨.notConnected, ?_⟩
    simp only [call, Channel.sendMessage, Channel.send, hnone, noted]

/-- **A send answers with success exactly if there is something to send, and somebody to send it
to**; and if it does not it changes nothing. -/
theorem Orderly.send_cases (h : run.Orderly) (message : Option Json) :
    (∃ number value, run.current? = some number ∧ message = some value ∧
      (run.call (.send message)).1 = .ok ()) ∨
    ((run.current? = none ∨ message = none) ∧
      ∃ e, run.call (.send message) = (.error e, run)) := by
  cases hcurrent : run.current? with
  | none => exact Or.inr ⟨Or.inl rfl, send_of_none (Or.inl hcurrent)⟩
  | some number =>
    cases message with
    | none => exact Or.inr ⟨Or.inr rfl, send_of_none (Or.inr rfl)⟩
    | some value => exact Or.inl ⟨number, value, rfl, rfl, by rw [h.send_of_current hcurrent]⟩

/-- What is accepted for the current connection is noted behind everything else, and received
behind everything that this connection has received so far. -/
theorem Orderly.sent (h : run.Orderly) {number : Nat} (hcurrent : run.current? = some number)
    (value : Json) :
    { run with
      network := (run.network.send number (Framing.bytes value.render)).2
      accepted := run.accepted ++ [(number, value)] }.Orderly := by
  have hnewest := h.newest number hcurrent
  have hlt : number < run.network.peers.length := by omega
  have htaken := ((h.unreset.isOpen hlt).send (Framing.bytes value.render)).1
  obtain ⟨hunreset, hlength⟩ := h.unreset.send number (Framing.bytes value.render)
  refine ⟨fun other hother => ?_, hunreset, fun sent hsent => ?_, ?_,
    fun other bytes hbytes => ?_⟩
  · rw [hlength]
    exact h.newest other hother
  · rw [hlength]
    rcases List.mem_append.mp hsent with hsent | hsent
    · exact h.past sent hsent
    · rw [List.mem_singleton.mp hsent]
      omega
  · -- whatever was accepted before was accepted for a connection that is not newer
    rw [List.map_append, List.pairwise_append]
    refine ⟨h.sorted, List.pairwise_singleton _ _, fun earlier hearlier later hlater => ?_⟩
    obtain ⟨sent, hsent, rfl⟩ := List.mem_map.mp hearlier
    rw [List.map_singleton, List.mem_singleton] at hlater
    have hpast := h.past sent hsent
    rw [hlater]
    dsimp only
    omega
  · by_cases hother : other = number
    · subst hother
      obtain ⟨old, hold⟩ : ∃ old, run.network.received? other = some old := by
        rw [Network.received?, List.getElem?_eq_getElem hlt]
        exact ⟨_, rfl⟩
      have hreceived := Network.received?_send hold (Framing.bytes value.render)
      rw [htaken, if_pos rfl] at hreceived
      rw [Option.some.inj (hbytes.symm.trans hreceived), h.received other old hold, sentOn,
        sentOn, List.filter_append, List.map_append, List.flatMap_append]
      simp
    · rw [Network.received?_send_of_ne hother] at hbytes
      rw [h.received other bytes hbytes, sentOn, sentOn, List.filter_append]
      simp [Ne.symm hother]

/-- **A send** goes to the current connection, or nowhere. -/
theorem Orderly.send (h : run.Orderly) (message : Option Json) :
    (run.call (.send message)).2.Orderly := by
  cases hcurrent : run.current? with
  | none =>
    obtain ⟨e, he⟩ : ∃ e, run.call (.send message) = (.error e, run) :=
      send_of_none (Or.inl hcurrent)
    rw [he]
    exact h
  | some number =>
    cases message with
    | none => exact h
    | some value =>
      rw [h.send_of_current hcurrent]
      exact h.sent hcurrent value

/-- **Every operation keeps the account right.** -/
theorem Orderly.call (h : run.Orderly) (made : ChannelCall) : (run.call made).2.Orderly := by
  cases made with
  | connect ip port => exact h.connect ip port
  | send message => exact h.send message
  | disconnect => exact h.withChannel run.memory nofun

theorem Orderly.calls (list : List ChannelCall) :
    ∀ {run : ChannelRun τ}, run.Orderly → (run.calls list).Orderly := by
  induction list with
  | nil => exact fun h => h
  | cons made rest ih => exact fun h => ih (h.call made)

/-- Handlers keep it right, whichever frames they get. -/
theorem Orderly.dispatchAll (htable : Proper table) (frames : List Json) :
    ∀ {run : ChannelRun τ}, run.Orderly → (table.dispatchAll frames run).2.Orderly := by
  induction frames with
  | nil => exact fun h => h
  | cons frame rest ih =>
    intro run h
    have hfirst : (table.dispatch frame run).2.Orderly := by
      unfold HandlerTable.dispatch
      split
      · next handler hhandler =>
        obtain ⟨name, -, hlookup⟩ := Option.bind_eq_some_iff.mp hhandler
        obtain ⟨front, back, hentries, -⟩ := List.lookup_eq_some_iff.mp hlookup
        have hentry : (name, handler) ∈ table.entries := by
          rw [hentries]
          exact List.mem_append_right front List.mem_cons_self
        obtain ⟨made, memory, hmade⟩ := htable (name, handler) hentry frame run
        rw [hmade]
        exact (h.calls made).withChannel memory fun _ hsame => hsame
      · exact h
    rw [HandlerTable.dispatchAll]
    rcases hdone : table.dispatch frame run with ⟨goesOn, after⟩
    rw [hdone] at hfirst
    cases goesOn with
    | true => exact ih hfirst
    | false => exact hfirst

/-- So does whatever arrives. -/
theorem Orderly.receive (h : run.Orderly) (htable : Proper table) (bytes : List UInt8) :
    (Channel.receive place table bytes run).Orderly := by
  have htaken : (place.set (run.channel.take bytes).2 run).Orderly :=
    h.withChannel run.memory fun number hnumber =>
      (run.channel.take_number bytes).symm.trans hnumber
  have hhandled := Orderly.dispatchAll htable (run.channel.take bytes).1 htaken
  have hget : place.get run = run.channel := rfl
  unfold Channel.receive
  rw [hget]
  rcases htake : run.channel.take bytes with ⟨frames, channel⟩
  rw [htake] at hhandled
  dsimp only at hhandled ⊢
  rcases hdone : table.dispatchAll frames (place.set channel run) with ⟨_ | _, after⟩ <;>
    rw [hdone] at hhandled
  · exact Orderly.withChannel hhandled after.memory fun number hnumber =>
      after.channel.stopReading_number.symm.trans hnumber
  · exact hhandled

/-- **Every move keeps the account right.** -/
theorem Orderly.step (h : run.Orderly) (htable : Proper table) (next : ChannelMove) :
    (run.step table next).Orderly := by
  cases next with
  | call made => exact h.call made
  | peerWrite number bytes =>
    rw [ChannelRun.step]
    split
    · exact h.receive htable bytes
    · exact h
  | peerClose number =>
    rw [ChannelRun.step]
    split
    · exact h.withChannel run.memory fun number hnumber =>
        run.channel.stopReading_number.symm.trans hnumber
    · exact h
  | closeListener port => exact ⟨h.newest, h.unreset, h.past, h.sorted, h.received⟩

/-- **So it is right along every run.** -/
theorem Orderly.steps (htable : Proper table) (list : List ChannelMove) :
    ∀ {run : ChannelRun τ}, run.Orderly → (run.steps table list).Orderly := by
  induction list with
  | nil => exact fun h => h
  | cons next rest ih => exact fun h => ih (h.step htable next)

/-- **What is sent arrives: on the connection that was current, once, in order, and nowhere else.**
For every network on which nobody resets a connection, every run of operations, of peers that write
or stop and of listeners that go, and every table of handlers that reach the channel through its
operations:

* on each connection that was accepted the octets that were received are one line for each message
  whose send answered with success while this connection was current, in order;
* a send answers with success exactly if there is a current connection and the message has a text,
  and otherwise it changes nothing, on no connection;
* only the connection that was accepted last can be current, and what was accepted for an earlier
  one was accepted before;
* a connect while the reader is at work answers that it is connected already, changes nothing, and
  so leaves a connection that takes every message;
* a connect while it is not at work has let go of whatever was held: if it fails there is no
  connection and no address, and if it succeeds the connection that was just accepted is current. -/
theorem delivered (htable : Proper table) (network : Network) (memory : τ)
    (list : List ChannelMove) :
    let run := (start network memory).steps table list
    (∀ number bytes, run.network.received? number = some bytes →
      bytes = ((run.sentOn number).flatMap fun value => Framing.bytes value.render) ∧
        Framing.lines bytes = ((run.sentOn number).map fun value => Utf8.ofString value.render, []))
    ∧ (∀ message, (run.call (.send message)).1 = .ok () ↔
      run.current?.isSome = true ∧ message.isSome = true)
    ∧ (∀ message e, (run.call (.send message)).1 = .error e → (run.call (.send message)).2 = run)
    ∧ (∀ number, run.current? = some number → number + 1 = run.network.peers.length)
    ∧ (run.accepted.map Prod.fst).Pairwise (· ≤ ·)
    ∧ (∀ ip port, run.channel.isConnected = true → ∃ address, run.channel.address = some address ∧
      run.call (.connect ip port) = (.error (.alreadyConnected address), run) ∧
      ∀ value, (run.call (.send (some value))).1 = .ok ())
    ∧ ∀ ip port, run.channel.isConnected = false →
      let after := (run.call (.connect ip port)).2
      (∃ e, (run.call (.connect ip port)).1 = .error e ∧ after.current? = none ∧
        after.channel.address = none ∧ after.network = run.network) ∨
      ((run.call (.connect ip port)).1 = .ok () ∧
        after.current? = some run.network.peers.length ∧
        after.channel.address = some (ServerConfig.addressOf ip port) ∧
        after.network.received? run.network.peers.length = some []) := by
  intro run
  have h : run.Orderly := Orderly.steps htable list (.start network memory)
  have hsend : ∀ message, (run.call (.send message)).1 = .ok () ↔
      run.current?.isSome = true ∧ message.isSome = true := by
    intro message
    rcases h.send_cases message with ⟨number, value, hcurrent, rfl, hok⟩ | ⟨hnone, e, he⟩
    · simp [hcurrent, hok]
    · rcases hnone with hnone | rfl
      · simp [hnone, he]
      · simp [he]
  refine ⟨fun number bytes hbytes => ?_, hsend, fun message e hfailed => ?_, h.newest, h.sorted,
    fun ip port hconnected => ?_, fun ip port hclosed => ?_⟩
  · obtain rfl := h.received number bytes hbytes
    exact ⟨rfl, Framing.lines_values (run.sentOn number)⟩
  · rcases h.send_cases message with ⟨number, value, -, -, hok⟩ | ⟨-, cause, hcause⟩
    · rw [hok] at hfailed
      cases hfailed
    · rw [hcause]
  · obtain ⟨address, haddress, hrefused⟩ :=
      Channel.connect_of_isConnected hconnected ip port run.network
    have hcurrent : run.current?.isSome = true := by
      rw [current?, Option.isSome_map, ← Option.isSome_map]
      exact Option.isSome_iff_exists.mpr ⟨address, haddress⟩
    refine ⟨address, haddress, ?_, fun value => (hsend (some value)).mpr ⟨hcurrent, rfl⟩⟩
    rw [call, hrefused]
  · rw [call, Channel.connect_eq hclosed]
    rcases Network.connect_cases ip port run.network with ⟨cause, hcause⟩ | hok
    · rw [hcause]
      exact Or.inl ⟨cause, rfl, rfl, rfl, rfl⟩
    · have hfresh := Network.received?_of_connect hok
      rw [hok]
      exact Or.inr ⟨rfl, rfl, rfl, hfresh⟩

/-- A handler that lets the connection go. -/
def leaving : HandlerTable (ChannelRun Unit) :=
  HandlerTable.empty.insert "bye" fun _ run => (true, (run.call .disconnect).2)

/-- This host and another one can be reached, and somebody listens on both. -/
def twoHosts : Network := ⟨true, [5184], [("10.0.0.7", [5184])], []⟩

/-- A channel that sends on two connections: the first one is let go by a handler, and on the second
one, to the other host, the peer has stopped.  On this host nobody listens any more. -/
def twice : List ChannelMove :=
  [.call (.connect "127.0.0.1" 5184), .call (.send (some (.string "a"))),
    .peerWrite 0 (Framing.bytes (Json.object [("event", .string "bye")]).render),
    .call (.send (some (.string "b"))), .call (.connect "10.0.0.7" 5184), .peerClose 1,
    .call (.send (some (.string "c"))), .peerClose 0, .closeListener 5184,
    .call (.send (some (.string "d")))]

/-- What was sent in between is nowhere, what was sent on the stale connection has arrived, and the
next connect leaves nothing. -/
theorem twice_delivered :
    let run := (start twoHosts ()).steps leaving twice
    Proper leaving ∧
      run.network.received? 0 = some (Framing.bytes (Json.string "a").render) ∧
      run.network.received? 1 =
        some (Framing.bytes (Json.string "c").render ++ Framing.bytes (Json.string "d").render) ∧
      Framing.lines
          (Framing.bytes (Json.string "c").render ++ Framing.bytes (Json.string "d").render) =
        ((run.sentOn 1).map fun value => Utf8.ofString value.render, []) ∧
      run.channel.isConnected = false ∧
      (run.call (.connect "127.0.0.1" 5184)).1 = .error (.refused "127.0.0.1:5184") ∧
      (run.call (.connect "127.0.0.1" 5184)).2.channel.address = none := by
  intro run
  have hproper : Proper leaving := by
    intro entry hentry frame run
    obtain rfl := List.mem_singleton.mp hentry
    exact ⟨[.disconnect], (), rfl⟩
  obtain ⟨hreceived, -, -, -, -, -, hconnect⟩ := delivered hproper twoHosts () twice
  have hsecond : run.network.received? 1 =
      some (Framing.bytes (Json.string "c").render ++ Framing.bytes (Json.string "d").render) := by
    decide +kernel
  have hclosed : run.channel.isConnected = false := by decide +kernel
  have hrefused : (run.call (.connect "127.0.0.1" 5184)).1 =
      .error (.refused "127.0.0.1:5184") := by
    decide +kernel
  refine ⟨hproper, by decide +kernel, hsecond, (hreceived 1 _ hsecond).2, hclosed, hrefused, ?_⟩
  rcases hconnect "127.0.0.1" 5184 hclosed with ⟨e, -, -, haddress, -⟩ | ⟨hok, -⟩
  · exact haddress
  · rw [hrefused] at hok
    cases hok

end ChannelRun

end RenderSync
