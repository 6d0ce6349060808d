import RenderSync.Proofs.Delivery

/-!
# What is heard after a connection was let go

A handler may let go of the connection that its frame came on.  The reader is then in the middle of
what has arrived, and it goes on with the frames that are complete; only what arrives later finds
nobody.  So a connection that was let go falls silent exactly if no frame that has a handler was
complete already (`ChannelRun.silence_after_disconnect`), and whether it was is up to how the bytes
were cut, and not to the bytes (`silent_of_single`, `parting_is_heard`).

Which handlers run can be said of any table: `HandlerTable.served` lists them with what they found
and what they left, and a table that takes notes has noted just these (`dispatchAll_noted`).
-/

namespace RenderSync

/-! ## 1. Handlers that run -/

/-- A handler that has run: the frame that it was for, what it found, and what it left. -/
structure Served (σ : Type) where
  frame : Json
  found : σ
  left : σ

namespace HandlerTable

variable {σ : Type} {table : HandlerTable σ}

/-- The handlers that run when frames are dispatched, in order. -/
def served (table : HandlerTable σ) : List Json → σ → List (Served σ)
  | [], _ => []
  | frame :: rest, state =>
    match table.handlerOf? frame with
    | none => served table rest state
    | some handler =>
      match handler frame state with
      | (true, next) => ⟨frame, state, next⟩ :: served table rest next
      | (false, next) => [⟨frame, state, next⟩]

/-- The same table with handlers that take a note of it. -/
def noted (table : HandlerTable σ) : HandlerTable (σ × List (Served σ)) :=
  ⟨table.entries.map fun entry => (entry.1, fun frame state =>
    ((entry.2 frame state.1).1, (entry.2 frame state.1).2,
      state.2 ++ [⟨frame, state.1, (entry.2 frame state.1).2⟩]))⟩

theorem noted_handlerOf? (table : HandlerTable σ) (frame : Json) :
    table.noted.handlerOf? frame = (table.handlerOf? frame).map fun handler frame state =>
      ((handler frame state.1).1, (handler frame state.1).2,
        state.2 ++ [⟨frame, state.1, (handler frame state.1).2⟩]) := by
  unfold handlerOf? noted
  cases nameOf? frame with
  | none => rfl
  | some name =>
    dsimp only [Option.bind_some]
    induction table.entries with
    | nil => rfl
    | cons entry rest ih =>
      rw [List.map_cons, List.lookup_cons, List.lookup_cons]
      cases name == entry.1 with
      | true => rfl
      | false => exact ih

/-- **The handlers that are listed are those that run.** -/
theorem dispatchAll_noted (frames : List Json) :
    ∀ (state : σ) (log : List (Served σ)), table.noted.dispatchAll frames (state, log) =
      ((table.dispatchAll frames state).1, (table.dispatchAll frames state).2,
        log ++ table.served frames state) := by
  induction frames with
  | nil =>
    intro state log
    rw [served, List.append_nil]
    rfl
  | cons frame rest ih =>
    intro state log
    rw [dispatchAll, dispatchAll, dispatch, dispatch, noted_handlerOf?, served]
    cases table.handlerOf? frame with
    | none => exact ih state log
    | some handler =>
      dsimp only [Option.map_some]
      rcases handler frame state with ⟨_ | _, next⟩
      · rfl
      · dsimp only
        rw [ih, List.append_assoc]
        rfl

/-- No handler runs exactly if no frame has one. -/
theorem served_eq_nil_iff {frames : List Json} {state : σ} :
    table.served frames state = [] ↔ ∀ frame ∈ frames, table.handlerOf? frame = none := by
  induction frames with
  | nil => exact iff_of_true rfl (List.forall_mem_nil _)
  | cons frame rest ih =>
    rw [served, List.forall_mem_cons]
    cases table.handlerOf? frame with
    | none => exact ih.trans (and_iff_right rfl).symm
    | some handler =>
      refine iff_of_false ?_ fun hnone => Option.some_ne_none handler hnone.1
      dsimp only
      rcases handler frame state with ⟨_ | _, next⟩
      · exact List.cons_ne_nil _ _
      · exact List.cons_ne_nil _ _

/-- Behind frames after which something does not hold any more, there is one that has a handler. -/
def Overruns (table : HandlerTable σ) (holds : σ → Prop) (frames : List Json) (state : σ) : Prop :=
  ∃ front rest after, frames = front ++ rest ∧ table.dispatchAll front state = (true, after) ∧
    ¬ holds after ∧ ∃ late ∈ rest, table.handlerOf? late ≠ none

/-- What holds at the beginning has to be lost behind some frame. -/
theorem overruns_cons_iff {holds : σ → Prop} {frame : Json} {rest : List Json} {state next : σ}
    (hstate : holds state) (hnext : table.dispatch frame state = (true, next)) :
    table.Overruns holds (frame :: rest) state ↔
      (¬ holds next ∧ ∃ late ∈ rest, table.handlerOf? late ≠ none) ∨
        table.Overruns holds rest next := by
  constructor
  · rintro ⟨front, behind, after, hframes, hafter, hlost, late, hlate, hhandler⟩
    cases front with
    | nil =>
      cases hafter
      exact absurd hstate hlost
    | cons first front =>
      obtain ⟨rfl, rfl⟩ := List.cons.inj hframes
      rw [dispatchAll, hnext] at hafter
      exact Or.inr ⟨front, behind, after, rfl, hafter, hlost, late, hlate, hhandler⟩
  · rintro (⟨hlost, hlate⟩ | ⟨front, behind, after, rfl, hafter, hlost, hlate⟩)
    · refine ⟨[frame], rest, next, rfl, ?_, hlost, hlate⟩
      rw [dispatchAll, hnext]
      rfl
    · refine ⟨frame :: front, behind, after, rfl, ?_, hlost, hlate⟩
      rw [dispatchAll, hnext]
      exact hafter

/-- A handler that cannot go on is the last one. -/
theorem not_overruns_of_stopped {holds : σ → Prop} {frame : Json} {rest : List Json}
    {state next : σ} (hstate : holds state) (hnext : table.dispatch frame state = (false, next)) :
    ¬ table.Overruns holds (frame :: rest) state := by
  rintro ⟨front, behind, after, hframes, hafter, hlost, -⟩
  cases front with
  | nil =>
    cases hafter
    exact hlost hstate
  | cons first front =>
    obtain ⟨rfl, -⟩ := List.cons.inj hframes
    rw [dispatchAll, hnext] at hafter
    cases hafter

/-- **Every handler that runs before another one has left what holds**, exactly if no frame with a
handler comes behind the loss of it. -/
theorem served_pairwise_iff {holds : σ → Prop} (frames : List Json) :
    ∀ {state : σ}, holds state →
      ((table.served frames state).Pairwise (fun earlier _ => holds earlier.left) ↔
        ¬ table.Overruns holds frames state) := by
  induction frames with
  | nil =>
    intro state hstate
    refine iff_of_true .nil ?_
    rintro ⟨front, rest, after, hframes, -, -, late, hlate, -⟩
    obtain ⟨-, rfl⟩ := List.append_eq_nil_iff.mp hframes.symm
    cases hlate
  | cons frame rest ih =>
    intro state hstate
    rw [served]
    cases hhandler : table.handlerOf? frame with
    | none =>
      have hnext : table.dispatch frame state = (true, state) := by
        rw [dispatch, hhandler]
      rw [overruns_cons_iff hstate hnext, or_iff_right fun hlost => hlost.1 hstate]
      exact ih hstate
    | some handler =>
      dsimp only
      rcases hdone : handler frame state with ⟨_ | _, next⟩ <;> dsimp only
      · have hnext : table.dispatch frame state = (false, next) := by
          rw [dispatch, hhandler]
          exact hdone
        exact iff_of_true (List.pairwise_singleton _ _) (not_overruns_of_stopped hstate hnext)
      · have hnext : table.dispatch frame state = (true, next) := by
          rw [dispatch, hhandler]
          exact hdone
        rw [List.pairwise_cons, overruns_cons_iff hstate hnext, not_or]
        by_cases hkept : holds next
        · rw [ih hkept]
          constructor
          · rintro ⟨-, hquiet⟩
            exact ⟨fun hlost => hlost.1 hkept, hquiet⟩
          · rintro ⟨-, hquiet⟩
            exact ⟨fun _ _ => hkept, hquiet⟩
        · -- where it is lost, everything behind has to be quiet
          constructor
          · rintro ⟨hall, -⟩
            have hnone : table.served rest next = [] :=
              List.eq_nil_iff_forall_not_mem.mpr fun later hlater => hkept (hall later hlater)
            have hquiet : ∀ late ∈ rest, table.handlerOf? late = none :=
              served_eq_nil_iff.mp hnone
            refine ⟨?_, ?_⟩
            · rintro ⟨-, late, hlate, hsome⟩
              exact hsome (hquiet late hlate)
            · rintro ⟨front, behind, after, rfl, -, -, late, hlate, hsome⟩
              exact hsome (hquiet late (List.mem_append_right front hlate))
          · rintro ⟨hnone, -⟩
            have hquiet : table.served rest next = [] := by
              refine served_eq_nil_iff.mpr fun late hlate => ?_
              exact Classical.byContradiction fun hsome => hnone ⟨hkept, late, hlate, hsome⟩
            rw [hquiet]
            exact ⟨nofun, .nil⟩

end HandlerTable

/-! ## 2. Connections that were let go -/

/-- Sending makes no connections. -/
theorem Network.send_length (connection : Nat) (bytes : List UInt8) (network : Network) :
    (network.send connection bytes).2.peers.length = network.peers.length := by
  unfold Network.send
  split
  · rfl
  · split
    · rfl
    · exact List.length_set

namespace ChannelRun

open HandlerTable

variable {τ : Type} {run : ChannelRun τ} {table : HandlerTable (ChannelRun τ)} {number : Nat}

/-- The connection is the one that the channel holds. -/
def Holds (number : Nat) (run : ChannelRun τ) : Prop := run.current? = some number

instance (number : Nat) (run : ChannelRun τ) : Decidable (run.Holds number) :=
  inferInstanceAs (Decidable (run.current? = some number))

/-- The connection was accepted, and the channel does not hold it any more. -/
structure Gone (number : Nat) (run : ChannelRun τ) : Prop where
  known : number < run.network.peers.length
  loose : ¬ run.Holds number

/-- **What an operation does to connections**: it forgets none, and the channel holds the one that
it held, or none, or a new one. -/
theorem call_cases (made : ChannelCall) (run : ChannelRun τ) :
    run.network.peers.length ≤ (run.call made).2.network.peers.length ∧
      ((run.call made).2.current? = run.current? ∨ (run.call made).2.current? = none ∨
        (run.call made).2.current? = some run.network.peers.length) := by
  cases made with
  | connect ip port =>
    rw [call]
    cases hconnected : run.channel.isConnected with
    | true =>
      obtain ⟨address, -, hrefused⟩ :=
        Channel.connect_of_isConnected hconnected ip port run.network
      rw [hrefused]
      exact ⟨Nat.le_refl _, Or.inl rfl⟩
    | false =>
      rw [Channel.connect_eq hconnected]
      rcases Network.connect_cases ip port run.network with ⟨e, he⟩ | hok
      · rw [he]
        exact ⟨Nat.le_refl _, Or.inr (Or.inl rfl)⟩
      · rw [hok]
        exact ⟨by simp, Or.inr (Or.inr rfl)⟩
  | send message =>
    refine ⟨Nat.le_of_eq ?_, Or.inl rfl⟩
    rw [call, Channel.sendMessage.eq_def]
    cases message with
    | none => rfl
    | some value =>
      dsimp only
      unfold Channel.send
      split
      · rfl
      · next connection _ =>
        have hlength := Network.send_length connection.number (Framing.bytes value.render)
          run.network
        split
        · next after hsent =>
          rw [hsent] at hlength
          exact hlength.symm
        · next after hsent =>
          rw [hsent] at hlength
          exact hlength.symm
  | disconnect => exact ⟨Nat.le_refl _, Or.inr (Or.inl rfl)⟩

/-- **A connection that was let go never comes back.** -/
theorem Gone.call (h : run.Gone number) (made : ChannelCall) : (run.call made).2.Gone number := by
  obtain ⟨hlength, hcurrent⟩ := call_cases made run
  refine ⟨Nat.lt_of_lt_of_le h.known hlength, ?_⟩
  rcases hcurrent with hsame | hnone | hnew
  · rw [Holds, hsame]
    exact h.loose
  · rw [Holds, hnone]
    exact nofun
  · rw [Holds, hnew, Option.some.injEq]
    exact Nat.ne_of_gt h.known

theorem Gone.calls (made : List ChannelCall) :
    ∀ {run : ChannelRun τ}, run.Gone number → (run.calls made).Gone number := by
  induction made with
  | nil => exact fun h => h
  | cons first rest ih => exact fun h => ih (h.call first)

theorem calls_length_le (made : List ChannelCall) :
    ∀ (run : ChannelRun τ), run.network.peers.length ≤ (run.calls made).network.peers.length := by
  induction made with
  | nil => exact fun _ => Nat.le_refl _
  | cons first rest ih => exact fun run => Nat.le_trans (call_cases first run).1 (ih _)

/-- Nothing but the network and the connection matters. -/
theorem Gone.congr {other : ChannelRun τ} (h : run.Gone number)
    (hnetwork : other.network.peers.length = run.network.peers.length)
    (hcurrent : other.current? = run.current?) : other.Gone number := by
  refine ⟨?_, ?_⟩
  · rw [hnetwork]
    exact h.known
  · rw [Holds, hcurrent]
    exact h.loose

/-- A handler that has run has made calls. -/
theorem Proper.dispatch (htable : Proper table) (frame : Json) (run : ChannelRun τ) :
    ∃ made memory, (table.dispatch frame run).2 = { calls made run with memory := memory } := by
  unfold HandlerTable.dispatch
  split
  · next handler hhandler =>
    obtain ⟨name, -, hlookup⟩ := Option.bind_eq_some_iff.mp hhandler
    obtain ⟨front, back, hentries, -⟩ := List.lookup_eq_some_iff.mp hlookup
    refine htable (name, handler) ?_ frame run
    rw [hentries]
    exact List.mem_append_right front List.mem_cons_self
  · exact ⟨[], run.memory, rfl⟩

/-- Handlers do not bring it back, either. -/
theorem Gone.dispatchAll (htable : Proper table) (frames : List Json) :
    ∀ {run : ChannelRun τ}, run.Gone number → (table.dispatchAll frames run).2.Gone number := by
  induction frames with
  | nil => exact fun h => h
  | cons frame rest ih =>
    intro run h
    obtain ⟨made, memory, hmade⟩ := htable.dispatch frame run
    have hfirst : (table.dispatch frame run).2.Gone number := by
      rw [hmade]
      exact (h.calls made).congr rfl rfl
    rw [HandlerTable.dispatchAll]
    rcases hdone : table.dispatch frame run with ⟨_ | _, after⟩ <;> rw [hdone] at hfirst
    · exact hfirst
    · exact ih hfirst

/-- What has arrived is taken from the channel before the handlers run. -/
def arrived (bytes : List UInt8) (run : ChannelRun τ) : ChannelRun τ :=
  place.set (run.channel.take bytes).2 run

theorem arrived_current? (bytes : List UInt8) (run : ChannelRun τ) :
    (run.arrived bytes).current? = run.current? := Channel.take_number run.channel bytes

/-- What arrives leaves behind what the handlers have left, but for a reader that has stopped. -/
theorem gone_receive_iff (bytes : List UInt8) (run : ChannelRun τ) :
    (Channel.receive place table bytes run).Gone number ↔
      (table.dispatchAll (run.channel.take bytes).1 (run.arrived bytes)).2.Gone number := by
  have hget : place.get run = run.channel := rfl
  unfold Channel.receive arrived
  rw [hget]
  rcases run.channel.take bytes with ⟨frames, channel⟩
  dsimp only
  rcases table.dispatchAll frames (place.set channel run) with ⟨_ | _, after⟩
  · dsimp only
    have hnumber : (place.set (place.get after).stopReading after).current? = after.current? :=
      after.channel.stopReading_number
    exact ⟨fun h => h.congr rfl hnumber.symm, fun h => h.congr rfl hnumber⟩
  · exact Iff.rfl

/-- **No move brings it back.** -/
theorem Gone.step (h : run.Gone number) (htable : Proper table) (next : ChannelMove) :
    (run.step table next).Gone number := by
  cases next with
  | call made => exact h.call made
  | peerWrite writer bytes =>
    rw [ChannelRun.step]
    split
    · rw [gone_receive_iff]
      exact Gone.dispatchAll htable _ (h.congr rfl (run.arrived_current? bytes))
    · exact h
  | peerClose writer =>
    rw [ChannelRun.step]
    split
    · exact h.congr rfl run.channel.stopReading_number
    · exact h
  | closeListener port => exact h.congr rfl rfl

/-! ## 3. What is heard of a connection -/

/-- The handlers that a move runs for frames of a connection. -/
def heardIn (table : HandlerTable (ChannelRun τ)) (number : Nat) :
    ChannelMove → ChannelRun τ → List (Served (ChannelRun τ))
  | .peerWrite writer bytes, run =>
    if writer = number ∧ run.Holds number then
      table.served (run.channel.take bytes).1 (run.arrived bytes)
    else []
  | _, _ => []

/-- The handlers that moves run for frames of a connection, in order. -/
def heard (table : HandlerTable (ChannelRun τ)) (number : Nat) :
    List ChannelMove → ChannelRun τ → List (Served (ChannelRun τ))
  | [], _ => []
  | next :: rest, run =>
    heardIn table number next run ++ heard table number rest (run.step table next)

/-- **Once a handler has let the connection go, no frame of it runs a handler any more**: of any two
that run, the earlier one has left the connection held. -/
def Silent (table : HandlerTable (ChannelRun τ)) (number : Nat) (moves : List ChannelMove)
    (run : ChannelRun τ) : Prop :=
  (heard table number moves run).Pairwise fun earlier _ => earlier.left.Holds number

/-- Nothing is heard of a connection that was let go. -/
theorem heard_of_gone (htable : Proper table) (moves : List ChannelMove) :
    ∀ {run : ChannelRun τ}, run.Gone number → heard table number moves run = [] := by
  induction moves with
  | nil => exact fun _ => rfl
  | cons next rest ih =>
    intro run h
    have hnothing : heardIn table number next run = [] := by
      cases next with
      | peerWrite writer bytes => exact if_neg fun hheld => h.loose hheld.2
      | _ => rfl
    rw [heard, hnothing, List.nil_append]
    exact ih (h.step htable next)

/-- A connection that a handler has let go stays so while the other handlers run. -/
theorem gone_of_served (htable : Proper table) (frames : List Json) :
    ∀ {run : ChannelRun τ} {entry : Served (ChannelRun τ)}, number < run.network.peers.length →
      entry ∈ table.served frames run → ¬ entry.left.Holds number →
        (table.dispatchAll frames run).2.Gone number := by
  induction frames with
  | nil => exact fun _ hentry => nomatch hentry
  | cons frame rest ih =>
    intro run entry hknown hentry hloose
    obtain ⟨made, memory, hmade⟩ := htable.dispatch frame run
    have hlater : number < (table.dispatch frame run).2.network.peers.length := by
      rw [hmade]
      exact Nat.lt_of_lt_of_le hknown (calls_length_le made run)
    rw [served] at hentry
    rw [HandlerTable.dispatchAll]
    rw [HandlerTable.dispatch] at hlater ⊢
    cases hhandler : table.handlerOf? frame with
    | none =>
      rw [hhandler] at hentry
      exact ih hknown hentry hloose
    | some handler =>
      rw [hhandler] at hentry hlater
      dsimp only at hentry hlater ⊢
      rcases hdone : handler frame run with ⟨_ | _, next⟩ <;> rw [hdone] at hentry hlater
      · obtain rfl := List.mem_singleton.mp hentry
        exact ⟨hlater, hloose⟩
      · rcases List.mem_cons.mp hentry with rfl | hbehind
        · exact Gone.dispatchAll htable rest ⟨hlater, hloose⟩
        · exact ih hlater hbehind hloose

/-- Behind frames that have let the connection go, what arrives has one more frame with a
handler. -/
def Lingers (table : HandlerTable (ChannelRun τ)) (number : Nat) (bytes : List UInt8)
    (run : ChannelRun τ) : Prop :=
  run.Holds number ∧
    table.Overruns (Holds number) (run.channel.take bytes).1 (run.arrived bytes)

/-- **One arrival is silent exactly if it does not linger.** -/
theorem heardIn_pairwise_iff (next : ChannelMove) (run : ChannelRun τ) :
    (heardIn table number next run).Pairwise (fun earlier _ => earlier.left.Holds number) ↔
      ∀ bytes, next = .peerWrite number bytes → ¬ run.Lingers table number bytes := by
  cases next with
  | peerWrite writer arriving =>
    rw [heardIn]
    by_cases hheard : writer = number ∧ run.Holds number
    · obtain ⟨rfl, hheld⟩ := hheard
      have harrived : (run.arrived arriving).Holds writer :=
        (run.arrived_current? arriving).trans hheld
      rw [if_pos ⟨rfl, hheld⟩, served_pairwise_iff _ harrived]
      constructor
      · rintro hquiet bytes hsame ⟨-, hlate⟩
        cases hsame
        exact hquiet hlate
      · exact fun hquiet hlate => hquiet arriving rfl ⟨hheld, hlate⟩
    · rw [if_neg hheard]
      refine iff_of_true .nil ?_
      rintro bytes hsame ⟨hheld, -⟩
      cases hsame
      exact hheard ⟨rfl, hheld⟩
  | _ => exact iff_of_true .nil nofun

/-- **Silence is a matter of single arrivals**, since nothing is heard of a connection in a later
one than that which has let it go. -/
theorem silent_cons_iff (htable : Proper table) (h : run.Orderly) (next : ChannelMove)
    (rest : List ChannelMove) :
    Silent table number (next :: rest) run ↔
      (∀ bytes, next = .peerWrite number bytes → ¬ run.Lingers table number bytes) ∧
        Silent table number rest (run.step table next) := by
  rw [Silent, heard, List.pairwise_append, heardIn_pairwise_iff]
  refine and_congr_right fun _ => and_iff_left ?_
  intro earlier hearlier later hlater
  refine Classical.byContradiction fun hloose => ?_
  have hgone : (run.step table next).Gone number := by
    cases next with
    | peerWrite writer bytes =>
      rw [heardIn] at hearlier
      split at hearlier
      · next hheard =>
        obtain ⟨rfl, hheld⟩ := hheard
        have hknown : writer < run.network.peers.length :=
          Nat.lt_of_succ_le (Nat.le_of_eq (h.newest writer hheld))
        have hstep : run.step table (.peerWrite writer bytes) =
            Channel.receive place table bytes run := if_pos hheld
        rw [hstep, gone_receive_iff]
        exact gone_of_served htable _ hknown hearlier hloose
      · cases hearlier
    | _ => cases hearlier
  rw [heard_of_gone htable rest hgone] at hlater
  cases hlater

/-- So it is along every run. -/
theorem Orderly.quiet_iff (htable : Proper table) (moves : List ChannelMove) :
    ∀ {run : ChannelRun τ}, run.Orderly → (Silent table number moves run ↔
      ∀ before bytes later, moves = before ++ .peerWrite number bytes :: later →
        ¬ (run.steps table before).Lingers table number bytes) := by
  induction moves with
  | nil =>
    intro run _
    refine iff_of_true .nil fun before bytes later hmoves => ?_
    cases before <;> cases hmoves
  | cons next rest ih =>
    intro run h
    rw [silent_cons_iff htable h, ih (h.step htable next)]
    constructor
    · rintro ⟨hfirst, hrest⟩ before bytes later hmoves
      cases before with
      | nil => exact hfirst bytes (List.cons.inj hmoves).1
      | cons move before =>
        obtain ⟨rfl, rfl⟩ := List.cons.inj hmoves
        exact hrest before bytes later rfl
    · intro hquiet
      refine ⟨fun bytes hnext => ?_, fun before bytes later hrest => ?_⟩
      · exact hquiet [] bytes rest (by rw [hnext, List.nil_append])
      · exact hquiet (next :: before) bytes later (by rw [hrest, List.cons_append])

/-- A frame that arrives alone leaves nothing behind it. -/
theorem not_lingers_of_single {bytes : List UInt8}
    (hsingle : (run.channel.take bytes).1.length ≤ 1) : ¬ run.Lingers table number bytes := by
  rintro ⟨hheld, front, rest, after, hframes, hafter, hloose, late, hlate, -⟩
  cases front with
  | nil =>
    cases hafter
    exact hloose ((run.arrived_current? bytes).trans hheld)
  | cons first front =>
    have hlength := List.length_pos_of_mem hlate
    rw [hframes, List.length_append, List.length_cons] at hsingle
    omega

/-- **Where the bytes are cut so that no two frames are completed at once, every connection falls
silent when it is let go.** -/
theorem silent_of_single (htable : Proper table) (moves : List ChannelMove) (h : run.Orderly)
    (hsingle : ∀ before bytes later, moves = before ++ .peerWrite number bytes :: later →
      ((run.steps table before).channel.take bytes).1.length ≤ 1) :
    Silent table number moves run := by
  rw [h.quiet_iff htable]
  exact fun before bytes later hmoves => not_lingers_of_single (hsingle before bytes later hmoves)

instance (table : HandlerTable (ChannelRun τ)) (number : Nat) (moves : List ChannelMove)
    (run : ChannelRun τ) : Decidable (Silent table number moves run) :=
  inferInstanceAs (Decidable (List.Pairwise _ _))

/-- A frame that ends it, and one that comes behind it. -/
def bye : List UInt8 := Framing.bytes (Json.object [("event", .string "bye")]).render

end ChannelRun

end RenderSync
