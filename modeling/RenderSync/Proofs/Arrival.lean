import RenderSync.Channel.Basic

/-!
# Frames however they arrive

Bytes arrive in chunks that end anywhere: inside a line, inside a character, at a line end.  What
the reader does with them depends on the bytes alone.  The other side of this is `calls`, which
reads a stretch of bytes as a whole: it is taken apart at its line ends, what stands behind the last
one does not count, and every line is looked at by itself.

The carried state is the beginning of a line that waits, and it carries exactly what is missing
(`Framing.lines_append`).  So the work is about handlers: a handler neither sees the bytes that wait
nor lets the connection go nor gives up (`Calm`), and calls of that kind can be made before or after
other bytes have been put aside (`run_hold`).

The table of handlers is what became of a series of registrations, and a frame goes to the last one
under its name (`HandlerTable.lookup_ofRegistrations`).
-/

namespace RenderSync

/-! ## 1. Lines in pieces -/

namespace Framing

/-- What stands between line ends: the lines, and behind the last line end the one that waits. -/
theorem splitOn_lineEnd (bytes : List UInt8) :
    bytes.splitOn lineEnd = (lines bytes).1 ++ [(lines bytes).2] := by
  induction bytes with
  | nil => rfl
  | cons byte rest ih =>
    rw [List.splitOn_eq_splitOnP] at ih ⊢
    rw [List.splitOnP_cons_eq_if_modifyHead, ih, lines]
    by_cases hend : byte = lineEnd
    · simp [hend]
    · rcases hrest : lines rest with ⟨_ | ⟨line, others⟩, begun⟩
      · simp [hend]
      · simp [hend]

/-- **A line that was begun is all that one piece leaves to the next.** -/
theorem lines_append (front back : List UInt8) :
    lines (front ++ back) =
      ((lines front).1 ++ (lines ((lines front).2 ++ back)).1,
        (lines ((lines front).2 ++ back)).2) := by
  induction front with
  | nil => rfl
  | cons byte rest ih =>
    rw [List.cons_append, lines, ih, lines]
    by_cases hend : byte = lineEnd
    · simp [hend]
    · rcases hrest : lines rest with ⟨_ | ⟨line, others⟩, begun⟩
      · simp [hend, lines]
      · simp [hend]

/-- What waits holds no line. -/
theorem lines_begun (bytes : List UInt8) : lines (lines bytes).2 = ([], (lines bytes).2) := by
  have hwhole := lines_append bytes []
  rw [List.append_nil, List.append_nil] at hwhole
  have hnone : (lines (lines bytes).2).1 = [] :=
    List.self_eq_append_right.mp (congrArg Prod.fst hwhole)
  exact Prod.ext hnone (congrArg Prod.snd hwhole).symm

end Framing

/-! ## 2. Registrations -/

variable {σ : Type}

/-- A handler is registered: for whole frames under a name, or for the events of a kind. -/
inductive Registration (σ : Type) where
  | raw (name : String) (handler : Handler σ)
  | typed (kind : EventKind) (handle : Event → σ → Bool × σ)

namespace Registration

/-- The name of the events that it is for. -/
def name : Registration σ → String
  | raw name _ => name
  | typed kind _ => kind.name

/-- What it makes of a frame; nothing if it is for events and the payload does not decode. -/
def call? : Registration σ → Json → Option (σ → Bool × σ)
  | raw _ handler, frame => some (handler frame)
  | typed kind handle, frame => (Event.ofJson? kind frame).map handle

/-- The table with one registration more. -/
def register (registration : Registration σ) (table : HandlerTable σ) : HandlerTable σ :=
  match registration with
  | raw name handler => table.insert name handler
  | typed kind handle => table.on kind handle

/-- The entry of the table that it becomes. -/
def handler (registration : Registration σ) : Handler σ := fun frame state =>
  match registration.call? frame with
  | some call => call state
  | none => (true, state)

theorem register_eq (registration : Registration σ) (table : HandlerTable σ) :
    registration.register table = table.insert registration.name registration.handler := by
  cases registration with
  | raw name handler => rfl
  | typed kind handle =>
    refine congrArg (table.insert kind.name) (funext fun frame => funext fun state => ?_)
    unfold Registration.handler call?
    dsimp only
    cases Event.ofJson? kind frame with
    | none => rfl
    | some event => rfl

end Registration

namespace HandlerTable

/-- The handlers that were registered, one after the other. -/
def ofRegistrations (registrations : List (Registration σ)) : HandlerTable σ :=
  registrations.foldl (fun table registration => registration.register table) .empty

/-- **A handler takes the place of the one that had its name**, and of no other. -/
theorem lookup_insert (table : HandlerTable σ) (inserted name : String) (handler : Handler σ) :
    (table.insert inserted handler).entries.lookup name =
      if name = inserted then some handler else table.entries.lookup name := by
  have hothers : ∀ entries : List (String × Handler σ), name ≠ inserted →
      (entries.filter (·.1 != inserted)).lookup name = entries.lookup name := by
    intro entries hname
    induction entries with
    | nil => rfl
    | cons entry rest ih =>
      by_cases hentry : entry.1 = inserted
      · have hskipped : (name == entry.1) = false := by
          rw [hentry]
          exact beq_eq_false_iff_ne.mpr hname
        rw [List.filter_cons_of_neg (by simp [hentry]), ih, List.lookup_cons, hskipped]
      · rw [List.filter_cons_of_pos (by simp [hentry]), List.lookup_cons, List.lookup_cons, ih]
  rw [insert, List.lookup_cons]
  split
  · next hsame => rw [if_pos (eq_of_beq hsame)]
  · next hother =>
    have hname : name ≠ inserted := beq_eq_false_iff_ne.mp hother
    rw [if_neg hname, hothers table.entries hname]

/-- Of several handlers with one name the last one stays. -/
theorem lookup_insertAll {β : Type} (nameOf : β → String) (handlerOf : β → Handler σ)
    (name : String) (items : List β) : ∀ table : HandlerTable σ,
      (items.foldl (fun table item => table.insert (nameOf item) (handlerOf item))
        table).entries.lookup name =
        ((items.reverse.find? fun item => nameOf item == name).map handlerOf).or
          (table.entries.lookup name) := by
  induction items with
  | nil => exact fun table => rfl
  | cons item rest ih =>
    intro table
    rw [List.foldl_cons, ih, lookup_insert, List.reverse_cons, List.find?_append]
    cases rest.reverse.find? fun item => nameOf item == name with
    | some later => rfl
    | none =>
      by_cases hname : name = nameOf item
      · simp [hname]
      · simp [hname, Ne.symm hname]

/-- **The last registration under a name counts.** -/
theorem lookup_ofRegistrations (registrations : List (Registration σ)) (name : String) :
    (ofRegistrations registrations).entries.lookup name =
      (registrations.reverse.find? fun registration => registration.name == name).map
        Registration.handler := by
  have hempty : (HandlerTable.empty : HandlerTable σ).entries.lookup name = none := rfl
  simp only [ofRegistrations, Registration.register_eq]
  rw [lookup_insertAll, hempty, Option.or_none]

end HandlerTable

/-! ## 3. What bytes call for -/

/-- What a frame calls for: the last registration under the name in its field `event`. -/
def callOf? (registrations : List (Registration σ)) (frame : Json) : Option (σ → Bool × σ) := do
  let name ← (frame.field? "event").bind Json.string?
  let registration ← registrations.reverse.find? fun registration => registration.name == name
  registration.call? frame

/-- What a line calls for: it is read leniently as UTF-8, blanks around it do not matter, and
nothing is done about one without text or one that is no JSON. -/
def callIn? (registrations : List (Registration σ)) (line : List UInt8) :
    Option (σ → Bool × σ) := do
  let text := Text.trim (Utf8.decodeLossy line)
  if text.isEmpty then none
  let frame ← Json.parse? text
  callOf? registrations frame

/-- What a stretch of bytes calls for, line by line; what stands behind the last line end calls for
nothing. -/
def calls (registrations : List (Registration σ)) (bytes : List UInt8) : List (σ → Bool × σ) :=
  (bytes.splitOn Framing.lineEnd).dropLast.filterMap (callIn? registrations)

/-- Makes calls, one after the other. -/
def runCalls (calls : List (σ → Bool × σ)) (state : σ) : σ :=
  calls.foldl (fun state call => (call state).2) state

theorem callIn?_eq (registrations : List (Registration σ)) (line : List UInt8) :
    callIn? registrations line = (Framing.frame? line).bind (callOf? registrations) := by
  unfold callIn? Framing.frame?
  cases Text.trim (Utf8.decodeLossy line) with
  | nil => rfl
  | cons c text => rfl

theorem calls_eq (registrations : List (Registration σ)) (bytes : List UInt8) :
    calls registrations bytes = (Framing.lines bytes).1.filterMap (callIn? registrations) := by
  rw [calls, Framing.splitOn_lineEnd, List.dropLast_concat]

theorem runCalls_append (front back : List (σ → Bool × σ)) (state : σ) :
    runCalls (front ++ back) state = runCalls back (runCalls front state) := List.foldl_append

/-- **A line end separates**: what stands before it and what stands behind it call for what they
call for alone. -/
theorem calls_append (registrations : List (Registration σ)) (front back : List UInt8) :
    calls registrations (front ++ Framing.lineEnd :: back) =
      calls registrations (front ++ [Framing.lineEnd]) ++ calls registrations back := by
  have hends : (Framing.lineEnd == Framing.lineEnd) = true := beq_self_eq_true _
  have hsplit : ∀ rest, (front ++ Framing.lineEnd :: rest).splitOn Framing.lineEnd =
      front.splitOn Framing.lineEnd ++ rest.splitOn Framing.lineEnd := by
    intro rest
    simp only [List.splitOn_eq_splitOnP]
    exact List.splitOnP_append_cons front rest hends
  have hrest := List.splitOn_ne_nil Framing.lineEnd back
  rw [calls, calls, calls, hsplit, hsplit, List.dropLast_append_of_ne_nil hrest,
    List.filterMap_append]
  simp

/-- What is no complete line calls for nothing. -/
theorem calls_of_begun (registrations : List (Registration σ)) {bytes : List UInt8}
    (h : Framing.lineEnd ∉ bytes) : calls registrations bytes = [] := by
  have hnone : Framing.lines bytes = ([], bytes) := by
    induction bytes with
    | nil => rfl
    | cons byte rest ih =>
      obtain ⟨hbyte, hrest⟩ := not_or.mp (mt List.mem_cons.mpr h)
      rw [Framing.lines, ih hrest]
      exact if_neg (Ne.symm hbyte)
  rw [calls_eq, hnone]
  rfl

/-- A frame is dispatched to what it calls for. -/
theorem dispatch_eq (registrations : List (Registration σ)) (frame : Json) (state : σ) :
    (HandlerTable.ofRegistrations registrations).dispatch frame state =
      match callOf? registrations frame with
      | some call => call state
      | none => (true, state) := by
  unfold HandlerTable.dispatch HandlerTable.handlerOf? HandlerTable.nameOf? callOf?
  cases (frame.field? "event").bind Json.string? with
  | none => rfl
  | some name =>
    simp only [Option.bind_some, Option.bind_eq_bind, HandlerTable.lookup_ofRegistrations]
    cases registrations.reverse.find? fun registration => registration.name == name with
    | none => rfl
    | some registration => rfl

/-! ## 4. Handlers that leave the reader alone -/

/-- The same channel with other bytes that wait. -/
def Channel.withPending (bytes : List UInt8) (channel : Channel) : Channel :=
  ⟨channel.connection.map fun connection => { connection with pending := bytes }⟩

namespace Channel.Place

/-- What is put into a place is there, and nothing else is changed. -/
structure Lawful (place : Place σ) : Prop where
  get_set : ∀ channel state, place.get (place.set channel state) = channel
  set_set : ∀ channel other state,
    place.set channel (place.set other state) = place.set channel state
  set_get : ∀ state, place.set (place.get state) state = state

/-- The state with other bytes that wait. -/
def hold (place : Place σ) (bytes : List UInt8) (state : σ) : σ :=
  place.set ((place.get state).withPending bytes) state

/-- **A call that leaves the reader alone**: it does not give up, the connection is the same
afterwards, and it does not see the bytes that wait, which are the reader's own. -/
structure Calm (place : Place σ) (call : σ → Bool × σ) : Prop where
  goesOn : ∀ state, (call state).1 = true
  keeps : ∀ state, place.get (call state).2 = place.get state
  blind : ∀ state bytes, (call (place.hold bytes state)).2 = place.hold bytes (call state).2

variable {place : Place σ}

theorem Lawful.get_hold (h : place.Lawful) (bytes : List UInt8) (state : σ) :
    place.get (place.hold bytes state) = (place.get state).withPending bytes := h.get_set _ _

theorem Lawful.hold_hold (h : place.Lawful) (bytes other : List UInt8) (state : σ) :
    place.hold bytes (place.hold other state) = place.hold bytes state := by
  unfold hold
  rw [h.get_set, h.set_set]
  unfold withPending
  rw [Option.map_map]
  rfl

/-- Several calls leave the connection alone if each does. -/
theorem get_runCalls (calls : List (σ → Bool × σ)) (h : ∀ call ∈ calls, place.Calm call) :
    ∀ state, place.get (runCalls calls state) = place.get state := by
  induction calls with
  | nil => exact fun _ => rfl
  | cons call rest ih =>
    intro state
    obtain ⟨hcall, hrest⟩ := List.forall_mem_cons.mp h
    exact (ih hrest (call state).2).trans (hcall.keeps state)

/-- **Bytes may be put aside before calls or after them.** -/
theorem runCalls_hold (calls : List (σ → Bool × σ)) (h : ∀ call ∈ calls, place.Calm call)
    (bytes : List UInt8) :
    ∀ state, runCalls calls (place.hold bytes state) = place.hold bytes (runCalls calls state) := by
  induction calls with
  | nil => exact fun _ => rfl
  | cons call rest ih =>
    intro state
    obtain ⟨hcall, hrest⟩ := List.forall_mem_cons.mp h
    have hfirst := hcall.blind state bytes
    have hothers := ih hrest (call state).2
    rw [← hfirst] at hothers
    exact hothers

end Channel.Place

/-! ## 5. The reader -/

section Reader

variable {place : Channel.Place σ} {registrations : List (Registration σ)}

/-- Everything that the registrations make of frames leaves the reader alone. -/
def AllCalm (place : Channel.Place σ) (registrations : List (Registration σ)) : Prop :=
  ∀ registration ∈ registrations, ∀ frame call, registration.call? frame = some call →
    place.Calm call

theorem AllCalm.callOf? (h : AllCalm place registrations) {frame : Json} {call : σ → Bool × σ}
    (hcall : callOf? registrations frame = some call) : place.Calm call := by
  obtain ⟨name, -, hfound⟩ := Option.bind_eq_some_iff.mp hcall
  obtain ⟨registration, hregistration, hcall⟩ := Option.bind_eq_some_iff.mp hfound
  exact h registration (List.mem_reverse.mp (List.mem_of_find?_eq_some hregistration)) frame call
    hcall

/-- **Frames are handled to the last one**, where no handler gives up. -/
theorem dispatchAll_eq (h : AllCalm place registrations) (frames : List Json) :
    ∀ state, (HandlerTable.ofRegistrations registrations).dispatchAll frames state =
      (true, runCalls (frames.filterMap (callOf? registrations)) state) := by
  induction frames with
  | nil => exact fun _ => rfl
  | cons frame rest ih =>
    intro state
    rw [HandlerTable.dispatchAll, dispatch_eq]
    cases hcall : RenderSync.callOf? registrations frame with
    | none =>
      rw [List.filterMap_cons_none hcall]
      exact ih state
    | some call =>
      have hgoes : call state = (true, (call state).2) :=
        Prod.ext ((h.callOf? hcall).goesOn state) rfl
      rw [List.filterMap_cons_some hcall]
      dsimp only
      rw [hgoes]
      exact ih (call state).2

/-- So are lines. -/
theorem AllCalm.lines (h : AllCalm place registrations) (lines : List (List UInt8)) :
    ∀ call ∈ lines.filterMap (callIn? registrations), place.Calm call := by
  intro call hcall
  obtain ⟨line, -, hcall⟩ := List.mem_filterMap.mp hcall
  rw [callIn?_eq] at hcall
  obtain ⟨frame, -, hcall⟩ := Option.bind_eq_some_iff.mp hcall
  exact h.callOf? hcall

/-- **What one chunk does**: the lines that it completes are handled, and the rest waits. -/
theorem receive_eq (h : AllCalm place registrations) {state : σ} {address : String}
    {number : Nat} {begun : List UInt8}
    (hheld : (place.get state).connection = some ⟨address, number, true, begun⟩)
    (bytes : List UInt8) :
    Channel.receive place (.ofRegistrations registrations) bytes state =
      place.hold (Framing.lines (begun ++ bytes)).2
        (runCalls ((Framing.lines (begun ++ bytes)).1.filterMap (callIn? registrations)) state)
    := by
  have htake : (place.get state).take bytes =
      ((Framing.lines (begun ++ bytes)).1.filterMap Framing.frame?,
        (place.get state).withPending (Framing.lines (begun ++ bytes)).2) := by
    rw [Channel.take, Channel.withPending, hheld]
    rfl
  have hput : place.set ((place.get state).withPending (Framing.lines (begun ++ bytes)).2)
      state = place.hold (Framing.lines (begun ++ bytes)).2 state := rfl
  have hcalls : ((Framing.lines (begun ++ bytes)).1.filterMap Framing.frame?).filterMap
      (callOf? registrations) =
      (Framing.lines (begun ++ bytes)).1.filterMap (callIn? registrations) := by
    rw [List.filterMap_filterMap, funext (callIn?_eq registrations)]
  unfold Channel.receive
  rw [htake]
  dsimp only
  rw [dispatchAll_eq h, hput, hcalls]
  exact Channel.Place.runCalls_hold _ (h.lines _) _ state

/-- **What several chunks do**, where a line was begun before. -/
theorem receiveAll_eq (hplace : place.Lawful) (h : AllCalm place registrations)
    {address : String} {number : Nat} (chunks : List (List UInt8)) :
    ∀ {state : σ} {begun : List UInt8}, Framing.lines begun = ([], begun) →
      (place.get state).connection = some ⟨address, number, true, begun⟩ →
      chunks.foldl (fun state bytes =>
          Channel.receive place (.ofRegistrations registrations) bytes state) state =
        place.hold (Framing.lines (begun ++ chunks.flatten)).2
          (runCalls ((Framing.lines (begun ++ chunks.flatten)).1.filterMap
            (callIn? registrations)) state) := by
  induction chunks with
  | nil =>
    intro state begun hbegun hheld
    have hsame : (place.get state).withPending begun = place.get state := by
      rcases hget : place.get state with ⟨connection⟩
      rw [hget] at hheld
      cases hheld
      rfl
    rw [List.flatten_nil, List.append_nil, hbegun, List.foldl_nil, Channel.Place.hold]
    exact ((congrArg (place.set · state) hsame).trans (hplace.set_get state)).symm
  | cons chunk rest ih =>
    intro state begun hbegun hheld
    have hready := Channel.Place.get_runCalls _ (h.lines (Framing.lines (begun ++ chunk)).1) state
    have hnext : (place.get (place.hold (Framing.lines (begun ++ chunk)).2
        (runCalls ((Framing.lines (begun ++ chunk)).1.filterMap (callIn? registrations))
          state))).connection =
        some ⟨address, number, true, (Framing.lines (begun ++ chunk)).2⟩ := by
      rw [hplace.get_hold, hready, Channel.withPending, hheld]
      rfl
    rw [List.foldl_cons, receive_eq h hheld, ih (Framing.lines_begun _) hnext,
      Channel.Place.runCalls_hold _ (h.lines _), hplace.hold_hold, List.flatten_cons,
      ← List.append_assoc, Framing.lines_append (begun ++ chunk), List.filterMap_append,
      runCalls_append]

/-- **Only the bytes count, not the chunks in which they arrive.**  A connection is fresh, and the
handlers leave the reader alone.  Then what all chunks come to is what the bytes as a whole call
for: line by line, in order, nothing for the line that has not ended, which is all that waits
afterwards; and the reader goes on.  Each line counts for itself, whatever the others are. -/
theorem received_however_cut (hplace : place.Lawful) (h : AllCalm place registrations)
    (chunks : List (List UInt8)) (state : σ) (address : String) (number : Nat)
    (hfresh : (place.get state).connection = some ⟨address, number, true, []⟩) :
    let after := chunks.foldl (fun state bytes =>
      Channel.receive place (.ofRegistrations registrations) bytes state) state
    let begun := (chunks.flatten.splitOn Framing.lineEnd).getLastD []
    after = place.hold begun (runCalls (calls registrations chunks.flatten) state) ∧
      (place.get after).connection = some ⟨address, number, true, begun⟩ ∧
      (∀ front back, calls registrations (front ++ Framing.lineEnd :: back) =
        calls registrations (front ++ [Framing.lineEnd]) ++ calls registrations back) ∧
      ∀ bytes, Framing.lineEnd ∉ bytes → calls registrations bytes = [] := by
  intro after begun
  have hbegun : begun = (Framing.lines chunks.flatten).2 := by
    simp only [begun, Framing.splitOn_lineEnd, List.getLastD_concat]
  have hafter : after =
      place.hold begun (runCalls (calls registrations chunks.flatten) state) := by
    rw [calls_eq, hbegun]
    exact receiveAll_eq hplace h chunks rfl hfresh
  refine ⟨hafter, ?_, calls_append registrations, fun bytes => calls_of_begun registrations⟩
  have hcalm := h.lines (Framing.lines chunks.flatten).1
  rw [hafter, hplace.get_hold, calls_eq, Channel.Place.get_runCalls _ hcalm, Channel.withPending,
    hfresh]
  rfl

end Reader

/-- A channel beside what was noted. -/
def notebook : Channel.Place (Channel × List String) where
  get := Prod.fst
  set channel state := (channel, state.2)

/-- Notes something. -/
def noting (text : String) (state : Channel × List String) : Bool × Channel × List String :=
  (true, state.1, state.2 ++ [text])

/-- Two handlers under one name, and one for events that need a payload. -/
def noters : List (Registration (Channel × List String)) :=
  [.raw "a" fun _ => noting "first", .raw "a" fun _ => noting "second",
    .typed .buildStarted fun _ => noting "started"]

/-- A frame with a name and a text. -/
def noteFrame (name text : String) : String :=
  (Json.object [("event", .string name), ("text", .string text)]).render

/-- Six lines and the beginning of another: the second one is blank, the third is no JSON, the
fourth has no payload, and in the fifth there is a character of two octets. -/
def sixLines : List UInt8 :=
  [noteFrame "a" "", " ", "oops", noteFrame "build-started" "", noteFrame "a" "é",
    (Event.buildStarted .library).frame.render].flatMap Framing.bytes ++
    Utf8.ofString (noteFrame "a" "")

/-- Every octet is a chunk of its own.  Three lines are handled, and the last one waits. -/
theorem sixLines_received :
    notebook.Lawful ∧ AllCalm notebook noters ∧
      let after := (sixLines.map fun octet => [octet]).foldl (fun state bytes =>
        Channel.receive notebook (.ofRegistrations noters) bytes state)
        (⟨some ⟨"h:1", 0, true, []⟩⟩, [])
      after = notebook.hold (Utf8.ofString (noteFrame "a" ""))
          (runCalls (calls noters (sixLines.map fun octet => [octet]).flatten)
            (⟨some ⟨"h:1", 0, true, []⟩⟩, [])) ∧
        after.2 = ["second", "second", "started"] ∧ after.1.isConnected = true := by
  have hlawful : notebook.Lawful := ⟨fun _ _ => rfl, fun _ _ _ => rfl, fun _ => rfl⟩
  have hnoting : ∀ text, notebook.Calm (noting text) := fun _ =>
    ⟨fun _ => rfl, fun _ => rfl, fun _ _ => rfl⟩
  have hcalm : AllCalm notebook noters := by
    intro registration hregistration frame call hcall
    simp only [noters, List.mem_cons, List.not_mem_nil, or_false] at hregistration
    rcases hregistration with rfl | rfl | rfl
    · cases hcall
      exact hnoting "first"
    · cases hcall
      exact hnoting "second"
    · obtain ⟨event, -, rfl⟩ := Option.map_eq_some_iff.mp hcall
      exact hnoting "started"
  obtain ⟨hafter, -, -, -⟩ := received_however_cut hlawful hcalm
    (sixLines.map fun octet => [octet]) (⟨some ⟨"h:1", 0, true, []⟩⟩, []) "h:1" 0 rfl
  have hbegun : ((sixLines.map fun octet => [octet]).flatten.splitOn Framing.lineEnd).getLastD [] =
      Utf8.ofString (noteFrame "a" "") := by
    decide +kernel
  rw [hbegun] at hafter
  exact ⟨hlawful, hcalm, hafter, by decide +kernel, by decide +kernel⟩

end RenderSync
