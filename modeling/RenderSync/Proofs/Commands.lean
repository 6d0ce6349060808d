import RenderSync.Proofs.Arrival
import RenderSync.Proofs.Meanwhile
import RenderSync.Proofs.Reading

/-!
# Commands over the wire

What the application asks for is read on the other side as it was asked: the texts of the commands
that are sent come out of the octets between line ends, each is read as the command that it was, and
whoever reads it as a frame of any kind finds the tag (`Command.sent_readBack`).

A command is an object of strings and truth values, none of them under the name of the tag, so that
reading it back is a case of reading such objects.
-/

namespace RenderSync

namespace Command

/-! ## 1. One command -/

/-- Every tag is one of the tags. -/
theorem name_mem_names (command : Command) : names.contains command.name = true := by
  cases command <;> simp [names, name]

/-- The fields of a command are simple, and none has the name of the tag. -/
theorem simple_fields (command : Command) :
    ∀ field ∈ command.fields, field.2.IsSimple ∧ field.1 ≠ "command" := by
  have htext : ∀ (name text : String), name ≠ "command" →
      (name, Json.string text).2.IsSimple ∧ (name, Json.string text).1 ≠ "command" :=
    fun _ text hname => ⟨Or.inl ⟨text, rfl⟩, hname⟩
  have htruth : ∀ (name : String) (b : Bool), name ≠ "command" →
      (name, Json.bool b).2.IsSimple ∧ (name, Json.bool b).1 ≠ "command" :=
    fun _ b hname => ⟨Or.inr ⟨b, rfl⟩, hname⟩
  cases command with
  | build mode target =>
    exact List.forall_mem_cons.mpr ⟨htext "mode" mode.name (by decide),
      List.forall_mem_singleton.mpr (htext "target" target.name (by decide))⟩
  | setBuildOnChange executable library =>
    exact List.forall_mem_cons.mpr ⟨htruth "executable" executable (by decide),
      List.forall_mem_singleton.mpr (htruth "library" library (by decide))⟩
  | setProjectDirectory path =>
    exact List.forall_mem_singleton.mpr (htext "path" path (by decide))
  | exportProject directory output target =>
    exact List.forall_mem_cons.mpr ⟨htext "directory" directory (by decide),
      List.forall_mem_cons.mpr ⟨htext "output" output.name (by decide),
        List.forall_mem_singleton.mpr (htext "target" target (by decide))⟩⟩
  | run => exact nofun

/-- So is the tag itself. -/
theorem simple_entries (command : Command) :
    ∀ field ∈ ("command", Json.string command.name) :: command.fields, field.2.IsSimple :=
  List.forall_mem_cons.mpr
    ⟨Or.inl ⟨command.name, rfl⟩, fun field hfield => (command.simple_fields field hfield).1⟩

/-- The octets of a command. -/
theorem ofString_line (command : Command) :
    Utf8.ofString command.line = Utf8.encode (Json.renderChars command.toJson) := by
  rw [Utf8.ofString, line, Json.render, String.toList_ofList]

/-- **A value is the command that it was made from.** -/
theorem ofJson?_toJson (command : Command) : ofJson? command.toJson = some command := by
  cases command with
  | build mode target => cases mode <;> cases target <;> rfl
  | setBuildOnChange executable library => rfl
  | setProjectDirectory path => rfl
  | exportProject directory output target => cases output <;> rfl
  | run => rfl

/-- **A text is the command that it was made from.** -/
theorem ofOctets_line (command : Command) :
    ofOctets (Utf8.ofString command.line) = .ok command := by
  have haccepts : (ofJson? command.toJson).isSome = true := by rw [ofJson?_toJson, Option.isSome]
  have hread : shape.read (Utf8.ofString command.line) = .ok command.toJson := by
    rw [ofString_line]
    exact Json.read_tagged command.name_mem_names command.simple_fields haccepts
  rw [ofOctets, Json.Shape.decode, hread]
  simp only [bind, Except.bind, ofJson?_toJson]

/-- **Every reader of frames finds the tag.** -/
theorem frame?_line (command : Command) :
    ∃ frame, Framing.frame? (Utf8.ofString command.line) = some frame ∧
      frame.field? "command" = some (.string command.name) := by
  refine ⟨_, by rw [ofString_line]; exact Framing.frame?_object command.simple_entries, ?_⟩
  have hothers : command.fields.reverse.lookup "command" = none := by
    rw [List.lookup_eq_none_iff]
    intro field hfield
    have hother := (command.simple_fields field (List.mem_reverse.mp hfield)).2
    exact bne_iff_ne.mpr (Ne.symm hother)
  rw [Json.field?, Json.Fields.lookup_ofEntries, List.reverse_cons, List.lookup_append, hothers]
  rfl

end Command

/-! ## 2. All that are sent -/

/-- **Lines that are sent on an open connection are all received**, in order and behind what was
received before. -/
theorem Channel.sendAll_received {channel : Channel} {connection : Connection}
    (hheld : channel.connection = some connection) (texts : List String) :
    ∀ {network : Network} {old : List UInt8}, network.IsOpen connection.number →
      network.received? connection.number = some old →
      ∃ after, channel.sendAll texts network = (.ok (), after) ∧
        after.received? connection.number = some (old ++ texts.flatMap Framing.bytes) := by
  induction texts with
  | nil =>
    intro network old _ hold
    exact ⟨network, rfl, by rw [List.flatMap_nil, List.append_nil, hold]⟩
  | cons text rest ih =>
    intro network old hopen hold
    obtain ⟨htaken, hstill⟩ := hopen.send (Framing.bytes text)
    rcases hsend : network.send connection.number (Framing.bytes text) with ⟨taken, next⟩
    rw [hsend] at htaken hstill
    obtain rfl : taken = true := htaken
    have hline : channel.send text network = (.ok (), next) := by
      simp only [send, hheld, hsend]
    obtain ⟨after, hrest, hafter⟩ := ih hstill (send_ok hheld hold hline)
    refine ⟨after, ?_, ?_⟩
    · simp only [sendAll, hline, hrest]
    · rw [List.flatMap_cons, ← List.append_assoc, hafter]

namespace Command

/-- The octets that commands are sent as. -/
def octets (commands : List Command) : List UInt8 :=
  commands.flatMap fun command => Framing.bytes command.line

/-- **What stands between line ends are the texts of the commands**, and nothing behind the last
line end. -/
theorem splitOn_octets (commands : List Command) :
    (octets commands).splitOn Framing.lineEnd =
      commands.map (fun command => Utf8.ofString command.line) ++ [[]] := by
  have hlines := Framing.lines_values (commands.map toJson)
  rw [List.flatMap_map, List.map_map, Function.comp_def] at hlines
  have hoctets : Framing.lines (octets commands) =
      (commands.map fun command => Utf8.ofString command.line, []) := hlines
  rw [Framing.splitOn_lineEnd, hoctets]

/-- **What is sent is read back.**  For all commands, whatever characters their strings hold, and
every channel with a connection that takes what is sent: sending them one after the other succeeds,
and the octets that arrive, split at line ends, are as many pieces as commands and an empty one.
Each piece is read as its command; whoever reads it as a frame finds the name of the command in the
field `command`; and it holds no line end itself. -/
theorem sent_readBack (commands : List Command) {channel : Channel} {connection : Connection}
    {network : Network} {old : List UInt8} (hheld : channel.connection = some connection)
    (hopen : network.IsOpen connection.number)
    (hold : network.received? connection.number = some old) :
    ∃ after written, channel.sendAll (commands.map line) network = (.ok (), after) ∧
      after.received? connection.number = some (old ++ written) ∧
      let pieces := (written.splitOn Framing.lineEnd).dropLast
      written.splitOn Framing.lineEnd = pieces ++ [[]] ∧
        pieces.map ofOctets = commands.map .ok ∧
        pieces.map (fun piece => (Framing.frame? piece).bind (Json.field? "command")) =
          commands.map (fun command => some (.string command.name)) ∧
        ∀ piece ∈ pieces, Framing.lineEnd ∉ piece := by
  obtain ⟨after, hsent, hafter⟩ := Channel.sendAll_received hheld (commands.map line) hopen hold
  rw [List.flatMap_map] at hafter
  have hpieces : ((octets commands).splitOn Framing.lineEnd).dropLast =
      commands.map fun command => Utf8.ofString command.line := by
    rw [splitOn_octets, List.dropLast_concat]
  refine ⟨after, octets commands, hsent, hafter, ?_⟩
  dsimp only
  rw [hpieces, List.map_map, List.map_map]
  refine ⟨splitOn_octets commands, List.map_congr_left fun command _ => command.ofOctets_line,
    List.map_congr_left fun command _ => ?_, fun piece hpiece => ?_⟩
  · obtain ⟨frame, hframe, htag⟩ := command.frame?_line
    rw [Function.comp_apply, hframe]
    exact htag
  · obtain ⟨command, -, rfl⟩ := List.mem_map.mp hpiece
    exact Utf8.lineEnd_notMem_ofString command.newline_notMem_line

/-- Commands with strings that have to be escaped, of characters that take up to four octets. -/
def escaping : List Command :=
  [.setProjectDirectory "a\n\"b\"\\\x00\x1f\t", .run,
    .exportProject "é\u2028😀" .sevenZip "\x7d\r\n,", .build .updates .executable]

/-- They are read back behind what was sent before. -/
theorem escaping_readBack :
    let channel : Channel := ⟨some ⟨"h:1", 0, false, []⟩⟩
    let network : Network := ⟨true, [], [], [⟨1, [65], false⟩]⟩
    network.IsOpen 0 ∧ network.received? 0 = some [65] ∧
      ∃ after written, channel.sendAll (escaping.map line) network = (.ok (), after) ∧
        after.received? 0 = some (65 :: written) ∧
        (written.splitOn Framing.lineEnd).dropLast.map ofOctets = escaping.map .ok := by
  intro channel network
  have hheld : channel.connection = some ⟨"h:1", 0, false, []⟩ := rfl
  have hopen : network.IsOpen 0 := ⟨_, rfl, rfl⟩
  obtain ⟨after, written, hsent, hafter, -, hback, -⟩ := sent_readBack escaping hheld hopen rfl
  exact ⟨hopen, rfl, after, written, hsent, hafter, hback⟩

end Command

end RenderSync
