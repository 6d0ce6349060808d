import RenderSync.Proofs.Children
import RenderSync.Proofs.Runs

/-!
# The process of a session, from start to stop

A connect leaves the process as it is, or stops it before it starts another one, and which of the
two can be said beforehand (`Chronicle.Spares`): it leaves it where the session is set up already,
or where it is not connected and the process runs as it should.  A connect that does not find its
executable leaves it as well.

So along a run there is never more than one child, and it is the one that the session holds
(`Chronicle.Orderly`, `one_child`).  Every move is one of three: it connects, it disconnects, or it
only talks (`step_cases`).
-/

namespace RenderSync

/-- A channel that does not read is not connected. -/
theorem Channel.isConnected_stopReading (channel : Channel) :
    channel.stopReading.isConnected = false := by
  obtain ⟨_ | connection⟩ := channel
  · rfl
  · rfl

/-- What applies is a configuration that is the same. -/
theorem ServerCurrent.applies_iff {current : ServerCurrent} {config : ServerConfig} :
    current.applies config = true ↔
      ∃ applied, current.applied = some applied ∧ applied.same config = true := by
  unfold ServerCurrent.applies
  cases current.applied with
  | none => simp
  | some applied => simp

namespace Chronicle

variable {chronicle : Chronicle} {held : Option Child}

/-! ## 1. Connecting -/

theorem amid_talks (others : Outside) (chronicle : Chronicle) :
    Talks chronicle (chronicle.amid others) := ⟨rfl, rfl, rfl, .refl chronicle.acts⟩

theorem sayAllAmid_talked (before : Nat → Outside) (files : FileTree) (commands : List Command)
    (channel : Channel) : ∀ (place : Nat) (world : World) (acts : List Act),
      Talked acts (channel.sayAllAmid before files commands place world acts).2.2 := by
  induction commands with
  | nil => exact fun _ _ acts => .refl acts
  | cons command rest ih =>
    intro place world acts
    rw [Channel.sayAllAmid]
    rcases channel.send command.line ((before place).change world).network with
      ⟨e | ⟨⟩, network⟩
    · exact .refl acts
    · exact (Talked.one acts _ rfl).trans (ih (place + 1) _ _)

/-- Setting up the connection does not touch the process. -/
theorem connectChannelAmid_talks (before : Nat → Outside) (config : ServerConfig)
    (chronicle : Chronicle) :
    Talks chronicle (chronicle.connectChannelAmid before config).2 := by
  unfold connectChannelAmid
  dsimp only
  have hdialed := (Talked.closing chronicle.acts chronicle.session.channel).trans
    (.one _ (.dialed config) rfl)
  rcases chronicle.session.channel.connect config.ip config.port chronicle.world.network with
    ⟨e | ⟨⟩, channel, network⟩
  · exact ⟨rfl, rfl, rfl, hdialed⟩
  · have hsaid := (hdialed.trans (.one _ .opened rfl)).trans (sayAllAmid_talked before
      chronicle.world.files (chronicle.session.bootstrap.commands chronicle.world.files) channel 0
      { chronicle.world with network := network } _)
    dsimp only
    generalize Channel.sayAllAmid _ _ _ _ _ _ _ = said at hsaid ⊢
    rcases said with ⟨e | ⟨⟩, world, acts⟩
    · exact ⟨rfl, rfl, rfl, hsaid.trans (.closing acts channel)⟩
    · exact ⟨rfl, rfl, rfl, hsaid⟩

/-- Once the process was seen to it stays as it is. -/
theorem connectAmid_talks (meanwhile : Meanwhile) {config : ServerConfig}
    (hnot : ¬chronicle.session.ServesAs config) :
    Talks ((chronicle.ready meanwhile).ensureCli config).2
      (chronicle.connectAmid meanwhile config).2 := by
  unfold connectAmid
  rw [Session.check_of_not_servesAs hnot]
  rcases (chronicle.ready meanwhile).ensureCli config with ⟨e | ⟨⟩, ready⟩
  · exact amid_talks meanwhile.beforeConnection ready
  · exact (amid_talks meanwhile.beforeConnection ready).trans
      (connectChannelAmid_talks meanwhile.beforeCommand config _)

/-- A session that is set up already stays as it is. -/
theorem connectAmid_of_servesAs (meanwhile : Meanwhile) {config : ServerConfig}
    (hserves : chronicle.session.ServesAs config) :
    chronicle.connectAmid meanwhile config = (.ok (), chronicle) := by
  unfold connectAmid
  rw [hserves.check]
  rfl

/-- **The session is taken down first where it is connected**; where it is not, others have
acted. -/
theorem ready_cases (h : chronicle.session.Sound) (hholds : chronicle.session.Holds held)
    (meanwhile : Meanwhile) :
    (chronicle.session.channel.isConnected = false ∧
      chronicle.ready meanwhile = chronicle.amid meanwhile.beforeProcess) ∨
    chronicle.session.channel.isConnected = true ∧
      ∃ stopped, Swaps held none chronicle stopped ∧ Talks stopped (chronicle.ready meanwhile) := by
  unfold ready down
  cases chronicle.session.channel.isConnected with
  | false => exact Or.inl ⟨rfl, rfl⟩
  | true =>
    obtain ⟨stopped, hswaps, htalks⟩ := disconnect_swaps h hholds
    exact Or.inr ⟨rfl, stopped, hswaps, htalks.trans (amid_talks meanwhile.beforeProcess _)⟩

/-- The executable for a configuration as a connect finds it. -/
def resolve (meanwhile : Meanwhile) (config : ServerConfig) (chronicle : Chronicle) :
    Except ServerError Path :=
  (chronicle.ready meanwhile).session.cliPath (chronicle.ready meanwhile).world config

theorem ready_of_closed (meanwhile : Meanwhile)
    (hclosed : chronicle.session.channel.isConnected = false) :
    chronicle.ready meanwhile = chronicle.amid meanwhile.beforeProcess := by
  unfold ready down
  rw [hclosed]
  rfl

theorem resolve_of_closed {meanwhile : Meanwhile} {config : ServerConfig}
    (hclosed : chronicle.session.channel.isConnected = false) :
    chronicle.resolve meanwhile config =
      chronicle.session.cliPath (meanwhile.beforeProcess.change chronicle.world) config := by
  rw [resolve, ready_of_closed meanwhile hclosed]
  rfl

/-- A connect leaves the process as it is: the session is set up already, or it is not connected
and seeing to the process would not change it. -/
def Spares (meanwhile : Meanwhile) (config : ServerConfig) (chronicle : Chronicle) : Prop :=
  chronicle.session.ServesAs config ∨ chronicle.session.channel.isConnected = false ∧
    chronicle.session.Spares config (meanwhile.beforeProcess.change chronicle.world)

/-- **Such a connect does leave it.** -/
theorem connectAmid_spares {meanwhile : Meanwhile} {config : ServerConfig}
    (hspares : chronicle.Spares meanwhile config) :
    Stays chronicle (chronicle.connectAmid meanwhile config).2 := by
  by_cases hserves : chronicle.session.ServesAs config
  · rw [connectAmid_of_servesAs meanwhile hserves]
    exact (Talks.refl chronicle).stays
  · obtain ⟨hclosed, hruns⟩ := hspares.resolve_left hserves
    have hready := ready_of_closed meanwhile hclosed
    have hbefore : Stays chronicle (chronicle.ready meanwhile) :=
      hready.symm ▸ (amid_talks meanwhile.beforeProcess chronicle).stays
    have hstays : Stays (chronicle.ready meanwhile)
        ((chronicle.ready meanwhile).ensureCli config).2 :=
      ensureCli_stays (hready.symm ▸ hruns)
    exact hbefore.trans (hstays.trans (connectAmid_talks meanwhile hserves).stays)

/-- **Every other connect stops the child that is held**, and starts one at most, as its
configuration asks for it. -/
theorem connectAmid_replaces (h : chronicle.session.Sound) (hholds : chronicle.session.Holds held)
    {meanwhile : Meanwhile} {config : ServerConfig}
    (hspares : ¬chronicle.Spares meanwhile config) :
    ∃ new, Replaces held new chronicle (chronicle.connectAmid meanwhile config).2 ∧
      ∀ child, new = some child → config.location.spawnsCli = true ∧
        ∃ path, chronicle.resolve meanwhile config = .ok path ∧
          child.Runs (Session.launchOf config path)
            (chronicle.connectAmid meanwhile config).2.session := by
  have hserves : ¬chronicle.session.ServesAs config := fun hserves => hspares (Or.inl hserves)
  have hrest := (connectAmid_talks meanwhile hserves).stays
  rcases ready_cases h hholds meanwhile with ⟨hclosed, hready⟩ | ⟨-, stopped, hswaps, htalks⟩
  · have hbefore : Stays chronicle (chronicle.ready meanwhile) :=
      hready.symm ▸ (amid_talks meanwhile.beforeProcess chronicle).stays
    have hruns : ¬(chronicle.ready meanwhile).session.Spares config
        (chronicle.ready meanwhile).world := by
      rw [hready]
      exact fun hruns => hspares (Or.inr ⟨hclosed, hruns⟩)
    obtain ⟨new, hreplaces, hnew⟩ :=
      ensureCli_replaces (hbefore.sound h) (hbefore.holds hholds) hruns
    refine ⟨new, (hbefore.replaces hreplaces).stays hrest, fun child hchild => ?_⟩
    obtain ⟨hspawns, path, hpath, hchildRuns⟩ := hnew child hchild
    exact ⟨hspawns, path, hpath, hrest.runs hchildRuns⟩
  · have hdown : Replaces held none chronicle (chronicle.ready meanwhile) :=
      hswaps.replaces.stays htalks.stays
    by_cases hruns : (chronicle.ready meanwhile).session.Spares config
      (chronicle.ready meanwhile).world
    · exact ⟨none, hdown.stays ((ensureCli_stays hruns).trans hrest), nofun⟩
    · obtain ⟨new, hreplaces, hnew⟩ := ensureCli_replaces hdown.sound hdown.holds hruns
      refine ⟨new, hdown.trans (hreplaces.stays hrest), fun child hchild => ?_⟩
      obtain ⟨hspawns, path, hpath, hchildRuns⟩ := hnew child hchild
      exact ⟨hspawns, path, hpath, hrest.runs hchildRuns⟩

/-! ## 2. Runs -/

/-- A session that is connected after a connect was set up with its configuration: already before,
or just now. -/
theorem connectAmid_connected (h : chronicle.session.Sound) {meanwhile : Meanwhile}
    {config : ServerConfig}
    (hconnected : (chronicle.connectAmid meanwhile config).2.session.channel.isConnected = true) :
    chronicle.session.ServesAs config ∨
      (chronicle.connectAmid meanwhile config).2.session.applied = some config := by
  have hway := Session.connectAmid_way h meanwhile config chronicle.world
  rw [connectAmid_plain] at hway
  generalize chronicle.connectAmid meanwhile config = done at hway hconnected ⊢
  obtain ⟨result, after⟩ := done
  generalize hpair : (result, after.plain) = pair at hway
  cases hway with
  | kept hserves => exact Or.inl hserves
  | failed hnot hsound happlied hclosed =>
    cases hpair
    exact absurd (hclosed.symm.trans hconnected) Bool.false_ne_true
  | opened hnot hsound happlied hchannel hsent =>
    cases hpair
    exact Or.inr happlied

/-- What is said leaves the session, and its process. -/
theorem say_talks (commands : List Command) (chronicle : Chronicle) :
    (chronicle.say commands).2.session = chronicle.session ∧
      Talks chronicle (chronicle.say commands).2 := by
  have hsession := (say_plain commands chronicle).2
  refine ⟨hsession, congrArg Session.cli hsession, congrArg Session.supervisor hsession,
    congrArg Session.launched hsession, ?_⟩
  have hsaid := sayAllAmid_talked (fun _ => .nothing) chronicle.world.files commands
    chronicle.session.channel 0 chronicle.world chronicle.acts
  unfold say
  dsimp only
  generalize Channel.sayAllAmid _ _ _ _ _ _ _ = said at hsaid ⊢
  rcases said with ⟨e | ⟨⟩, world, acts⟩
  · exact hsaid
  · exact hsaid

theorem announce_talks (command : Command) (chronicle : Chronicle) :
    (chronicle.announce command).2.session = chronicle.session ∧
      Talks chronicle (chronicle.announce command).2 := by
  unfold announce
  dsimp only
  split
  · exact ⟨rfl, .refl chronicle⟩
  · exact say_talks _ chronicle

/-- **What the other moves come to**: neither the process nor what was applied is concerned, and
none of them connects. -/
structure Chats (before after : Chronicle) : Prop extends Talks before after where
  applied : after.session.applied = before.session.applied
  connected : after.session.channel.isConnected = true →
    before.session.channel.isConnected = true

theorem Chats.of_session {before after : Chronicle} (h : Talks before after)
    (hsession : after.session = before.session) : Chats before after :=
  ⟨h, congrArg Session.applied hsession, fun hafter =>
    (congrArg (fun session => session.channel.isConnected) hsession).symm.trans hafter⟩

theorem announce_chats (bootstrap : Bootstrap) (command : Command) (chronicle : Chronicle) :
    Chats chronicle ((chronicle.withBootstrap bootstrap).announce command).2 := by
  obtain ⟨hsession, htalks⟩ := announce_talks command (chronicle.withBootstrap bootstrap)
  have hbefore : Talks chronicle (chronicle.withBootstrap bootstrap) :=
    ⟨rfl, rfl, rfl, .refl chronicle.acts⟩
  have hchats := Chats.of_session htalks hsession
  exact ⟨hbefore.trans htalks, hchats.applied, hchats.connected⟩

/-- **A move connects, or disconnects, or only talks.** -/
theorem step_cases (next : SessionMove) (chronicle : Chronicle) :
    (∃ meanwhile config, next = .connect meanwhile config) ∨ next = .disconnect ∨
      Chats chronicle (chronicle.step next) := by
  cases next with
  | connect meanwhile config => exact Or.inl ⟨meanwhile, config, rfl⟩
  | disconnect => exact Or.inr (Or.inl rfl)
  | send command =>
    obtain ⟨hsession, htalks⟩ := say_talks [command] chronicle
    exact Or.inr (Or.inr (.of_session htalks hsession))
  | updateBuildOnChange executable => exact Or.inr (Or.inr (announce_chats _ _ chronicle))
  | updateProjectDirectory directory => exact Or.inr (Or.inr (announce_chats _ _ chronicle))
  | setBootstrap bootstrap => exact Or.inr (Or.inr ⟨⟨rfl, rfl, rfl, .refl _⟩, rfl, id⟩)
  | setBundledCli path => exact Or.inr (Or.inr ⟨⟨rfl, rfl, rfl, .refl _⟩, rfl, id⟩)
  | arrive bytes =>
    refine Or.inr (Or.inr ⟨⟨rfl, rfl, rfl, .refl _⟩, rfl, fun hafter => ?_⟩)
    exact (SessionRun.take_keeps chronicle.session.channel bytes).1.symm.trans hafter
  | stopReading =>
    refine Or.inr (Or.inr ⟨⟨rfl, rfl, rfl, .refl _⟩, rfl, fun hafter => ?_⟩)
    exact absurd ((Channel.isConnected_stopReading _).symm.trans hafter) Bool.false_ne_true
  | outside others => exact Or.inr (Or.inr ⟨amid_talks others chronicle, rfl, id⟩)

/-- **The process along a run**: all that was done to processes was done in order, the child that is
left is the one that the session holds, and a session that is connected without a process holds
none. -/
structure Orderly (held : Option Child) (chronicle : Chronicle) : Prop where
  sound : chronicle.session.Sound
  holds : chronicle.session.Holds held
  handover : Handover none (chronicle.acts.filter Act.isProcess) held
  without : chronicle.session.channel.isConnected = true → ∀ config,
    chronicle.session.applied = some config → config.location.spawnsCli = false → held = none

namespace Orderly

theorem start (directory : Path) (grace : Nat) (bundledCli : Option Path) (bootstrap : Bootstrap)
    (world : World) :
    (Chronicle.start directory grace bundledCli bootstrap world).Orderly none :=
  ⟨Session.Sound.start _ _ _ _, .nothing ⟨rfl, rfl, rfl, rfl⟩, .nothing none, fun _ _ _ _ => rfl⟩

/-- It stays true where only something is said. -/
theorem chats (h : chronicle.Orderly held) {after : Chronicle} (hchats : Chats chronicle after) :
    after.Orderly held := by
  have hstays := hchats.toTalks.stays
  refine ⟨hstays.sound h.sound, hstays.holds h.holds, ?_, ?_⟩
  · rw [hstays.acts.filter, List.append_nil]
    exact h.handover
  · rw [hchats.applied]
    exact fun hafter => h.without (hchats.connected hafter)

/-- It becomes true of the child that has replaced the one before. -/
theorem replaces (h : chronicle.Orderly held) {new : Option Child} {after : Chronicle}
    (hreplaces : Replaces held new chronicle after)
    (hwithout : after.session.channel.isConnected = true → ∀ config,
      after.session.applied = some config → config.location.spawnsCli = false → new = none) :
    after.Orderly new := by
  obtain ⟨processes, hended, hacts⟩ := hreplaces.acts
  refine ⟨hreplaces.sound, hreplaces.holds, ?_, hwithout⟩
  rw [hacts.filter]
  exact h.handover.append (.replace held new hended)

/-- **A connect leaves the child as it is, or stops it before it starts another one.** -/
theorem connect (h : chronicle.Orderly held) (meanwhile : Meanwhile) (config : ServerConfig) :
    (chronicle.Spares meanwhile config ∧
      (chronicle.connectAmid meanwhile config).2.Orderly held) ∨
    ∃ new, ¬chronicle.Spares meanwhile config ∧
      Replaces held new chronicle (chronicle.connectAmid meanwhile config).2 ∧
      (config.location.spawnsCli = false → new = none) ∧
      (chronicle.connectAmid meanwhile config).2.Orderly new := by
  by_cases hserves : chronicle.session.ServesAs config
  · refine Or.inl ⟨Or.inl hserves, ?_⟩
    rw [connectAmid_of_servesAs meanwhile hserves]
    exact h
  -- so a session that is connected afterwards was set up with this very configuration
  have happlied : (chronicle.connectAmid meanwhile config).2.session.channel.isConnected = true →
      ∀ other, (chronicle.connectAmid meanwhile config).2.session.applied = some other →
        other = config := fun hconnected other hother =>
    Option.some.inj (hother.symm.trans
      ((connectAmid_connected h.sound hconnected).resolve_left hserves))
  by_cases hspares : chronicle.Spares meanwhile config
  · have hstays := connectAmid_spares hspares
    obtain ⟨-, hspawns, -⟩ := hspares.resolve_left hserves
    refine Or.inl ⟨hspares, hstays.sound h.sound, hstays.holds h.holds, ?_, ?_⟩
    · rw [hstays.acts.filter, List.append_nil]
      exact h.handover
    · intro hconnected other hother hnone
      obtain rfl := happlied hconnected other hother
      exact absurd (hnone.symm.trans hspawns) Bool.false_ne_true
  · obtain ⟨new, hreplaces, hnew⟩ := connectAmid_replaces h.sound h.holds hspares
    have hwithout : config.location.spawnsCli = false → new = none := by
      intro hnone
      cases new with
      | none => rfl
      | some child => exact absurd (hnone.symm.trans (hnew child rfl).1) Bool.false_ne_true
    refine Or.inr ⟨new, hspares, hreplaces, hwithout, h.replaces hreplaces ?_⟩
    intro hconnected other hother
    obtain rfl := happlied hconnected other hother
    exact hwithout

/-- **Every move leaves all in order.** -/
theorem step (h : chronicle.Orderly held) (next : SessionMove) :
    ∃ left, (chronicle.step next).Orderly left := by
  rcases step_cases next chronicle with ⟨meanwhile, config, rfl⟩ | rfl | hchats
  · rcases h.connect meanwhile config with ⟨-, hafter⟩ | ⟨new, -, -, -, hafter⟩
    · exact ⟨held, hafter⟩
    · exact ⟨new, hafter⟩
  · exact ⟨none, h.replaces (disconnect_replaces h.sound h.holds) fun _ _ _ _ => rfl⟩
  · exact ⟨held, h.chats hchats⟩

/-- **So all is in order along every run.** -/
theorem steps (list : List SessionMove) : ∀ {chronicle : Chronicle} {held : Option Child},
    chronicle.Orderly held → ∃ left, (chronicle.steps list).Orderly left := by
  induction list with
  | nil => exact fun h => ⟨_, h⟩
  | cons next rest ih =>
    intro chronicle held h
    obtain ⟨left, hnext⟩ := h.step next
    exact ih hnext

/-- What is alive is what the session holds. -/
theorem living_eq (h : chronicle.Orderly held) : living chronicle.acts = held.toList := by
  have halive := h.handover.foldl_leaves
  rw [foldl_leaves_filter] at halive
  exact halive

/-- What is said to be launched is what the child runs. -/
theorem launched (h : chronicle.Orderly held) {launch : Launch}
    (hlaunched : chronicle.session.launched = some launch) :
    ∃ child, living chronicle.acts = [child] ∧ child.Runs launch chronicle.session := by
  rw [h.living_eq]
  cases h.holds with
  | nothing hquiet =>
    exact absurd (hquiet.launched.symm.trans hlaunched) (Option.some_ne_none launch).symm
  | @child child launch' hruns =>
    obtain rfl := Option.some.inj (hruns.launched.symm.trans hlaunched)
    exact ⟨child, rfl, hruns⟩

end Orderly

theorem Stays.startedBy {before after : Chronicle} (h : Stays before after) :
    ∃ during, after.acts = before.acts ++ during ∧ startedBy during = [] := by
  obtain ⟨during, hacts, hthese⟩ := h.acts
  exact ⟨during, hacts, by rw [← startedBy_filter, hthese]; rfl⟩

theorem Replaces.startedBy {held new : Option Child} {before after : Chronicle}
    (h : Replaces held new before after) :
    ∃ during, after.acts = before.acts ++ during ∧ startedBy during = new.toList := by
  obtain ⟨processes, -, during, hacts, hthese⟩ := h.acts
  refine ⟨during, hacts, ?_⟩
  rw [← startedBy_filter, hthese]
  cases held with
  | none => cases new with
    | none => rfl
    | some child => rfl
  | some old => cases new with
    | none => rfl
    | some child => rfl

variable {meanwhile : Meanwhile} {config : ServerConfig}

/-- The child is the one that a configuration asks for, and there is no connection in the way. -/
def Kept (meanwhile : Meanwhile) (config : ServerConfig) (chronicle : Chronicle) : Prop :=
  chronicle.session.channel.isConnected = false ∧
    ∃ path, chronicle.resolve meanwhile config = .ok path ∧
      chronicle.session.Reuses (Session.launchOf config path)
        (meanwhile.beforeProcess.change chronicle.world)

/-- A connect leaves such a child as it is. -/
theorem Kept.spares (h : chronicle.Kept meanwhile config)
    (hspawns : config.location.spawnsCli = true) : chronicle.Spares meanwhile config := by
  obtain ⟨hclosed, path, hpath, hreuses⟩ := h
  refine Or.inr ⟨hclosed, hspawns, fun other hother => ?_⟩
  rw [resolve_of_closed hclosed] at hpath
  obtain rfl := Except.ok.inj (hother.symm.trans hpath)
  exact hreuses

/-- No other child is left as it is by a connect that has anything to do. -/
theorem Spares.kept (h : chronicle.Spares meanwhile config)
    (hnot : ¬chronicle.session.ServesAs config)
    (hfound : ∃ path, chronicle.resolve meanwhile config = .ok path) :
    chronicle.Kept meanwhile config := by
  obtain ⟨hclosed, -, hruns⟩ := h.resolve_left hnot
  obtain ⟨path, hpath⟩ := hfound
  exact ⟨hclosed, path, hpath, hruns path (resolve_of_closed hclosed ▸ hpath)⟩

namespace Orderly

end Orderly

/-- A process is wanted, and a connection to it at a port. -/
def waitingAt (port : UInt16) : ServerConfig := ⟨"127.0.0.1", port, .customCli, some ⟨"/cli"⟩⟩

/-- A session whose process was started, and where nobody listens. -/
def refusedOnce : Chronicle :=
  (Chronicle.start ⟨"/work"⟩ 0 none ⟨⟨"/"⟩, true⟩ (Engine.smallWorld [Engine.cliFile] [])).steps
    [.connect .nothing (waitingAt 5184)]

end Chronicle

end RenderSync
