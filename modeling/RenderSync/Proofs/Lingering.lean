import RenderSync.Proofs.Lifetime

/-!
# Which configuration a process belongs to

A process may outlive the connect that has started it: where the connection fails, it is kept for
the next attempt.  So after a connect there may be a process that an earlier one has launched, and
the question is whether it is the one that this configuration asks for (`Launch.Fits`): at its
address, with the executable that is found for it at this connect (`Chronicle.executableFor`).

A connect compares launches once it knows the executable, and takes everything down first where it
was connected otherwise.  It gives up before that in two cases, and these are the ones in which the
process may be another one (`surviving_fits_iff`):

* it is not connected and the configuration asks for an executable without naming it
  (`Chronicle.Missing`); whatever was running for another configuration runs on;
* it is set up with this configuration already, and the executable that belongs to the host has
  become another one since (`Chronicle.Outdated`); the process of the one before runs on.

Everything else of a launch is settled while a session is connected (`Chronicle.Settled`): the
address and an executable that the configuration names are those of the process.
-/

namespace RenderSync

/-! ## 1. Configurations that are the same -/

theorem Path.sameOption_iff {a b : Option Path} :
    Path.sameOption a b = true ↔ a.map Path.components = b.map Path.components := by
  cases a with
  | none => cases b with
    | none => simp [sameOption]
    | some b => simp [sameOption]
  | some a => cases b with
    | none => simp [sameOption]
    | some b => simp [sameOption, same]

namespace ServerConfig

variable {a b : ServerConfig}

theorem same_iff :
    a.same b = true ↔ a.ip = b.ip ∧ a.port = b.port ∧ a.location = b.location ∧
      a.customCliPath.map Path.components = b.customCliPath.map Path.components := by
  simp only [same, Bool.and_eq_true, beq_iff_eq, Path.sameOption_iff, and_assoc]

end ServerConfig

/-! ## 2. The executable of a configuration -/

namespace Launch

/-- **A launch is the one that a configuration asks for**: at its address, with the executable that
was found for it. -/
def Fits (launch : Launch) (config : ServerConfig) (found : Except ServerError Path) : Prop :=
  config.location.spawnsCli = true ∧
    ∃ path, found = .ok path ∧ (Session.launchOf config path).same launch = true

/-- It is so as far as the configuration alone can say: which executable belongs to the host is not
said by it. -/
structure Serves (launch : Launch) (config : ServerConfig) : Prop where
  spawns : config.location.spawnsCli = true
  ip : config.ip = launch.ip
  port : config.port = launch.port
  named : config.location = .customCli →
    config.customCliPath.map Path.components = some launch.path.components

theorem same_refl (launch : Launch) : launch.same launch = true := by
  simp [same]

theorem same_launchOf_iff {launch : Launch} {config : ServerConfig} {path : Path} :
    (Session.launchOf config path).same launch = true ↔
      path.same launch.path = true ∧ config.ip = launch.ip ∧ config.port = launch.port := by
  simp only [Session.launchOf, same, Bool.and_eq_true, beq_iff_eq, and_assoc]

/-- It then serves every configuration that is the same. -/
theorem Serves.of_same {launch : Launch} {applied config : ServerConfig}
    (h : launch.Serves applied) (hsame : applied.same config = true) : launch.Serves config := by
  obtain ⟨hip, hport, hlocation, hpath⟩ := ServerConfig.same_iff.mp hsame
  exact ⟨hlocation ▸ h.spawns, hip ▸ h.ip, hport ▸ h.port,
    fun hcustom => hpath ▸ h.named (hlocation.trans hcustom)⟩

end Launch

namespace Session

variable {config : ServerConfig} {session : Session} {world : World} {launch : Launch}

/-- An executable that is not known is one that nobody has named. -/
theorem cliPath_error {e : ServerError} (h : session.cliPath world config = .error e) :
    config.location = .customCli ∧ config.customCliPath = none := by
  unfold cliPath at h
  split at h
  · next hlocation =>
    split at h
    · cases h
    · next hpath => exact ⟨hlocation, hpath⟩
  · cases h

/-- The executable that a configuration names is the one that is found for it. -/
theorem cliPath_named {path : Path} (h : session.cliPath world config = .ok path)
    (hlocation : config.location = .customCli) : config.customCliPath = some path := by
  unfold cliPath at h
  rw [hlocation] at h
  cases hnamed : config.customCliPath with
  | none =>
    rw [hnamed] at h
    cases h
  | some named =>
    rw [hnamed] at h
    exact congrArg some (Except.ok.inj h)

theorem serves_of_fits (h : launch.Fits config (session.cliPath world config)) :
    launch.Serves config := by
  obtain ⟨hspawns, path, hpath, hlaunch⟩ := h
  obtain ⟨hsame, hip, hport⟩ := Launch.same_launchOf_iff.mp hlaunch
  refine ⟨hspawns, hip, hport, fun hlocation => ?_⟩
  rw [cliPath_named hpath hlocation, Option.map_some, beq_iff_eq.mp hsame]

/-- **What serves a configuration is what it asks for**, unless it leaves the executable to the host
and that one is another. -/
theorem fits_iff_of_serves (h : launch.Serves config) :
    launch.Fits config (session.cliPath world config) ↔ (config.location = .builtInCli →
      (world.surroundings.bundledCli world.files session.bundledCli).same launch.path = true) := by
  unfold Launch.Fits
  simp only [Launch.same_launchOf_iff]
  cases hlocation : config.location with
  | builtInCli =>
    have hfound : session.cliPath world config =
        .ok (world.surroundings.bundledCli world.files session.bundledCli) := by
      rw [cliPath, hlocation]
    constructor
    · rintro ⟨-, path, hpath, hsame, -⟩ -
      obtain rfl := Except.ok.inj (hfound.symm.trans hpath)
      exact hsame
    · exact fun hsame => ⟨rfl, _, hfound, hsame rfl, h.ip, h.port⟩
  | customCli =>
    obtain ⟨named, hnamed, hsame⟩ := Option.map_eq_some_iff.mp (h.named hlocation)
    have hfound : session.cliPath world config = .ok named := by
      rw [cliPath, hlocation, hnamed]
    exact ⟨fun _ => nofun, fun _ => ⟨rfl, named, hfound, beq_iff_eq.mpr hsame, h.ip, h.port⟩⟩
  | external =>
    have hspawns := h.spawns
    rw [hlocation] at hspawns
    cases hspawns

end Session

namespace Chronicle

variable {chronicle : Chronicle} {held : Option Child} {meanwhile : Meanwhile}
  {config : ServerConfig}

/-- The executable for a configuration at a connect.  A session that is set up already does not look
for it; it is what would be found. -/
def executableFor (meanwhile : Meanwhile) (config : ServerConfig) (chronicle : Chronicle) :
    Except ServerError Path :=
  if chronicle.session.channel.isConnected && chronicle.session.current.applies config then
    chronicle.session.cliPath chronicle.world config
  else chronicle.resolve meanwhile config

theorem executableFor_of_servesAs (hserves : chronicle.session.ServesAs config) :
    chronicle.executableFor meanwhile config =
      chronicle.session.cliPath chronicle.world config :=
  if_pos hserves.check

theorem executableFor_of_not_servesAs (hnot : ¬chronicle.session.ServesAs config) :
    chronicle.executableFor meanwhile config = chronicle.resolve meanwhile config := by
  rw [executableFor, Session.check_of_not_servesAs hnot]
  rfl

/-! ## 3. One connect -/

/-- The configuration asks for an executable without naming it, and nothing is connected. -/
def Missing (config : ServerConfig) (chronicle : Chronicle) : Prop :=
  chronicle.session.channel.isConnected = false ∧ config.location = .customCli ∧
    config.customCliPath = none

/-- The session is set up as the configuration asks, with another executable than the one that
belongs to the host now. -/
def Outdated (config : ServerConfig) (chronicle : Chronicle) : Prop :=
  chronicle.session.ServesAs config ∧ config.location = .builtInCli ∧
    ∃ launch, chronicle.session.launched = some launch ∧
      (chronicle.world.surroundings.bundledCli chronicle.world.files
        chronicle.session.bundledCli).same launch.path = false

theorem Missing.not_servesAs (hmissing : chronicle.Missing config) (other : ServerConfig) :
    ¬chronicle.session.ServesAs other :=
  fun hserves => Bool.false_ne_true (hmissing.1.symm.trans hserves.1)

theorem Missing.executableFor (hmissing : chronicle.Missing config) (meanwhile : Meanwhile) :
    chronicle.executableFor meanwhile config = .error .missingCustomCli := by
  rw [executableFor_of_not_servesAs (hmissing.not_servesAs config)]
  obtain ⟨hclosed, hlocation, hpath⟩ := hmissing
  rw [resolve_of_closed hclosed, Session.cliPath, hlocation, hpath]

/-- **Where the executable is missing nothing is done**, and whatever runs goes on. -/
theorem connectAmid_of_missing (hmissing : chronicle.Missing config) :
    chronicle.connectAmid meanwhile config = (.error .missingCustomCli,
      (chronicle.amid meanwhile.beforeProcess).amid meanwhile.beforeConnection) := by
  obtain ⟨hclosed, hlocation, hpath⟩ := hmissing
  unfold connectAmid
  rw [hclosed, ready_of_closed meanwhile hclosed]
  have hensure : (chronicle.amid meanwhile.beforeProcess).ensureCli config =
      (.error .missingCustomCli, chronicle.amid meanwhile.beforeProcess) := by
    simp only [ensureCli, Session.cliPath, hlocation, hpath]
    rfl
  simp only [Bool.false_and, Bool.false_eq_true, if_false, hensure]

/-- What is left of the child once nothing is in the way. -/
theorem ready_spec (h : chronicle.session.Sound) (hholds : chronicle.session.Holds held)
    (meanwhile : Meanwhile) :
    ∃ left, (chronicle.ready meanwhile).session.Sound ∧
      (chronicle.ready meanwhile).session.Holds left ∧
      (chronicle.session.channel.isConnected = true → left = none) := by
  rcases ready_cases h hholds meanwhile with ⟨hclosed, hready⟩ | ⟨-, stopped, hswaps, htalks⟩
  · have hamid := amid_talks meanwhile.beforeProcess chronicle
    rw [hready]
    exact ⟨held, hamid.stays.sound h, hamid.stays.holds hholds,
      fun hconnected => absurd (hclosed.symm.trans hconnected) Bool.false_ne_true⟩
  · exact ⟨none, htalks.stays.sound hswaps.sound, htalks.stays.holds hswaps.holds, fun _ => rfl⟩

/-- **What a connect that does something leaves launched**: what its configuration asks for, except
where the executable is missing; then it is what was launched before. -/
theorem connectAmid_launched (h : chronicle.session.Sound) (hholds : chronicle.session.Holds held)
    (hnot : ¬chronicle.session.ServesAs config) {launch : Launch}
    (hlaunched : (chronicle.connectAmid meanwhile config).2.session.launched = some launch) :
    chronicle.Missing config ∨ launch.Fits config (chronicle.resolve meanwhile config) := by
  obtain ⟨left, hsound, hleft, hdown⟩ := ready_spec h hholds meanwhile
  have hrest := connectAmid_talks meanwhile hnot
  have hstill : ((chronicle.ready meanwhile).ensureCli config).2.session.launched = some launch :=
    hrest.launched.symm.trans hlaunched
  have hnothing : ∀ {session : Session}, session.Holds none → session.launched ≠ some launch :=
    fun hnone hsome => Option.some_ne_none launch (hsome.symm.trans hnone.launched_eq_none)
  rcases ensureCli_cases config (chronicle.ready meanwhile) with
    ⟨-, he⟩ | ⟨hspawns, ⟨e, hpath, he⟩ | ⟨path, hpath, ⟨hreuses, he⟩ | ⟨-, he⟩⟩⟩
  · rw [he] at hstill
    exact absurd hstill (hnothing (stopCli_swaps hsound hleft).holds)
  · rw [he] at hstill
    refine Or.inl ⟨?_, Session.cliPath_error hpath⟩
    cases hconnected : chronicle.session.channel.isConnected with
    | false => rfl
    | true =>
      obtain rfl := hdown hconnected
      exact absurd hstill (hnothing hleft)
  · rw [he] at hstill
    refine Or.inr ⟨hspawns, path, hpath, ?_⟩
    rw [Session.Reuses, hstill] at hreuses
    exact (Bool.and_eq_true_iff.mp hreuses).1
  · rw [he] at hstill
    refine Or.inr ⟨hspawns, path, hpath, ?_⟩
    obtain ⟨new, hswaps, hruns⟩ := startCli_swaps hsound hleft (Session.launchOf config path)
    cases new with
    | none => exact absurd hstill (hnothing hswaps.holds)
    | some child =>
      obtain rfl := Option.some.inj ((hruns child rfl).launched.symm.trans hstill)
      exact Launch.same_refl _

/-! ## 4. Runs -/

/-- **What is launched while a session is connected serves the configuration that was applied.** -/
def Settled (chronicle : Chronicle) : Prop :=
  chronicle.session.channel.isConnected = true → ∀ config launch,
    chronicle.session.applied = some config → chronicle.session.launched = some launch →
      launch.Serves config

namespace Settled

/-- It stays true where nothing is connected that was not before. -/
theorem stays (h : chronicle.Settled) {after : Chronicle}
    (hlaunched : after.session.channel.isConnected = true →
      chronicle.session.channel.isConnected = true ∧
        after.session.applied = chronicle.session.applied ∧
        after.session.launched = chronicle.session.launched) : after.Settled := by
  intro hconnected config launch happlied hlaunch
  obtain ⟨hbefore, hsame, hstill⟩ := hlaunched hconnected
  exact h hbefore config launch (hsame.symm.trans happlied) (hstill.symm.trans hlaunch)

/-- In a session that is set up already, the launch fits unless it is outdated. -/
theorem fits_iff_of_servesAs (h : chronicle.Settled)
    (hserves : chronicle.session.ServesAs config) {launch : Launch}
    (hlaunched : chronicle.session.launched = some launch) :
    launch.Fits config (chronicle.session.cliPath chronicle.world config) ↔
      ¬chronicle.Outdated config := by
  have hconfig : launch.Serves config := by
    obtain ⟨hconnected, happlies⟩ := hserves
    obtain ⟨applied, happlied, hsame⟩ := ServerCurrent.applies_iff.mp happlies
    exact (h hconnected applied launch happlied hlaunched).of_same hsame
  rw [Session.fits_iff_of_serves hconfig]
  constructor
  · rintro hsame ⟨-, hlocation, other, hother, hdiffers⟩
    obtain rfl := Option.some.inj (hlaunched.symm.trans hother)
    exact Bool.false_ne_true (hdiffers.symm.trans (hsame hlocation))
  · intro hcurrent hlocation
    refine Bool.of_not_eq_false fun hdiffers => ?_
    exact hcurrent ⟨hserves, hlocation, launch, hlaunched, hdiffers⟩

/-- **What a connect leaves launched fits exactly where the executable was neither missing nor
outdated.** -/
theorem connect_fits (h : chronicle.Settled) (hsound : chronicle.session.Sound)
    (hholds : chronicle.session.Holds held) {launch : Launch}
    (hlaunched : (chronicle.connectAmid meanwhile config).2.session.launched = some launch) :
    launch.Fits config (chronicle.executableFor meanwhile config) ↔
      ¬chronicle.Missing config ∧ ¬chronicle.Outdated config := by
  by_cases hserves : chronicle.session.ServesAs config
  · rw [connectAmid_of_servesAs meanwhile hserves] at hlaunched
    rw [executableFor_of_servesAs hserves, h.fits_iff_of_servesAs hserves hlaunched]
    exact ⟨fun hcurrent => ⟨fun hmissing => hmissing.not_servesAs config hserves, hcurrent⟩,
      And.right⟩
  · constructor
    · refine fun hfits => ⟨fun hmissing => ?_, fun houtdated => hserves houtdated.1⟩
      obtain ⟨-, path, hpath, -⟩ := hfits
      rw [hmissing.executableFor] at hpath
      cases hpath
    · rintro ⟨hpresent, -⟩
      rw [executableFor_of_not_servesAs hserves]
      exact (connectAmid_launched hsound hholds hserves hlaunched).resolve_left hpresent

/-- **Every connect leaves all settled.** -/
theorem connect (h : chronicle.Settled) (hsound : chronicle.session.Sound)
    (hholds : chronicle.session.Holds held) (meanwhile : Meanwhile) (config : ServerConfig) :
    (chronicle.connectAmid meanwhile config).2.Settled := by
  by_cases hserves : chronicle.session.ServesAs config
  · rw [connectAmid_of_servesAs meanwhile hserves]
    exact h
  intro hconnected other launch happlied hlaunched
  have hother := (connectAmid_connected hsound hconnected).resolve_left hserves
  obtain rfl := Option.some.inj (happlied.symm.trans hother)
  rcases connectAmid_launched hsound hholds hserves hlaunched with hmissing | hfits
  · rw [connectAmid_of_missing hmissing] at hconnected
    exact absurd (hmissing.1.symm.trans hconnected) Bool.false_ne_true
  · exact Session.serves_of_fits hfits

theorem start (directory : Path) (grace : Nat) (bundledCli : Option Path) (bootstrap : Bootstrap)
    (world : World) : (Chronicle.start directory grace bundledCli bootstrap world).Settled :=
  nofun

/-- **Every move leaves all settled.** -/
theorem step (h : chronicle.Settled) (hsound : chronicle.session.Sound)
    (hholds : chronicle.session.Holds held) (next : SessionMove) :
    (chronicle.step next).Settled := by
  rcases step_cases next chronicle with ⟨meanwhile, config, rfl⟩ | rfl | hchats
  · exact h.connect hsound hholds meanwhile config
  · have hclosed : chronicle.disconnect.session.channel.isConnected = false := by
      rw [Channel.isConnected, (disconnect_idle hsound).1.connection]
      rfl
    exact h.stays fun hconnected => absurd (hclosed.symm.trans hconnected) Bool.false_ne_true
  · exact h.stays fun hconnected =>
      ⟨hchats.connected hconnected, hchats.applied, hchats.launched⟩

/-- **So all is settled along every run.** -/
theorem steps (list : List SessionMove) : ∀ {chronicle : Chronicle} {held : Option Child},
    chronicle.Orderly held → chronicle.Settled → (chronicle.steps list).Settled := by
  induction list with
  | nil => exact fun _ h => h
  | cons next rest ih =>
    intro chronicle held horderly h
    obtain ⟨left, hnext⟩ := horderly.step next
    exact ih hnext (h.step horderly.sound horderly.holds next)

end Settled

/-- **The process that runs after a connect is the one that its configuration asks for, exactly
where the executable is neither missing nor outdated.**  For every run of a session, every connect
after it and whatever it answers: if a process runs afterwards, it is the only one, and it was
launched at the address of this configuration, with the executable that is found for it at this
connect, unless

* the session was not connected, and the configuration asks for an executable without naming it; or
* the session was set up with this configuration already, which leaves the executable to the host,
  and the one that belongs to the host now is not the one that was launched. -/
theorem surviving_fits_iff (directory : Path) (grace : Nat) (bundledCli : Option Path)
    (bootstrap : Bootstrap) (world : World) (list : List SessionMove) (meanwhile : Meanwhile)
    (config : ServerConfig) :
    let chronicle := (Chronicle.start directory grace bundledCli bootstrap world).steps list
    let after := chronicle.step (.connect meanwhile config)
    chronicle.Tells ((SessionRun.start directory grace bundledCli bootstrap world).steps list) ∧
    (after.session.isCliRunning after.world = true →
      ((∃ child launch, living after.acts = [child] ∧ child.Runs launch after.session ∧
        launch.Fits config (chronicle.executableFor meanwhile config)) ↔
          ¬chronicle.Missing config ∧ ¬chronicle.Outdated config)) := by
  intro chronicle after
  have hstart := Orderly.start directory grace bundledCli bootstrap world
  obtain ⟨held, h⟩ := hstart.steps list
  have hsettled : chronicle.Settled :=
    (Settled.start directory grace bundledCli bootstrap world).steps list hstart
  refine ⟨(Tells.start directory grace bundledCli bootstrap world).steps list, fun hruns => ?_⟩
  obtain ⟨left, hafter⟩ := h.step (.connect meanwhile config)
  have hopen : after.session.cli.isOpen = true := (Bool.and_eq_true_iff.mp hruns).1
  obtain ⟨child, launch, rfl, hchild⟩ := hafter.holds.exists_child hopen
  have hfits := hsettled.connect_fits h.sound h.holds hchild.launched
  constructor
  · rintro ⟨other, asked, -, hother, hasked⟩
    obtain rfl := Option.some.inj (hother.launched.symm.trans hchild.launched)
    exact hfits.mp hasked
  · exact fun hcurrent => ⟨child, launch, hafter.living_eq, hchild, hfits.mpr hcurrent⟩

/-- The process of the last connect, which was refused, is what the same configuration asks for. -/
theorem refusedOnce_fits :
    (refusedOnce.step (.connect .nothing (waitingAt 5184))).session.isCliRunning
        (refusedOnce.step (.connect .nothing (waitingAt 5184))).world = true ∧
      ∃ child launch,
        living (refusedOnce.step (.connect .nothing (waitingAt 5184))).acts = [child] ∧
        child.Runs launch (refusedOnce.step (.connect .nothing (waitingAt 5184))).session ∧
        launch.Fits (waitingAt 5184) (refusedOnce.executableFor .nothing (waitingAt 5184)) := by
  obtain ⟨-, hfits⟩ := surviving_fits_iff ⟨"/work"⟩ 0 none ⟨⟨"/"⟩, true⟩
    (Engine.smallWorld [Engine.cliFile] []) [.connect .nothing (waitingAt 5184)] .nothing
    (waitingAt 5184)
  have hruns : (refusedOnce.step (.connect .nothing (waitingAt 5184))).session.isCliRunning
      (refusedOnce.step (.connect .nothing (waitingAt 5184))).world = true := by decide +kernel
  have hpresent : ¬refusedOnce.Missing (waitingAt 5184) := by
    rintro ⟨-, -, hnone⟩
    cases hnone
  have hcurrent : ¬refusedOnce.Outdated (waitingAt 5184) := by
    rintro ⟨-, hlocation, -⟩
    cases hlocation
  exact ⟨hruns, (hfits hruns).mpr ⟨hpresent, hcurrent⟩⟩

/-- A process is wanted, and nobody says which. -/
def unnamedAt (port : UInt16) : ServerConfig := ⟨"127.0.0.1", port, .customCli, none⟩

/-- **A process that was started for one configuration outlives a connect with another**, for which
no executable is known: it runs on at its own port, although that is not what is asked for. -/
theorem refusedOnce_lingers :
    (refusedOnce.connectAmid .nothing (unnamedAt 5185)).1 = .error .missingCustomCli ∧
      (refusedOnce.step (.connect .nothing (unnamedAt 5185))).session.isCliRunning
        (refusedOnce.step (.connect .nothing (unnamedAt 5185))).world = true ∧
      (refusedOnce.step (.connect .nothing (unnamedAt 5185))).session.launched =
        some ⟨⟨"/cli"⟩, "127.0.0.1", 5184⟩ ∧
      ¬∃ launch : Launch, launch.Fits (unnamedAt 5185)
        (refusedOnce.executableFor .nothing (unnamedAt 5185)) := by
  refine ⟨by decide +kernel, by decide +kernel, by decide +kernel, ?_⟩
  rintro ⟨launch, -, path, hpath, -⟩
  have hmissing : refusedOnce.Missing (unnamedAt 5185) := ⟨by decide +kernel, rfl, rfl⟩
  rw [hmissing.executableFor] at hpath
  cases hpath

/-- The process that belongs to the host is wanted. -/
def bundledAt (port : UInt16) : ServerConfig := ⟨"127.0.0.1", port, .builtInCli, none⟩

/-- A session that is set up, and the executable that belongs to the host is then another one. -/
def replacedOnce : Chronicle :=
  (Chronicle.start ⟨"/work"⟩ 0 (some ⟨"/cli"⟩) ⟨⟨"/"⟩, true⟩
    (Engine.smallWorld [Engine.cliFile] [5184])).steps
    [.connect .nothing (bundledAt 5184), .setBundledCli (some ⟨"/newer"⟩)]

/-- The other case can arise as well: the process of the executable before runs on. -/
theorem replacedOnce_lingers :
    replacedOnce.Outdated (bundledAt 5184) ∧
      replacedOnce.connectAmid .nothing (bundledAt 5184) = (.ok (), replacedOnce) ∧
      replacedOnce.session.isCliRunning replacedOnce.world = true ∧
      replacedOnce.executableFor .nothing (bundledAt 5184) = .ok ⟨"/newer"⟩ := by
  have hserves : replacedOnce.session.ServesAs (bundledAt 5184) := by
    constructor
    · decide +kernel
    · decide +kernel
  have hlaunched : replacedOnce.session.launched = some ⟨⟨"/cli"⟩, "127.0.0.1", 5184⟩ := by
    decide +kernel
  exact ⟨⟨hserves, rfl, _, hlaunched, by decide +kernel⟩, connectAmid_of_servesAs .nothing hserves,
    by decide +kernel, executableFor_of_servesAs hserves⟩

end Chronicle

end RenderSync
