import RenderSync.Proofs.FailedPasses
import RenderSync.Proofs.Neighbours

/-!
# What a session says of itself

A session says whether it is connected and which configuration was applied, and both are to be
believed (`SessionRun.Truthful`): while it is connected, what was applied is the configuration of
the connect that has set this connection up, the address is the one of that configuration, and what
was sent first on the connection are the commands that follow from the options of that moment.
Runs are of any operations, connects that fail anywhere, and peers that close or reset a connection
at any moment, in the middle of a connect as well (`SessionMove`).

A pass that fails in its server step keeps what was applied, and the library with all that is held
of it (`matchAllAmid_contained`).  The files are another matter: the copies of the executable and
of the library are made in one directory under the name of the file.  Where the names differ the
copy of the library stays as it is (`matchServerAmid_beside`); where they do not, a pass may replace
and then remove the copy of a library that is loaded (`failed_start_removes_copy`).
-/

namespace RenderSync

/-! ## 1. Runs of a session -/

instance (config : ServerConfig) (session : Session) : Decidable (session.ServesAs config) :=
  inferInstanceAs (Decidable (_ ∧ _))

/-- A connect that has set up a connection: with which configuration, and what was to be said
first. -/
structure Opening where
  config : ServerConfig
  commands : List Command

/-- A session in the world, and the last connect that has set up a connection. -/
structure SessionRun where
  session : Session
  world : World
  opening : Option Opening

/-- What can happen to a session. -/
inductive SessionMove where
  | connect (meanwhile : Meanwhile) (config : ServerConfig)
  | disconnect
  | send (command : Command)
  | updateBuildOnChange (executable : Bool)
  | updateProjectDirectory (directory : Path)
  /-- Options are stored and not announced. -/
  | setBootstrap (bootstrap : Bootstrap)
  | setBundledCli (path : Option Path)
  /-- Bytes arrive from the peer. -/
  | arrive (bytes : List UInt8)
  /-- The peer says no more. -/
  | stopReading
  | outside (others : Outside)

namespace SessionRun

/-- Nothing has happened yet. -/
def start (directory : Path) (grace : Nat) (bundledCli : Option Path) (bootstrap : Bootstrap)
    (world : World) : SessionRun :=
  ⟨.start directory grace bundledCli bootstrap, world, none⟩

/-- The run with another session in another world. -/
def continued (after : Session × World) (run : SessionRun) : SessionRun :=
  { run with session := after.1, world := after.2 }

/-- One move.  A connect that finds the session set up already opens nothing. -/
def step : SessionMove → SessionRun → SessionRun
  | .connect meanwhile config, run =>
    let done := run.session.connectAmid meanwhile config run.world
    let opening : Option Opening :=
      match done.1 with
      | .ok () =>
        if run.session.ServesAs config then run.opening
        else some ⟨config, run.session.greeting meanwhile config run.world⟩
      | .error _ => run.opening
    ⟨done.2.1, done.2.2, opening⟩
  | .disconnect, run => run.continued (run.session.disconnect run.world)
  | .send command, run => run.continued (run.session, (run.session.send command run.world).2)
  | .updateBuildOnChange executable, run =>
    run.continued (run.session.updateBuildOnChange executable run.world).2
  | .updateProjectDirectory directory, run =>
    run.continued (run.session.updateProjectDirectory directory run.world).2
  | .setBootstrap bootstrap, run =>
    run.continued ({ run.session with bootstrap := bootstrap }, run.world)
  | .setBundledCli path, run =>
    run.continued ({ run.session with bundledCli := path }, run.world)
  | .arrive bytes, run =>
    run.continued ({ run.session with channel := (run.session.channel.take bytes).2 }, run.world)
  | .stopReading, run =>
    run.continued ({ run.session with channel := run.session.channel.stopReading }, run.world)
  | .outside others, run => run.continued (run.session, others.change run.world)

/-- Moves, one after the other. -/
def steps (list : List SessionMove) (run : SessionRun) : SessionRun :=
  list.foldl (fun run next => run.step next) run

/-! ## 2. What is true along a run -/

/-- The connection that is held is the one of an opening: it leads to that address, and the first
that was sent on it are those commands. -/
structure Speaks (opening : Opening) (run : SessionRun) (connection : Connection) : Prop where
  held : run.session.channel.connection = some connection
  applied : run.session.applied = some opening.config
  address : connection.address = ServerConfig.addressOf opening.config.ip opening.config.port
  greeted : ∃ more, run.world.network.received? connection.number =
    some ((opening.commands.map Command.line).flatMap Framing.bytes ++ more)

/-- **What a session says of itself is true.** -/
structure Truthful (run : SessionRun) : Prop where
  sound : run.session.Sound
  speaks : run.session.channel.isConnected = true →
    ∃ opening connection, run.opening = some opening ∧ run.Speaks opening connection

variable {run : SessionRun}

theorem Truthful.start (directory : Path) (grace : Nat) (bundledCli : Option Path)
    (bootstrap : Bootstrap) (world : World) :
    (SessionRun.start directory grace bundledCli bootstrap world).Truthful :=
  ⟨Session.Sound.start _ _ _ _, nofun⟩

/-- **It stays true while the connection and what was applied stay**, and nothing that was sent is
lost. -/
theorem Truthful.continued (h : run.Truthful) {session : Session} {world : World}
    (hsound : session.Sound) (happlied : session.applied = run.session.applied)
    (hchannel : session.channel.isConnected = true → run.session.channel.isConnected = true ∧
      ∀ connection, run.session.channel.connection = some connection →
        ∃ later, session.channel.connection = some later ∧
          later.address = connection.address ∧ later.number = connection.number)
    (hsent : run.world.network.Extends world.network) :
    (run.continued (session, world)).Truthful := by
  refine ⟨hsound, fun hconnected => ?_⟩
  obtain ⟨hbefore, hsame⟩ := hchannel hconnected
  obtain ⟨opening, connection, hopening, hspeaks⟩ := h.speaks hbefore
  obtain ⟨later, hlater, haddress, hnumber⟩ := hsame connection hspeaks.held
  obtain ⟨more, hmore⟩ := hspeaks.greeted
  obtain ⟨rest, hrest⟩ := hsent connection.number _ hmore
  refine ⟨opening, later, hopening, hlater, happlied.trans hspeaks.applied,
    haddress.trans hspeaks.address, more ++ rest, ?_⟩
  rw [hnumber, ← List.append_assoc]
  exact hrest

/-- In particular while the channel stays as it is. -/
theorem Truthful.sameChannel (h : run.Truthful) {session : Session} {world : World}
    (hsound : session.Sound) (happlied : session.applied = run.session.applied)
    (hchannel : session.channel = run.session.channel)
    (hsent : run.world.network.Extends world.network) :
    (run.continued (session, world)).Truthful := by
  refine h.continued hsound happlied ?_ hsent
  rw [hchannel]
  exact fun hconnected => ⟨hconnected, fun connection hheld => ⟨connection, hheld, rfl, rfl⟩⟩

/-- Without a connection there is nothing to be true. -/
theorem Truthful.closed {session : Session} {world : World} {opening : Option Opening}
    (hsound : session.Sound) (hclosed : session.channel.isConnected = false) :
    (SessionRun.mk session world opening).Truthful :=
  ⟨hsound, fun hconnected => absurd (hclosed.symm.trans hconnected) Bool.false_ne_true⟩

end SessionRun

/-! ## 3. Sending -/

namespace Channel

theorem extends_send (text : String) (channel : Channel) (network : Network) :
    network.Extends (channel.send text network).2 := by
  unfold send
  split
  · exact .refl network
  · next connection _ =>
    have hsent := Network.extends_send network connection.number (Framing.bytes text)
    rcases hstep : network.send connection.number (Framing.bytes text) with ⟨_ | _, after⟩ <;>
      rw [hstep] at hsent
    · exact hsent
    · exact hsent

theorem extends_sendAll (texts : List String) (channel : Channel) :
    ∀ network : Network, network.Extends (channel.sendAll texts network).2 := by
  induction texts with
  | nil => exact fun network => .refl network
  | cons text rest ih =>
    intro network
    have hsent := extends_send text channel network
    unfold sendAll
    rcases hstep : channel.send text network with ⟨e | ⟨⟩, after⟩ <;> rw [hstep] at hsent
    · exact hsent
    · exact hsent.trans (ih after)

end Channel

namespace Session

theorem extends_send (command : Command) (session : Session) (world : World) :
    world.network.Extends (session.send command world).2.network := by
  have hsent := Channel.extends_send command.line session.channel world.network
  unfold send
  rcases hstep : session.channel.send command.line world.network with ⟨e | ⟨⟩, after⟩ <;>
    rw [hstep] at hsent
  · exact hsent
  · exact hsent

/-- An announcement sends, and does nothing else. -/
theorem extends_announce (command : Command) (session : Session) (world : World) :
    world.network.Extends (session.announce command world).2.2.network := by
  unfold announce
  split
  · exact .refl world.network
  · have hsent := Channel.extends_sendAll
      ((command :: session.bootstrap.builds .updates).map Command.line) session.channel
      world.network
    unfold sendAll
    rcases hstep : session.channel.sendAll
      ((command :: session.bootstrap.builds .updates).map Command.line) world.network with
      ⟨e | ⟨⟩, after⟩ <;> rw [hstep] at hsent
    · exact hsent
    · exact hsent

end Session

namespace SessionRun

variable {run : SessionRun}

/-- What is taken from a connection leaves the connection. -/
theorem take_keeps (channel : Channel) (bytes : List UInt8) :
    (channel.take bytes).2.isConnected = channel.isConnected ∧
      ∀ connection, channel.connection = some connection →
        ∃ later, (channel.take bytes).2.connection = some later ∧
          later.address = connection.address ∧ later.number = connection.number := by
  obtain ⟨_ | ⟨address, number, _ | _, pending⟩⟩ := channel
  · exact ⟨rfl, nofun⟩
  · exact ⟨rfl, fun connection hheld => ⟨connection, hheld, rfl, rfl⟩⟩
  · refine ⟨rfl, fun connection hheld => ?_⟩
    obtain rfl := Option.some.inj hheld
    exact ⟨_, rfl, rfl, rfl⟩

/-- A connect leaves the truth, whatever comes of it. -/
theorem Truthful.connect (h : run.Truthful) (meanwhile : Meanwhile) (config : ServerConfig) :
    (run.step (.connect meanwhile config)).Truthful := by
  have hway := Session.connectAmid_way h.sound meanwhile config run.world
  rw [step]
  generalize run.session.connectAmid meanwhile config run.world = done at hway ⊢
  -- only a new connection has a new opening to be measured by
  cases hway with
  | kept hserves =>
    dsimp only
    rw [if_pos hserves]
    exact h
  | failed hnot hsound happlied hclosed => exact .closed hsound hclosed
  | @opened after later number hnot hsound happlied hchannel hsent =>
    dsimp only
    rw [if_neg hnot]
    refine ⟨hsound, fun _ => ⟨_, ⟨ServerConfig.addressOf config.ip config.port, number, true, []⟩,
      rfl, ?_, happlied, rfl, [], ?_⟩⟩
    · rw [hchannel]
      rfl
    · rw [List.append_nil]
      exact hsent

/-- **Every move leaves the truth.** -/
theorem Truthful.step (h : run.Truthful) (next : SessionMove) : (run.step next).Truthful := by
  cases next with
  | connect meanwhile config => exact h.connect meanwhile config
  | disconnect =>
    refine .closed (h.sound.disconnect run.world) ?_
    rw [Channel.isConnected, (Session.disconnect_idle h.sound run.world).1.connection]
    rfl
  | send command =>
    exact h.sameChannel h.sound rfl rfl (Session.extends_send command run.session run.world)
  | updateBuildOnChange executable =>
    refine h.sameChannel (h.sound.updateBuildOnChange executable run.world) ?_ ?_
      (Session.extends_announce _ _ run.world)
    · rw [Session.updateBuildOnChange, Session.announce_session]
    · rw [Session.updateBuildOnChange, Session.announce_session]
  | updateProjectDirectory directory =>
    refine h.sameChannel (h.sound.updateProjectDirectory directory run.world) ?_ ?_
      (Session.extends_announce _ _ run.world)
    · rw [Session.updateProjectDirectory, Session.announce_session]
    · rw [Session.updateProjectDirectory, Session.announce_session]
  | setBootstrap bootstrap => exact h.sameChannel (h.sound.congr rfl rfl) rfl rfl (.refl _)
  | setBundledCli path => exact h.sameChannel (h.sound.congr rfl rfl) rfl rfl (.refl _)
  | arrive bytes =>
    obtain ⟨hconnected, hsame⟩ := take_keeps run.session.channel bytes
    exact h.continued (h.sound.congr rfl rfl) rfl
      (fun hlater => ⟨hconnected.symm.trans hlater, hsame⟩) (.refl _)
  | stopReading =>
    refine .closed (h.sound.congr rfl rfl) ?_
    obtain ⟨_ | connection⟩ := run.session.channel
    · rfl
    · rfl
  | outside others => exact h.sameChannel h.sound rfl rfl (others.keeps run.world).extends

/-- **So what a session says of itself is true along every run.** -/
theorem Truthful.steps (list : List SessionMove) :
    ∀ {run : SessionRun}, run.Truthful → (run.steps list).Truthful := by
  induction list with
  | nil => exact fun h => h
  | cons next rest ih => exact fun h => ih (h.step next)

/-- **Nothing but a connect that succeeds changes what is applied**, and that to its own
configuration. -/
theorem applied_step (h : run.Truthful) (next : SessionMove) :
    (run.step next).session.applied = run.session.applied ∨
      ∃ meanwhile config, next = .connect meanwhile config ∧
        (run.session.connectAmid meanwhile config run.world).1 = .ok () ∧
        (run.step next).session.applied = some config := by
  cases next with
  | connect meanwhile config =>
    have hway := Session.connectAmid_way h.sound meanwhile config run.world
    have hstep : (run.step (.connect meanwhile config)).session =
        (run.session.connectAmid meanwhile config run.world).2.1 := rfl
    rw [hstep]
    generalize hdone : run.session.connectAmid meanwhile config run.world = done at hway ⊢
    cases hway with
    | kept hserves => exact Or.inl rfl
    | failed hnot hsound happlied hclosed => exact Or.inl happlied
    | opened hnot hsound happlied hchannel hsent =>
      exact Or.inr ⟨meanwhile, config, rfl, by rw [hdone], happlied⟩
  | disconnect => exact Or.inl (Session.disconnect_keeps h.sound run.world).1
  | send command => exact Or.inl rfl
  | updateBuildOnChange executable =>
    refine Or.inl ?_
    have hstep : (run.step (.updateBuildOnChange executable)).session =
        (run.session.updateBuildOnChange executable run.world).2.1 := rfl
    rw [hstep, Session.updateBuildOnChange, Session.announce_session]
  | updateProjectDirectory directory =>
    refine Or.inl ?_
    have hstep : (run.step (.updateProjectDirectory directory)).session =
        (run.session.updateProjectDirectory directory run.world).2.1 := rfl
    rw [hstep, Session.updateProjectDirectory, Session.announce_session]
  | setBootstrap bootstrap => exact Or.inl rfl
  | setBundledCli path => exact Or.inl rfl
  | arrive bytes => exact Or.inl rfl
  | stopReading => exact Or.inl rfl
  | outside others => exact Or.inl rfl

end SessionRun

namespace Session

/-- **A connect that fails leaves no connection, and what was applied before.** -/
theorem connectAmid_failed {session : Session} (h : session.Sound) {meanwhile : Meanwhile}
    {config : ServerConfig} {world : World} {e : ServerError}
    (hfailed : (session.connectAmid meanwhile config world).1 = .error e) :
    (session.connectAmid meanwhile config world).2.1.applied = session.applied ∧
      (session.connectAmid meanwhile config world).2.1.current.connected = false := by
  have hway := connectAmid_way h meanwhile config world
  generalize session.connectAmid meanwhile config world = done at hway hfailed ⊢
  cases hway with
  | kept hserves => cases hfailed
  | failed hnot hsound happlied hclosed => exact ⟨happlied, hclosed⟩
  | opened hnot hsound happlied hchannel hsent => cases hfailed

/-- Where no process is held nothing outside changes when a session is disconnected. -/
theorem disconnect_of_quiet {session : Session} (h : session.Quiet) (world : World) :
    (session.disconnect world).1.Quiet ∧ (session.disconnect world).2 = world := by
  have hstopped : session.stopCli world = ({ session with launched := none }, world) :=
    stopCli_of_not_launched (by rw [h.launched, h.isOpen]; rfl)
  refine ⟨(disconnect_idle h.sound world).1.toQuiet, ?_⟩
  unfold disconnect
  split
  · rfl
  · rw [hstopped]

/-- Nor does it when one is set up without a process: at most the network changes. -/
theorem connect_of_quiet {session : Session} (h : session.Quiet) (config : ServerConfig)
    (hlocation : config.location.spawnsCli = false) (world : World) :
    (session.connect config world).2.2.files = world.files := by
  by_cases hserves : session.ServesAs config
  · rw [connect_of_servesAs world hserves]
  · have hdown : (session.down world).1.Quiet ∧ (session.down world).2 = world := by
      unfold down
      split
      · exact disconnect_of_quiet h world
      · exact ⟨h, rfl⟩
    have hstopped : (session.down world).1.stopCli (session.down world).2 =
        ({ (session.down world).1 with launched := none }, (session.down world).2) :=
      stopCli_of_not_launched (by rw [hdown.1.launched, hdown.1.isOpen]; rfl)
    have hensure : (session.down world).1.ensureCli config (session.down world).2 =
        (.ok (), { (session.down world).1 with launched := none }, world) := by
      rcases ensureCli_cases config (session.down world).1 (session.down world).2 with
        ⟨-, he⟩ | ⟨hspawns, -⟩
      · rw [he, hstopped, hdown.2]
      · exact absurd (hlocation.symm.trans hspawns) Bool.false_ne_true
    rw [connect_of_not_servesAs world hserves, hensure]
    unfold connectChannel
    dsimp only
    split
    · rfl
    · split
      · rfl
      · rfl

end Session

variable {ι : Type} {loader : LibraryLoader ι}

namespace EngineResources

variable {resources : EngineResources ι} {meanwhile : Meanwhile}

/-! ## 4. Passes whose server step fails -/

/-- The operations of a pass while others act. -/
def controlsAmid (loader : LibraryLoader ι) (meanwhile : Meanwhile) :
    ResourceControls (EngineResources ι) :=
  { controls loader with
    connect := fun config => withSession (Session.connectAmid meanwhile config) }

/-- Undisturbed they are those of a pass. -/
theorem controlsAmid_undisturbed (loader : LibraryLoader ι) :
    controlsAmid loader .nothing = controls loader := by
  have hconnect : (fun config => withSession (ι := ι) (Session.connectAmid .nothing config)) =
      fun config => withSession (Session.connect config) := by
    funext config
    have hsame : Session.connectAmid .nothing config = Session.connect config := by
      funext session world
      exact Session.connectAmid_undisturbed config session world
    rw [hsame]
  rw [controlsAmid, hconnect]
  rfl

/-- **A server step fails in connecting**, once what was in the way was taken down. -/
theorem matchServerAmid_failed {wanted : ServerDesired} {e : ReconcileError}
    (hfailed : ((controlsAmid loader meanwhile).matchServer wanted resources).1 = .error e) :
    ∃ ready : EngineResources ι,
      (ready = resources ∧ resources.session.channel.isConnected = false ∨
        ready = resources.disconnect ∧ resources.session.channel.isConnected = true) ∧
      (∃ cause, (ready.session.connectAmid meanwhile wanted.config ready.world).1 =
        .error cause) ∧
      ((controlsAmid loader meanwhile).matchServer wanted resources).2 =
        (ready.withSession (Session.connectAmid meanwhile wanted.config)).2 := by
  obtain ⟨cause, -, hclosed, hconnect⟩ := ResourceControls.matchServer_error hfailed
  refine ⟨(controlsAmid loader meanwhile).cleared wanted resources, ?_,
    ⟨cause, congrArg Prod.fst hconnect⟩, (congrArg Prod.snd hconnect).symm⟩
  rw [ResourceControls.cleared] at hclosed ⊢
  split
  · next hdrop => exact Or.inr ⟨rfl, (Bool.and_eq_true_iff.mp hdrop).1⟩
  · next hkept =>
    rw [if_neg hkept] at hclosed
    exact Or.inl ⟨rfl, hclosed⟩

/-- **A server step that fails keeps what was applied, and the library.** -/
theorem matchServerAmid_contained (h : resources.session.Sound) {wanted : ServerDesired}
    {e : ReconcileError}
    (hfailed : ((controlsAmid loader meanwhile).matchServer wanted resources).1 = .error e) :
    let after := ((controlsAmid loader meanwhile).matchServer wanted resources).2
    after.session.current = ⟨false, resources.session.applied⟩ ∧
      after.library = resources.library := by
  obtain ⟨ready, hready, ⟨cause, hcause⟩, hafter⟩ := matchServerAmid_failed hfailed
  have hkept : ready.session.Sound ∧ ready.session.applied = resources.session.applied ∧
      ready.library = resources.library := by
    rcases hready with ⟨rfl, -⟩ | ⟨rfl, -⟩
    · exact ⟨h, rfl, rfl⟩
    · exact ⟨h.disconnect resources.world,
        (Session.disconnect_keeps h resources.world).1, rfl⟩
  obtain ⟨hsound, happlied, hlibrary⟩ := hkept
  obtain ⟨hstays, hclosed⟩ := Session.connectAmid_failed hsound hcause
  intro after
  have hsession : after.session =
      (ready.session.connectAmid meanwhile wanted.config ready.world).2.1 :=
    congrArg EngineResources.session hafter
  refine ⟨?_, (congrArg EngineResources.library hafter).trans hlibrary⟩
  rw [hsession, Session.current, hstays, happlied]
  exact congrArg (ServerCurrent.mk · _) hclosed

/-- Where a process is neither held nor wanted it leaves the files alone, too. -/
theorem matchServer_failed_files (h : resources.session.Quiet) {wanted : ServerDesired}
    (hlocation : wanted.location.spawnsCli = false) {e : ReconcileError}
    (hfailed : ((controls loader).matchServer wanted resources).1 = .error e) :
    ((controls loader).matchServer wanted resources).2.world.files = resources.world.files := by
  rw [← controlsAmid_undisturbed] at hfailed ⊢
  obtain ⟨ready, hready, -, hafter⟩ := matchServerAmid_failed hfailed
  have hkept : ready.session.Quiet ∧ ready.world = resources.world := by
    rcases hready with ⟨rfl, -⟩ | ⟨rfl, -⟩
    · exact ⟨h, rfl⟩
    · exact Session.disconnect_of_quiet h resources.world
  have hfiles := Session.connect_of_quiet hkept.1 wanted.config hlocation ready.world
  rw [← Session.connectAmid_undisturbed, hkept.2] at hfiles
  have hworld := congrArg (fun resources => resources.world.files) hafter
  rw [hworld, ← hfiles, ← hkept.2]
  rfl

/-- **Where it has another name, it leaves the copy of somebody else alone.** -/
theorem matchServerAmid_beside {directory : Path} {name : String} {content : Content}
    {wanted : ServerDesired} {e : ReconcileError} (hsound : resources.session.Sound)
    (h : resources.session.Beside directory name content resources.world)
    (hundisturbed : resources.session.Undisturbed directory name meanwhile wanted.config
      resources.world)
    (hfailed : ((controlsAmid loader meanwhile).matchServer wanted resources).1 = .error e) :
    let after := ((controlsAmid loader meanwhile).matchServer wanted resources).2
    after.session.Beside directory name content after.world := by
  obtain ⟨ready, hready, -, hafter⟩ := matchServerAmid_failed hfailed
  -- what was in the way is what a connect would take down first, so nothing is left of that
  obtain ⟨hdown, hclosed⟩ :
      (ready.session, ready.world) = resources.session.down resources.world ∧
        ready.session.channel.isConnected = false := by
    rcases hready with ⟨rfl, hclosed⟩ | ⟨rfl, hconnected⟩
    · exact ⟨by rw [Session.down, hclosed]; rfl, hclosed⟩
    · exact ⟨by rw [Session.down, hconnected]; rfl,
        (Session.disconnect_idle hsound resources.world).1.isConnected⟩
  have hagain : ready.session.down ready.world = (ready.session, ready.world) := by
    unfold Session.down
    rw [hclosed]
    rfl
  have hbeside : ready.session.Beside directory name content ready.world := by
    have hstays := h.down hundisturbed.stops
    rwa [← hdown] at hstays
  have hrest : ready.session.Undisturbed directory name meanwhile wanted.config ready.world := by
    obtain ⟨hnamed, hspares, -, hstops⟩ := hundisturbed
    refine ⟨?_, hspares, fun hconnected => ?_, ?_⟩
    · rw [hagain, hdown]
      exact hnamed
    · exact absurd (hconnected.symm.trans hclosed) (by decide)
    · rw [hagain, hdown]
      exact hstops
  rw [hafter]
  exact hbeside.connectAmid hrest

/-- **A pass that fails with an error of the server keeps what was applied, and the library**, and
the files where a process is neither held nor wanted.  In any case it leaves the copies alone that
have another name than those of the executable. -/
theorem matchAllAmid_contained (h : resources.session.Sound) {desired : DesiredState}
    {cause : ServerError}
    (hfailed : ((controlsAmid loader meanwhile).matchAll desired resources).1 =
      .error (.server cause)) :
    let after := ((controlsAmid loader meanwhile).matchAll desired resources).2
    after.session.current = ⟨false, resources.session.applied⟩ ∧
      after.library = resources.library ∧
      (meanwhile = .nothing → resources.session.Quiet →
        desired.server.location.spawnsCli = false →
        after.world.files = resources.world.files) ∧
      ∀ directory name content,
        resources.session.Beside directory name content resources.world →
        resources.session.Undisturbed directory name meanwhile desired.server.config
          resources.world →
        after.world.files.content? (directory.join ⟨name⟩) = some content := by
  rcases ResourceControls.matchAll_error hfailed with ⟨other, -, hserver⟩ | ⟨hother, -⟩
  · have hstep := congrArg Prod.fst hserver
    have hafter := congrArg Prod.snd hserver
    obtain ⟨hcurrent, hlibrary⟩ := matchServerAmid_contained h hstep
    rw [hafter] at hcurrent hlibrary
    refine ⟨hcurrent, hlibrary, ?_, fun directory name content hbeside hundisturbed => ?_⟩
    · rintro rfl hquiet hlocation
      rw [controlsAmid_undisturbed] at hstep hafter ⊢
      have hfiles := matchServer_failed_files hquiet hlocation hstep
      rw [hafter] at hfiles
      exact hfiles
    · have hstays := matchServerAmid_beside h hbeside hundisturbed hstep
      rw [hafter] at hstays
      exact hstays.content?
  · exact absurd rfl (hother cause)

end EngineResources

namespace SessionRun

/-- The lines that a peer has read begin with the commands, one on each. -/
def Begins (commands : List Command) (bytes : List UInt8) : Prop :=
  (commands.map fun command => Utf8.ofString command.line) <+: (Framing.lines bytes).1

/-- Commands that were sent first are read first. -/
theorem begins_of_sent (commands : List Command) (more : List UInt8) :
    Begins commands ((commands.map Command.line).flatMap Framing.bytes ++ more) := by
  have hlines : ∀ text ∈ commands.map Command.line, '\n' ∉ text.toList := by
    intro text htext
    obtain ⟨command, -, rfl⟩ := List.mem_map.mp htext
    exact command.newline_notMem_line
  have hread : (commands.map fun command => Utf8.ofString command.line) =
      (commands.map Command.line).map Utf8.ofString := by
    rw [List.map_map, Function.comp_def]
  rw [Begins, Framing.lines_frames _ hlines, hread]
  exact List.prefix_append ((commands.map Command.line).map Utf8.ofString) (Framing.lines more).1

/-- While a session is connected all this can be seen: in what it says, and in what its peer has
read. -/
theorem Truthful.greeted {run : SessionRun} (h : run.Truthful)
    (hconnected : run.session.current.connected = true) :
    ∃ opening number bytes, run.opening = some opening ∧
      run.session.current.applied = some opening.config ∧
      run.session.channel.address =
        some (ServerConfig.addressOf opening.config.ip opening.config.port) ∧
      run.session.channel.connection.map Connection.number = some number ∧
      run.world.network.received? number = some bytes ∧ Begins opening.commands bytes := by
  obtain ⟨opening, connection, hopening, hspeaks⟩ := h.speaks hconnected
  obtain ⟨more, hmore⟩ := hspeaks.greeted
  refine ⟨opening, connection.number, _, hopening, hspeaks.applied, ?_, ?_, hmore,
    begins_of_sent opening.commands more⟩
  · rw [Channel.address, hspeaks.held, ← hspeaks.address]
    rfl
  · rw [hspeaks.held]
    rfl

/-- **What a session says of itself is true, and its failures are contained.**  For every run:

* while it is connected, what was applied is the configuration of the connect that has set up this
  connection, the address is the one of that configuration, and what the peer has read begins with
  the commands that followed from the options of that connect, one on each line;
* whatever happens next, what is applied changes only in a connect that succeeds, and then to its
  configuration;
* a connect that fails leaves what was applied, and no connection.

Therefore, in every engine that can be reached, a pass that fails with an error of the server keeps
what was applied, and the library: what it says of itself, the instance, and what it knows of its
working copy.  On disk this copy keeps its content, too, as does every other one beside that of the
executable, as long as the executable of this connect has another name, and nobody else changes the
directory; and all files stay where a process is neither held nor wanted. -/
theorem truthful_contained (directory : Path) (grace : Nat) (bundledCli : Option Path)
    (bootstrap : Bootstrap) (world : World) (list : List SessionMove)
    (loader : LibraryLoader ι) :
    let run := (SessionRun.start directory grace bundledCli bootstrap world).steps list
    (run.session.current.connected = true →
      ∃ opening number bytes, run.opening = some opening ∧
        run.session.current.applied = some opening.config ∧
        run.session.channel.address =
          some (ServerConfig.addressOf opening.config.ip opening.config.port) ∧
        run.session.channel.connection.map Connection.number = some number ∧
        run.world.network.received? number = some bytes ∧ Begins opening.commands bytes) ∧
    (∀ next, (run.step next).session.applied = run.session.applied ∨
      ∃ meanwhile config, next = .connect meanwhile config ∧
        (run.session.connectAmid meanwhile config run.world).1 = .ok () ∧
        (run.step next).session.applied = some config) ∧
    (∀ meanwhile config e, (run.session.connectAmid meanwhile config run.world).1 = .error e →
      (run.step (.connect meanwhile config)).session.current = ⟨false, run.session.applied⟩) ∧
    ∀ engine : Engine ι, engine.Reachable loader → ∀ meanwhile desired cause,
      ((EngineResources.controlsAmid loader meanwhile).matchAll desired engine.resources).1 =
        .error (.server cause) →
      let after :=
        ((EngineResources.controlsAmid loader meanwhile).matchAll desired engine.resources).2
      after.session.current = ⟨false, engine.resources.session.applied⟩ ∧
        after.library = engine.resources.library ∧
        (meanwhile = .nothing → engine.resources.session.Quiet →
          desired.server.location.spawnsCli = false →
          after.world.files = engine.resources.world.files) ∧
        ∀ directory name content,
          engine.resources.session.Beside directory name content engine.resources.world →
          engine.resources.session.Undisturbed directory name meanwhile desired.server.config
            engine.resources.world →
          after.world.files.content? (directory.join ⟨name⟩) = some content := by
  intro run
  have htruthful : run.Truthful :=
    (Truthful.start directory grace bundledCli bootstrap world).steps list
  refine ⟨htruthful.greeted, applied_step htruthful, fun meanwhile config e hfailed => ?_,
    fun engine hreachable meanwhile desired cause hfailed => ?_⟩
  · obtain ⟨hstays, hclosed⟩ := Session.connectAmid_failed htruthful.sound hfailed
    have hstep : (run.step (.connect meanwhile config)).session =
        (run.session.connectAmid meanwhile config run.world).2.1 := rfl
    rw [hstep, Session.current, hstays]
    exact congrArg (ServerCurrent.mk · _) hclosed
  · have hsound : engine.resources.Sound loader := hreachable.sound
    exact EngineResources.matchAllAmid_contained hsound.session hfailed

/-- Somebody who listens already, at a port. -/
def externalAt (port : UInt16) : ServerConfig := ⟨"127.0.0.1", port, .external, none⟩

/-- A session that has connected to the one port where somebody listens. -/
def greetedOnce : SessionRun :=
  (SessionRun.start ⟨"/work"⟩ 0 none ⟨⟨"/"⟩, true⟩ (Engine.smallWorld [] [5184])).steps
    [.connect .nothing (externalAt 5184)]

/-- A process is wanted, and nobody says which. -/
def withoutCli : DesiredState :=
  { Engine.libraryAt true "/b.so" with server := ⟨true, "127.0.0.1", 5184, .customCli, none⟩ }

/-- A library and an executable that cannot be run, of different names. -/
def otherNames : World :=
  Engine.smallWorld
    [(["a"], .directory 0o755), (["a", "x"], .file 0o644 (.octets (Utf8.ofString "A"))),
      (["b"], .directory 0o755), (["b", "y"], .file 0o644 (.octets (Utf8.ofString "B")))] []

/-- An engine that has loaded the library. -/
def loadedApart : Engine Recorder :=
  (Engine.start Engine.smallOptions otherNames).moves Recorder.loader
    [.apply 0 fun _ => Engine.libraryAt true "/a/x"]

/-- The library, and a connection to a process that does not start. -/
def withOtherCli : DesiredState :=
  { Engine.libraryAt true "/a/x" with
    server := ⟨true, "127.0.0.1", 5184, .customCli, some ⟨"/b/y"⟩⟩ }

/-- The copy of the library is beside that of the session, of which there is none. -/
theorem loadedApart_beside :
    loadedApart.resources.session.Beside ⟨"/work"⟩ "locked.x" (.octets (Utf8.ofString "A"))
      loadedApart.resources.world := by
  have hrooted : otherNames.files.IsRooted := rfl
  have hroom : otherNames.files.room? ⟨"/work"⟩ = some ["work"] := by decide +kernel
  have hempty : ∀ names, names ≠ [] → otherNames.files.get? (["work"] ++ names) = none := by
    intro names hnames
    obtain ⟨name, names, rfl⟩ := List.exists_cons_of_ne_nil hnames
    rfl
  have hmade : WorkingCopy.copySource ⟨"/work"⟩ ⟨"/a/x"⟩ otherNames.files =
      (some ⟨"/work/locked.x"⟩, loadedApart.resources.world.files) := by decide +kernel
  obtain ⟨name, content, hname, -, -, hcontent, hhouses⟩ :=
    (FileTree.Houses.of_isVacant hrooted (.of_room? hrooted hroom hempty)).copySource_some hmade
  have hlocked : WorkingCopy.nameFor? ⟨"/a/x"⟩ = some "locked.x" := by decide +kernel
  have hletter : otherNames.files.content? ⟨"/a/x"⟩ = some (.octets (Utf8.ofString "A")) := by
    decide +kernel
  obtain rfl := Option.some.inj (hname.symm.trans hlocked)
  obtain rfl := Option.some.inj (hcontent.symm.trans hletter)
  exact ⟨_, none, none, .unused (by decide +kernel) (by decide +kernel) (by decide +kernel) hhouses,
    if_pos rfl, nofun⟩

/-- Nobody disturbs it, and nothing has to be stopped. -/
theorem loadedApart_undisturbed :
    loadedApart.resources.session.Undisturbed ⟨"/work"⟩ "locked.x" .nothing
      withOtherCli.server.config loadedApart.resources.world := by
  have hclosed : loadedApart.resources.session.channel.isConnected = false := by decide +kernel
  have hprocess : loadedApart.resources.session.supervisor.process = none := by decide +kernel
  have hdown : loadedApart.resources.session.down loadedApart.resources.world =
      (loadedApart.resources.session, loadedApart.resources.world) := by
    rw [Session.down, hclosed]
    rfl
  refine ⟨fun path hpath => ?_, .nothing _, fun hconnected => ?_, ?_⟩
  · have hother : Except.ok (⟨"/b/y"⟩ : Path) = (.ok path : Except ServerError Path) := hpath
    rw [← Except.ok.inj hother]
    decide +kernel
  · exact absurd (hclosed.symm.trans hconnected) (by decide)
  · rw [hdown]
    exact Session.stopsAside_of_idle _ hprocess _

/-- The session is connected and has said all that it had to; a connect to another port fails, and
an engine with a library keeps it when its pass fails, and its copy on disk as well when a process
of another name does not start. -/
theorem greetedOnce_truthful :
    greetedOnce.session.current = ⟨true, some (externalAt 5184)⟩ ∧
      (∃ opening number bytes, greetedOnce.opening = some opening ∧
        greetedOnce.session.current.applied = some opening.config ∧
        greetedOnce.session.channel.address =
          some (ServerConfig.addressOf opening.config.ip opening.config.port) ∧
        greetedOnce.session.channel.connection.map Connection.number = some number ∧
        greetedOnce.world.network.received? number = some bytes ∧
        Begins opening.commands bytes) ∧
      (greetedOnce.session.connectAmid .nothing (externalAt 1) greetedOnce.world).1 =
        .error (.channel (.refused "127.0.0.1:1")) ∧
      (greetedOnce.step (.connect .nothing (externalAt 1))).session.current =
        ⟨false, some (externalAt 5184)⟩ ∧
      Engine.loadedHere.Reachable Recorder.loader ∧
      ((EngineResources.controlsAmid Recorder.loader .nothing).matchAll withoutCli
        Engine.loadedHere.resources).1 = .error (.server .missingCustomCli) ∧
      ((EngineResources.controlsAmid Recorder.loader .nothing).matchAll withoutCli
        Engine.loadedHere.resources).2.library = Engine.loadedHere.resources.library ∧
      ((EngineResources.controlsAmid Recorder.loader .nothing).matchAll withOtherCli
        loadedApart.resources).1 = .error (.server (.cliStart ⟨"/b/y"⟩)) ∧
      ((EngineResources.controlsAmid Recorder.loader .nothing).matchAll withOtherCli
        loadedApart.resources).2.world.files.content? ⟨"/work/locked.x"⟩ =
          some (.octets (Utf8.ofString "A")) := by
  obtain ⟨hconnected, -, hfailed, hcontained⟩ := truthful_contained ⟨"/work"⟩ 0 none
    ⟨⟨"/"⟩, true⟩ (Engine.smallWorld [] [5184]) [.connect .nothing (externalAt 5184)]
    Recorder.loader
  have hcurrent : greetedOnce.session.current = ⟨true, some (externalAt 5184)⟩ := by
    decide +kernel
  have hrefused : (greetedOnce.session.connectAmid .nothing (externalAt 1) greetedOnce.world).1 =
      .error (.channel (.refused "127.0.0.1:1")) := by
    decide +kernel
  have hreachable : Engine.loadedHere.Reachable Recorder.loader := ⟨_, _, _, rfl⟩
  have hmissing : ((EngineResources.controlsAmid Recorder.loader .nothing).matchAll withoutCli
      Engine.loadedHere.resources).1 = .error (.server .missingCustomCli) := by
    decide +kernel
  have hapart : loadedApart.Reachable Recorder.loader := ⟨_, _, _, rfl⟩
  have hbroken : ((EngineResources.controlsAmid Recorder.loader .nothing).matchAll withOtherCli
      loadedApart.resources).1 = .error (.server (.cliStart ⟨"/b/y"⟩)) := by
    decide +kernel
  have hcopy := (hcontained loadedApart hapart .nothing withOtherCli _ hbroken).2.2.2 _ _ _
    loadedApart_beside loadedApart_undisturbed
  have hjoin : Path.join ⟨"/work"⟩ ⟨"locked.x"⟩ = ⟨"/work/locked.x"⟩ := by decide +kernel
  rw [hjoin] at hcopy
  have hstays := hfailed .nothing (externalAt 1) _ hrefused
  have happlied : greetedOnce.session.applied = some (externalAt 5184) :=
    congrArg ServerCurrent.applied hcurrent
  exact ⟨hcurrent, hconnected (by decide +kernel), hrefused, happlied ▸ hstays, hreachable,
    hmissing, (hcontained Engine.loadedHere hreachable .nothing withoutCli _ hmissing).2.1,
    hbroken, hcopy⟩

end SessionRun

namespace Engine

/-- A library and an executable that cannot be run, of the same name. -/
def sameNames : World :=
  smallWorld
    [(["a"], .directory 0o755), (["a", "x"], .file 0o644 (.octets (Utf8.ofString "A"))),
      (["b"], .directory 0o755), (["b", "x"], .file 0o644 (.octets (Utf8.ofString "B")))] []

/-- An engine that has loaded the library. -/
def loadedBeside : Engine Recorder :=
  (Engine.start smallOptions sameNames).moves Recorder.loader
    [.apply 0 fun _ => libraryAt true "/a/x"]

/-- The library, and a connection to a process. -/
def withBrokenCli : DesiredState :=
  { libraryAt true "/a/x" with
    server := ⟨true, "127.0.0.1", 5184, .customCli, some ⟨"/b/x"⟩⟩ }

/-- **A process that does not start removes the working copy of a library that stays loaded**, where
the two have the same file name. -/
theorem failed_start_removes_copy :
    loadedBeside.Reachable Recorder.loader ∧
      loadedBeside.resources.library.held.copy = some ⟨"/work/locked.x"⟩ ∧
      loadedBeside.resources.world.files.contains ⟨"/work/locked.x"⟩ = true ∧
      ((loadedBeside.wanting withBrokenCli).reconcile Recorder.loader 1).1 =
        .error (.server (.cliStart ⟨"/b/x"⟩)) ∧
      ((loadedBeside.wanting withBrokenCli).reconcile Recorder.loader
        1).2.resources.library.current = ⟨true, some ⟨"/a/x"⟩⟩ ∧
      ((loadedBeside.wanting withBrokenCli).reconcile Recorder.loader
        1).2.resources.library.held.copy = some ⟨"/work/locked.x"⟩ ∧
      ((loadedBeside.wanting withBrokenCli).reconcile Recorder.loader
        1).2.resources.world.files.contains ⟨"/work/locked.x"⟩ = false :=
  ⟨⟨_, _, _, rfl⟩, by decide +kernel, by decide +kernel, by decide +kernel, by decide +kernel,
    by decide +kernel, by decide +kernel⟩

end Engine

end RenderSync
