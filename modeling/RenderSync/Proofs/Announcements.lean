import RenderSync.Proofs.EngineChronicle
import RenderSync.Proofs.Lifetime

/-!
# What the server was told

The preferences of a session are stored in it, and told to the server in two ways: all of them
right after connecting, and each of them when it changes while connected.  What was told last on
the connection that is held is therefore always what is stored (`Chronicle.Faithful`).

The project directory is told as it is found among the files at that moment.  It is not told again
when the files change, so what was told is to be measured by the files of then; the acts have kept
them.

Nothing is assumed of connects: one that fails, be it in the middle of its commands, leaves no
connection on which anything need have been told.  An announcement must come through, though
(`EngineChronicle.Sends`), for the preference is stored before it is sent and stays stored.
-/

namespace RenderSync

/-! ## 1. What was said on a connection -/

/-- A command, with the files that it was made from. -/
abbrev Said := FileTree × Command

/-- What was said on the connection that was opened last. -/
def Act.speak (said : List Said) : Act → List Said
  | opened => []
  | .said files command => said ++ [(files, command)]
  | _ => said

def spoken (acts : List Act) : List Said := acts.foldl Act.speak []

/-- What a peer has received of it. -/
def heard (said : List Said) : List UInt8 :=
  (said.map fun entry => entry.2.line).flatMap Framing.bytes

/-- The last that was said of a kind. -/
def lastSaid (kind : Command → Bool) (said : List Said) : Option Said :=
  (said.filter fun entry => kind entry.2).getLast?

namespace Command

/-- What is rebuilt on change is announced. -/
def isOnChange : Command → Bool
  | setBuildOnChange .. => true
  | _ => false

/-- The project directory is announced. -/
def isDirectory : Command → Bool
  | setProjectDirectory _ => true
  | _ => false

end Command

variable {kind : Command → Bool} {said more : List Said}

/-- Commands that are made from the same files. -/
def saidFrom (files : FileTree) (commands : List Command) : List Said := commands.map (files, ·)

theorem heard_append (said more : List Said) : heard (said ++ more) = heard said ++ heard more := by
  rw [heard, List.map_append, List.flatMap_append]
  rfl

theorem heard_saidFrom (files : FileTree) (commands : List Command) :
    heard (saidFrom files commands) = (commands.map Command.line).flatMap Framing.bytes := by
  rw [heard, saidFrom, List.map_map]
  rfl

/-- Other commands do not matter. -/
theorem lastSaid_append_of_none (said : List Said) (h : ∀ entry ∈ more, kind entry.2 = false) :
    lastSaid kind (said ++ more) = lastSaid kind said := by
  have hnone : more.filter (fun entry => kind entry.2) = [] :=
    List.filter_eq_nil_iff.mpr fun entry hentry => by rw [h entry hentry]; exact Bool.false_ne_true
  rw [lastSaid, List.filter_append, hnone, List.append_nil]
  rfl

/-- What was said after it does not matter where it is of another kind. -/
theorem lastSaid_append_cons (said : List Said) {entry : Said} (hentry : kind entry.2 = true)
    (h : ∀ other ∈ more, kind other.2 = false) :
    lastSaid kind (said ++ entry :: more) = some entry := by
  have hone : lastSaid kind (said ++ [entry]) = some entry := by
    have hkept : [entry].filter (fun entry => kind entry.2) = [entry] := by simp [hentry]
    rw [lastSaid, List.filter_append, hkept, List.getLast?_concat]
  have hall := lastSaid_append_of_none (said ++ [entry]) h
  rw [List.append_assoc] at hall
  exact hall.trans hone

/-- What is said is added to what was said. -/
theorem spoken_append_said (acts : List Act) (files : FileTree) (commands : List Command) :
    spoken (acts ++ commands.map (.said files)) = spoken acts ++ saidFrom files commands := by
  rw [spoken, List.foldl_append, ← spoken]
  generalize spoken acts = said
  induction commands generalizing said with
  | nil => exact (List.append_nil said).symm
  | cons command rest ih =>
    rw [List.map_cons, List.foldl_cons, ih]
    exact List.append_assoc said [(files, command)] (saidFrom files rest)

/-- On a new connection nothing was said yet. -/
theorem spoken_opened (acts : List Act) : spoken (acts ++ [.opened]) = [] := by
  rw [spoken, List.foldl_append]
  rfl

/-! ## 2. Preferences -/

namespace Bootstrap

/-- **What was said last of each preference is what is stored**, and the directory as it was found
at that moment. -/
structure Announced (bootstrap : Bootstrap) (said : List Said) : Prop where
  onChange : ∃ files, lastSaid Command.isOnChange said = some (files, bootstrap.onChange)
  directory : ∃ files, lastSaid Command.isDirectory said = some (files, bootstrap.directory files)

variable {bootstrap : Bootstrap}

/-- The builds that are asked for announce nothing. -/
theorem builds_kinds (bootstrap : Bootstrap) (mode : BuildMode) (files : FileTree) :
    ∀ entry ∈ saidFrom files (bootstrap.builds mode),
      entry.2.isOnChange = false ∧ entry.2.isDirectory = false := by
  intro entry hentry
  obtain ⟨command, hcommand, rfl⟩ := List.mem_map.mp hentry
  rcases List.mem_cons.mp hcommand with rfl | hrest
  · exact ⟨rfl, rfl⟩
  · split at hrest
    · obtain rfl := List.mem_singleton.mp hrest
      exact ⟨rfl, rfl⟩
    · cases hrest

/-- **What is said right after connecting announces everything.** -/
theorem announced_commands (bootstrap : Bootstrap) (files : FileTree) :
    bootstrap.Announced (saidFrom files (bootstrap.commands files)) := by
  have hbuilds := builds_kinds bootstrap .full files
  refine ⟨⟨files, ?_⟩, ⟨files, ?_⟩⟩
  · refine lastSaid_append_cons [] rfl fun entry hentry => ?_
    rcases List.mem_cons.mp hentry with rfl | hrest
    · rfl
    · exact (hbuilds entry hrest).1
  · exact lastSaid_append_cons [(files, bootstrap.onChange)] rfl
      fun entry hentry => (hbuilds entry hentry).2

/-- A preference for what is rebuilt on change, once it is said. -/
theorem Announced.updateOnChange (h : bootstrap.Announced said) (executable : Bool)
    (files : FileTree) :
    let updated := { bootstrap with buildExecutableOnChange := executable }
    updated.Announced (said ++ saidFrom files (updated.onChange :: updated.builds .updates)) := by
  intro updated
  have hbuilds := builds_kinds updated .updates files
  refine ⟨⟨files, lastSaid_append_cons _ rfl fun entry hentry => (hbuilds entry hentry).1⟩, ?_⟩
  obtain ⟨before, hlast⟩ := h.directory
  refine ⟨before, (lastSaid_append_of_none _ fun entry hentry => ?_).trans hlast⟩
  rcases List.mem_cons.mp hentry with rfl | hrest
  · rfl
  · exact (hbuilds entry hrest).2

/-- A project directory, once it is said. -/
theorem Announced.updateDirectory (h : bootstrap.Announced said) (directory : Path)
    (files : FileTree) :
    let updated := { bootstrap with projectDirectory := directory }
    updated.Announced
      (said ++ saidFrom files (updated.directory files :: updated.builds .updates)) := by
  intro updated
  have hbuilds := builds_kinds updated .updates files
  obtain ⟨before, hlast⟩ := h.onChange
  refine ⟨⟨before, (lastSaid_append_of_none _ fun entry hentry => ?_).trans hlast⟩,
    ⟨files, lastSaid_append_cons _ rfl fun entry hentry => (hbuilds entry hentry).2⟩⟩
  rcases List.mem_cons.mp hentry with rfl | hrest
  · rfl
  · exact (hbuilds entry hrest).1

end Bootstrap

/-! ## 3. Saying it -/

/-- **If all commands could be said then exactly they were said**, in order. -/
theorem Channel.sayAllAmid_ok (channel : Channel) (before : Nat → Outside) (files : FileTree)
    (commands : List Command) : ∀ (place : Nat) (world : World) (acts : List Act),
      (channel.sayAllAmid before files commands place world acts).1 = .ok () →
      (channel.sayAllAmid before files commands place world acts).2.2 =
        acts ++ commands.map (.said files) := by
  induction commands with
  | nil => exact fun _ _ acts _ => (List.append_nil acts).symm
  | cons command rest ih =>
    intro place world acts hall
    rw [sayAllAmid] at hall ⊢
    rcases hsend : channel.send command.line ((before place).change world).network with
      ⟨e | ⟨⟩, network⟩ <;> rw [hsend] at hall
    · cases hall
    · exact (ih _ _ _ hall).trans (List.append_assoc acts [.said files command] _)

namespace Chronicle

variable {chronicle : Chronicle} {meanwhile : Meanwhile} {config : ServerConfig}

/-- **What was said on a new connection**: the commands that follow from the options. -/
theorem connectChannelAmid_spoken {before : Nat → Outside}
    (hok : (chronicle.connectChannelAmid before config).1 = .ok ()) :
    (chronicle.connectChannelAmid before config).2.session.bootstrap =
        chronicle.session.bootstrap ∧
      spoken (chronicle.connectChannelAmid before config).2.acts =
        saidFrom chronicle.world.files
          (chronicle.session.bootstrap.commands chronicle.world.files) := by
  unfold connectChannelAmid at hok ⊢
  dsimp only at hok ⊢
  rcases hconnect : chronicle.session.channel.connect config.ip config.port
    chronicle.world.network with ⟨e | ⟨⟩, channel, network⟩ <;> rw [hconnect] at hok
  · cases hok
  · have hsaid := Channel.sayAllAmid_ok channel before chronicle.world.files
      (chronicle.session.bootstrap.commands chronicle.world.files) 0
      { chronicle.world with network := network }
      (chronicle.acts ++ chronicle.session.channel.closing ++ [.dialed config] ++ [.opened])
    dsimp only at hok hsaid ⊢
    generalize Channel.sayAllAmid _ _ _ _ _ _ _ = said at hok hsaid ⊢
    rcases said with ⟨e | ⟨⟩, world, acts⟩
    · cases hok
    · obtain rfl := hsaid rfl
      refine ⟨rfl, ?_⟩
      dsimp only
      rw [spoken_append_said, spoken_opened, List.nil_append]

/-- The same, of a connect as a whole. -/
theorem connectAmid_spoken (meanwhile : Meanwhile) (h : chronicle.session.Sound)
    (hnot : ¬chronicle.session.ServesAs config)
    (hok : (chronicle.connectAmid meanwhile config).1 = .ok ()) :
    ∃ files, spoken (chronicle.connectAmid meanwhile config).2.acts = saidFrom files
        ((chronicle.connectAmid meanwhile config).2.session.bootstrap.commands files) ∧
      chronicle.session.greeting meanwhile config chronicle.world =
        (chronicle.connectAmid meanwhile config).2.session.bootstrap.commands files := by
  have hreadied := readied_plain meanwhile config chronicle
  have hbootstrap := (Session.readied_spec h meanwhile config chronicle.world).2.2.2
  unfold Session.greeting
  rw [hreadied] at hbootstrap ⊢
  unfold connectAmid at hok ⊢
  rw [Session.check_of_not_servesAs hnot] at hok ⊢
  simp only [Bool.false_eq_true, if_false] at hok ⊢
  rcases hensure : (chronicle.ready meanwhile).ensureCli config with ⟨e | ⟨⟩, ready⟩ <;>
    rw [hensure] at hok hbootstrap
  · cases hok
  · obtain ⟨hsame, hspoken⟩ := connectChannelAmid_spoken hok
    dsimp only at hbootstrap hsame hspoken ⊢
    refine ⟨(ready.amid meanwhile.beforeConnection).world.files, ?_, ?_⟩
    · rw [hspoken, hsame]
    · rw [hsame, ← hbootstrap]
      rfl

/-- **While it is connected a session has told its peer what it has stored.** -/
structure Faithful (chronicle : Chronicle) : Prop where
  sound : chronicle.session.Sound
  told : chronicle.session.channel.isConnected = true → ∃ connection,
    chronicle.session.channel.connection = some connection ∧
    chronicle.world.network.received? connection.number = some (heard (spoken chronicle.acts)) ∧
    chronicle.session.bootstrap.Announced (spoken chronicle.acts)

namespace Faithful

/-- Without a connection nothing need have been told. -/
theorem closed (hsound : chronicle.session.Sound)
    (hclosed : chronicle.session.channel.isConnected = false) : chronicle.Faithful :=
  ⟨hsound, fun hconnected => absurd (hclosed.symm.trans hconnected) Bool.false_ne_true⟩

/-- **A connect leaves a session faithful**, whatever comes of it. -/
theorem connect (h : chronicle.Faithful) (meanwhile : Meanwhile) (config : ServerConfig) :
    (chronicle.connectAmid meanwhile config).2.Faithful := by
  by_cases hserves : chronicle.session.ServesAs config
  · rw [connectAmid_of_servesAs meanwhile hserves]
    exact h
  have hway := Session.connectAmid_way h.sound meanwhile config chronicle.world
  have hspoken := connectAmid_spoken meanwhile h.sound hserves
  rw [connectAmid_plain] at hway
  generalize chronicle.connectAmid meanwhile config = done at hway hspoken ⊢
  obtain ⟨result, after⟩ := done
  generalize hpair : (result, after.plain) = pair at hway
  cases hway with
  | kept hyes => exact absurd hyes hserves
  | failed hnot hsound happlied hclosed =>
    cases hpair
    exact .closed hsound hclosed
  | @opened _ _ number hnot hsound happlied hchannel hsent =>
    cases hpair
    obtain ⟨files, hsaid, hgreeting⟩ := hspoken rfl
    dsimp only at hsaid hgreeting
    refine ⟨hsound, fun _ => ⟨_, congrArg Channel.connection hchannel, ?_, ?_⟩⟩
    · rw [hsaid, heard_saidFrom, ← hgreeting]
      exact hsent
    · rw [hsaid]
      exact Bootstrap.announced_commands _ files

/-- It stays so while the session, its acts and what its peer has received stay as they are. -/
theorem congr (h : chronicle.Faithful) {after : Chronicle} (hsound : after.session.Sound)
    (hchannel : after.session.channel = chronicle.session.channel)
    (hbootstrap : after.session.bootstrap = chronicle.session.bootstrap)
    (hacts : after.acts = chronicle.acts)
    (hkeeps : chronicle.world.network.Keeps after.world.network) : after.Faithful := by
  refine ⟨hsound, fun hconnected => ?_⟩
  obtain ⟨connection, hheld, hreceived, hannounced⟩ := h.told (hchannel ▸ hconnected)
  refine ⟨connection, hchannel ▸ hheld, ?_, ?_⟩
  · rw [hacts]
    exact hkeeps _ _ hreceived
  · rw [hacts, hbootstrap]
    exact hannounced

theorem disconnect (h : chronicle.Faithful) : chronicle.disconnect.Faithful := by
  have hidle := (disconnect_idle h.sound).1
  exact .closed hidle.toQuiet.sound hidle.isConnected

end Faithful

/-- **What is said is heard**: commands that could all be said were received behind what was
received before, and were taken down. -/
theorem say_spoken {connection : Connection} {old : List UInt8}
    (hheld : chronicle.session.channel.connection = some connection)
    (hold : chronicle.world.network.received? connection.number = some old)
    {commands : List Command} (hok : (chronicle.say commands).1 = .ok ()) :
    let after := (chronicle.say commands).2
    after.session = chronicle.session ∧
      spoken after.acts = spoken chronicle.acts ++ saidFrom chronicle.world.files commands ∧
      after.world.network.received? connection.number =
        some (old ++ heard (saidFrom chronicle.world.files commands)) := by
  have hplain := sayAllAmid_plain (fun _ => .nothing) chronicle.world.files commands
    chronicle.session.channel 0 chronicle.world chronicle.acts
  have hsaid := Channel.sayAllAmid_ok chronicle.session.channel (fun _ => .nothing)
    chronicle.world.files commands 0 chronicle.world chronicle.acts
  unfold say at hok ⊢
  dsimp only at hok hsaid hplain ⊢
  generalize Channel.sayAllAmid _ _ _ _ _ _ _ = said at hok hsaid hplain ⊢
  rcases said with ⟨e | ⟨⟩, world, acts⟩
  · cases hok
  · obtain rfl := hsaid rfl
    have hreceived := Channel.sendAllAmid_ok hheld _ hold hplain
    rw [← heard_saidFrom chronicle.world.files commands] at hreceived
    exact ⟨rfl, spoken_append_said _ _ _, hreceived⟩

/-- Nothing is announced without a connection. -/
theorem announce_of_closed (hclosed : chronicle.session.channel.isConnected = false)
    (command : Command) : chronicle.announce command = (.ok (), chronicle) := by
  rw [announce, hclosed]
  rfl

theorem announce_of_connected (hconnected : chronicle.session.channel.isConnected = true)
    (command : Command) :
    chronicle.announce command =
      chronicle.say (command :: chronicle.session.bootstrap.builds .updates) := by
  rw [announce, hconnected]
  rfl

namespace Faithful

/-- **An announcement that is sent leaves a session faithful**, where it makes up for what has
changed in the preferences. -/
theorem announce (h : chronicle.Faithful) {bootstrap : Bootstrap} {command : Command}
    (hmakes : ∀ {said}, chronicle.session.bootstrap.Announced said → bootstrap.Announced
      (said ++ saidFrom chronicle.world.files (command :: bootstrap.builds .updates)))
    (hok : ((chronicle.withBootstrap bootstrap).announce command).1 = .ok ()) :
    ((chronicle.withBootstrap bootstrap).announce command).2.Faithful := by
  have hsound : (chronicle.withBootstrap bootstrap).session.Sound := h.sound.congr rfl rfl
  have hchannel : (chronicle.withBootstrap bootstrap).session.channel =
      chronicle.session.channel := rfl
  cases hconnected : chronicle.session.channel.isConnected with
  | false =>
    rw [announce_of_closed (hchannel ▸ hconnected)]
    exact .closed hsound hconnected
  | true =>
    rw [announce_of_connected (hchannel ▸ hconnected)] at hok ⊢
    obtain ⟨connection, hheld, hreceived, hannounced⟩ := h.told hconnected
    have hopen : (chronicle.withBootstrap bootstrap).session.channel.connection =
        some connection := hheld
    obtain ⟨hstays, hspoken, hmore⟩ := say_spoken hopen hreceived hok
    refine ⟨?_, fun _ => ⟨connection, ?_, ?_, ?_⟩⟩
    · rw [hstays]
      exact hsound
    · rw [hstays]
      exact hheld
    · rw [hspoken, heard_append]
      exact hmore
    · rw [hspoken, hstays]
      exact hmakes hannounced

theorem updateBuildOnChange (h : chronicle.Faithful) {executable : Bool}
    (hok : (chronicle.updateBuildOnChange executable).1 = .ok ()) :
    (chronicle.updateBuildOnChange executable).2.Faithful :=
  h.announce (fun hannounced => hannounced.updateOnChange executable chronicle.world.files) hok

theorem updateProjectDirectory (h : chronicle.Faithful) {directory : Path}
    (hok : (chronicle.updateProjectDirectory directory).1 = .ok ()) :
    (chronicle.updateProjectDirectory directory).2.Faithful :=
  h.announce (fun hannounced => hannounced.updateDirectory directory chronicle.world.files) hok

/-- Others do not change what was told. -/
theorem amid (h : chronicle.Faithful) (others : Outside) : (chronicle.amid others).Faithful :=
  h.congr h.sound rfl rfl rfl (others.keeps chronicle.world)

/-- Neither do changes of the files. -/
theorem withFiles (h : chronicle.Faithful) (files : FileTree) :
    ({ chronicle with world := { chronicle.world with files := files } } : Chronicle).Faithful :=
  h.congr h.sound rfl rfl rfl fun _ _ hbytes => hbytes

end Faithful

end Chronicle

/-! ## 4. Runs of an engine -/

namespace EngineChronicle

variable {ι : Type} {loader : LibraryLoader ι} {account : EngineChronicle ι}

/-- What a call announces can be sent.  A connect may fail, in sending, too. -/
def Sends : Call → EngineChronicle ι → Prop
  | .updateBuildOnChange executable, account =>
    (account.withSession (Chronicle.updateBuildOnChange executable)).1 = .ok ()
  | .updateProjectDirectory directory, account =>
    (account.withSession (Chronicle.updateProjectDirectory directory)).1 = .ok ()
  | .applySettings _ _ settings, account =>
    account.engine.reconciler.isExiting = false →
      (account.stored settings).1.1 = .ok () ∧ (account.stored settings).1.2 = .ok ()
  | _, _ => True

instance (next : Call) (account : EngineChronicle ι) : Decidable (account.Sends next) :=
  match next with
  | .updateBuildOnChange executable => inferInstanceAs (Decidable
      ((account.withSession (Chronicle.updateBuildOnChange executable)).1 = .ok ()))
  | .updateProjectDirectory directory => inferInstanceAs (Decidable
      ((account.withSession (Chronicle.updateProjectDirectory directory)).1 = .ok ()))
  | .applySettings _ _ settings => inferInstanceAs (Decidable
      (account.engine.reconciler.isExiting = false →
        (account.stored settings).1.1 = .ok () ∧ (account.stored settings).1.2 = .ok ()))
  | .connect _ _ | .disconnect | .apply _ _ _ | .shutdown _ _ | .stopReading | .outside _ =>
    isTrue trivial

/-- Everything that calls announce can be sent. -/
def SendsAll (loader : LibraryLoader ι) : List Call → EngineChronicle ι → Prop
  | [], _ => True
  | next :: rest, account => account.Sends next ∧ SendsAll loader rest (account.call loader next)

instance SendsAll.decide (loader : LibraryLoader ι) : ∀ (list : List Call)
    (account : EngineChronicle ι), Decidable (account.SendsAll loader list)
  | [], _ => isTrue trivial
  | next :: rest, account =>
    have := SendsAll.decide loader rest (account.call loader next)
    inferInstanceAs (Decidable
      (account.Sends next ∧ SendsAll loader rest (account.call loader next)))

theorem storeOnChange_faithful (h : account.chronicle.Faithful) {before : Bootstrap}
    {settings : Settings} (hok : (account.storeOnChange before settings).1 = .ok ()) :
    (account.storeOnChange before settings).2.chronicle.Faithful := by
  unfold storeOnChange at hok ⊢
  dsimp only at hok ⊢
  split at hok
  · next hsame => rwa [if_pos hsame]
  · next hother =>
    rw [if_neg hother]
    exact Chronicle.Faithful.updateBuildOnChange h hok

theorem storeDirectory_faithful (h : account.chronicle.Faithful) {before : Bootstrap}
    {settings : Settings} (hok : (account.storeDirectory before settings).1 = .ok ()) :
    (account.storeDirectory before settings).2.chronicle.Faithful := by
  unfold storeDirectory at hok ⊢
  split at hok
  · next hsame => rwa [if_pos hsame]
  · next hother =>
    rw [if_neg hother]
    exact Chronicle.Faithful.updateProjectDirectory h hok

/-- **Preferences that could be announced leave a session faithful.** -/
theorem stored_faithful (h : account.chronicle.Faithful) {settings : Settings}
    (hok : (account.stored settings).1.1 = .ok () ∧ (account.stored settings).1.2 = .ok ()) :
    (account.stored settings).2.chronicle.Faithful := by
  have hplaced : (account.placed settings).chronicle.Faithful :=
    h.congr (h.sound.congr rfl rfl) rfl rfl rfl fun _ _ hbytes => hbytes
  exact storeDirectory_faithful (storeOnChange_faithful hplaced hok.1) hok.2

/-- A pass leaves a session faithful, whatever becomes of it. -/
theorem reconcile_faithful (h : account.chronicle.Faithful) (meanwhile : Meanwhile)
    (now : Moment) (reconciler : Reconciler) :
    (account.reconcile loader meanwhile now reconciler).chronicle.Faithful :=
  (reconcile_tells Chronicle.Faithful (fun _ config h => h.connect meanwhile config)
    (fun _ h => h.disconnect) (fun _ files h => h.withFiles files) now reconciler h).2

/-- **A call leaves a session faithful**, if what it announces can be sent. -/
theorem call_faithful (h : account.chronicle.Faithful) {next : Call} (hsends : account.Sends next) :
    (account.call loader next).chronicle.Faithful := by
  cases next with
  | connect meanwhile config => exact h.connect meanwhile config
  | disconnect => exact h.disconnect
  | updateBuildOnChange executable => exact h.updateBuildOnChange hsends
  | updateProjectDirectory directory => exact h.updateProjectDirectory hsends
  | applySettings meanwhile now settings =>
    unfold call
    dsimp only
    split
    · exact h
    · next hrunning =>
      have hstored := stored_faithful h (hsends (Bool.eq_false_iff.mpr hrunning))
      exact reconcile_faithful hstored meanwhile now _
  | apply meanwhile now edit => exact reconcile_faithful h meanwhile now _
  | shutdown meanwhile now => exact reconcile_faithful h meanwhile now _
  | stopReading =>
    exact .closed (h.sound.congr rfl rfl) (Channel.isConnected_stopReading _)
  | outside others => exact h.amid others

/-- It stays faithful along every run in which everything that is announced can be sent. -/
theorem calls_faithful (list : List Call) : ∀ {account : EngineChronicle ι},
    account.chronicle.Faithful → account.SendsAll loader list →
      (account.calls loader list).chronicle.Faithful := by
  induction list with
  | nil => exact fun h _ => h
  | cons next rest ih => exact fun h hall => ih (call_faithful h hall.1) hall.2

theorem start_faithful (options : EngineOptions) (world : World) :
    (start options world : EngineChronicle ι).chronicle.Faithful :=
  .closed (Session.Sound.start _ _ _ _) rfl

/-- **What was announced last is what is stored.**  For every run of connects, disconnects, changes
of a preference, and of preferences and passes as a whole, any of which may fail to connect, and in
which everything that is announced on a connection can be sent: it is the run of an engine, and
while that is connected

* its peer has received what was said on this connection, and nothing else;
* what was said last of what is rebuilt on change is what is stored, and the library always is;
* what was said last of the project directory is the stored one, as it was found among the files at
  that moment. -/
theorem announced_eq_stored (loader : LibraryLoader ι) (options : EngineOptions) (world : World)
    (list : List Call) (hsends : (start options world).SendsAll loader list) :
    let run := (start options world).calls loader list
    let session := run.engine.resources.session
    run.engine = (Engine.start options world).calls loader list ∧
    (session.channel.isConnected = true →
      (∃ connection, session.channel.connection = some connection ∧
        run.engine.resources.world.network.received? connection.number =
          some (heard (spoken run.acts))) ∧
      (∃ files, lastSaid Command.isOnChange (spoken run.acts) =
        some (files, .setBuildOnChange session.bootstrap.buildExecutableOnChange true)) ∧
      ∃ files, lastSaid Command.isDirectory (spoken run.acts) =
        some (files, .setProjectDirectory
          (Bootstrap.directoryArgument files session.bootstrap.projectDirectory))) := by
  intro run session
  have hfaithful : run.chronicle.Faithful :=
    calls_faithful list (start_faithful options world) hsends
  refine ⟨calls_engine list _, fun hconnected => ?_⟩
  obtain ⟨connection, hheld, hreceived, hannounced⟩ := hfaithful.told hconnected
  exact ⟨⟨connection, hheld, hreceived⟩, hannounced.onChange, hannounced.directory⟩

/-- Preferences for somebody who listens at another port, and for another project. -/
def elsewhere : Settings where
  server := ⟨"127.0.0.1", 5185, .external, none, none⟩
  project := ⟨⟨"/p"⟩, false⟩
  libraryPath := none
  notificationSeconds := 5
  retryMilliseconds := 1000

/-- A connection to one port, with the executable rebuilt on change, and then preferences that say
otherwise in everything. -/
def moving : List Call :=
  [.apply .nothing 0 fun desired =>
      { desired with server := ⟨true, "127.0.0.1", 5184, .external, none⟩ },
    .updateBuildOnChange true, .applySettings .nothing 1 elsewhere]

/-- An engine to which this has happened. -/
def movedOnce : EngineChronicle Recorder :=
  (start Engine.smallOptions (Engine.smallWorld [(["p"], .directory 0o755)] [5184, 5185])).calls
    Recorder.loader moving

/-- The new connection was told of the new preferences. -/
theorem movedOnce_announced :
    movedOnce.engine.resources.session.channel.connection.map Connection.number = some 1 ∧
      movedOnce.engine.resources.session.bootstrap = ⟨⟨"/p"⟩, false⟩ ∧
      (∃ files, lastSaid Command.isOnChange (spoken movedOnce.acts) =
        some (files, .setBuildOnChange false true)) ∧
      ∃ files, lastSaid Command.isDirectory (spoken movedOnce.acts) =
        some (files, .setProjectDirectory (Bootstrap.directoryArgument files ⟨"/p"⟩)) := by
  obtain ⟨-, htold⟩ := announced_eq_stored Recorder.loader Engine.smallOptions
    (Engine.smallWorld [(["p"], .directory 0o755)] [5184, 5185]) moving (by decide +kernel)
  have hstored : movedOnce.engine.resources.session.bootstrap = ⟨⟨"/p"⟩, false⟩ := by
    decide +kernel
  obtain ⟨-, honChange, hdirectory⟩ := htold (by decide +kernel)
  refine ⟨by decide +kernel, hstored, ?_⟩
  rw [← movedOnce, hstored] at honChange hdirectory
  exact ⟨honChange, hdirectory⟩

end EngineChronicle

end RenderSync
