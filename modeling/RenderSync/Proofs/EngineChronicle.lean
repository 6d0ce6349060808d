import RenderSync.Proofs.Chronicle
import RenderSync.Proofs.Runs

/-!
# What an engine has done

A pass uses its resources through a few operations (`ResourceControls`), so that two ways of doing
these come to the same pass if they correspond operation by operation
(`ResourceControls.Corresponds.matchAll`).  With that a pass can keep account of what the session
does (`EngineChronicle`): its operations are those of a `Chronicle`, which are those of a session
as soon as the account is forgotten.

Account is kept over the calls (`Call`) that set a session up, take it down, or change what the
server is told, be it one by one or with the preferences as a whole.  Others act between two calls,
and during each call that may connect.
-/

namespace RenderSync

/-! ## 1. Passes over corresponding resources -/

namespace ResourceControls

variable {σ τ α : Type}

/-- The answers are the same, and what is left corresponds. -/
def Agree (related : σ → τ → Prop) (first : α × σ) (second : α × τ) : Prop :=
  first.1 = second.1 ∧ related first.2 second.2

/-- Answers that agree are one answer. -/
theorem Agree.cases {related : σ → τ → Prop} {first : α × σ} {second : α × τ}
    (h : Agree related first second) :
    ∃ answer state other, first = (answer, state) ∧ second = (answer, other) ∧
      related state other :=
  ⟨first.1, first.2, second.2, rfl, Prod.ext h.1.symm rfl, h.2⟩

/-- Operation by operation, what corresponds before corresponds after. -/
structure Corresponds (related : σ → τ → Prop) (first : ResourceControls σ)
    (second : ResourceControls τ) : Prop where
  library : ∀ {state other}, related state other → first.library state = second.library other
  setPath : ∀ path {state other}, related state other →
    Agree related (first.setPath path state) (second.setPath path other)
  load : ∀ {state other}, related state other →
    Agree related (first.load state) (second.load other)
  unload : ∀ {state other}, related state other →
    Agree related (first.unload state) (second.unload other)
  server : ∀ {state other}, related state other → first.server state = second.server other
  connect : ∀ config {state other}, related state other →
    Agree related (first.connect config state) (second.connect config other)
  disconnect : ∀ {state other}, related state other →
    related (first.disconnect state) (second.disconnect other)

namespace Corresponds

variable {related : σ → τ → Prop} {first : ResourceControls σ} {second : ResourceControls τ}
  {state : σ} {other : τ}

theorem cleared (h : first.Corresponds related second) (wanted : ServerDesired)
    (hstate : related state other) :
    related (first.cleared wanted state) (second.cleared wanted other) := by
  rw [ResourceControls.cleared, ResourceControls.cleared, h.server hstate]
  split
  · exact h.disconnect hstate
  · exact hstate

theorem matchServer (h : first.Corresponds related second) (wanted : ServerDesired)
    (hstate : related state other) :
    Agree related (first.matchServer wanted state) (second.matchServer wanted other) := by
  have hcleared := h.cleared wanted hstate
  have hserver := h.server hcleared
  cases hwanted : wanted.connected with
  | false =>
    rw [matchServer_unwanted hwanted, matchServer_unwanted hwanted]
    exact ⟨rfl, h.disconnect hcleared⟩
  | true =>
    cases hconnected : (second.server (second.cleared wanted other)).connected with
    | true =>
      rw [matchServer_connected hwanted (hserver ▸ hconnected),
        matchServer_connected hwanted hconnected]
      exact ⟨rfl, hcleared⟩
    | false =>
      rw [matchServer_closed hwanted (hserver ▸ hconnected),
        matchServer_closed hwanted hconnected]
      obtain ⟨hsame, hafter⟩ := h.connect wanted.config hcleared
      exact ⟨congrArg (Except.mapError ReconcileError.server) hsame, hafter⟩

theorem matchUnloaded (h : first.Corresponds related second) (wanted : LibraryDesired)
    (hstate : related state other) :
    Agree related (first.matchUnloaded wanted state) (second.matchUnloaded wanted other) := by
  obtain ⟨done, after, after', hfirst, hsecond, hafter⟩ := (h.unload hstate).cases
  unfold ResourceControls.matchUnloaded
  rw [h.library hstate, hfirst, hsecond]
  split
  · cases done with
    | false => exact ⟨rfl, hafter⟩
    | true => exact ⟨rfl, hafter⟩
  · exact ⟨rfl, hstate⟩

theorem matchPath (h : first.Corresponds related second) (wanted : LibraryDesired)
    (hstate : related state other) :
    Agree related (first.matchPath wanted state) (second.matchPath wanted other) := by
  obtain ⟨done, after, after', hfirst, hsecond, hafter⟩ := (h.setPath wanted.path hstate).cases
  unfold ResourceControls.matchPath
  rw [h.library hstate, hfirst, hsecond]
  split
  · exact ⟨rfl, hstate⟩
  · cases done with
    | false => exact ⟨rfl, hafter⟩
    | true => exact ⟨rfl, hafter⟩

theorem matchLoaded (h : first.Corresponds related second) (wanted : LibraryDesired)
    (hstate : related state other) :
    Agree related (first.matchLoaded wanted state) (second.matchLoaded wanted other) := by
  obtain ⟨done, after, after', hfirst, hsecond, hafter⟩ := (h.load hstate).cases
  unfold ResourceControls.matchLoaded
  rw [h.library hstate, hfirst, hsecond]
  split
  · exact ⟨rfl, hstate⟩
  split
  · cases done with
    | false => exact ⟨rfl, hafter⟩
    | true => exact ⟨rfl, hafter⟩
  · exact ⟨rfl, hstate⟩

/-- One after the other. -/
theorem inTurn {ε : Type} {step next : σ → Except ε Unit × σ} {step' next' : τ → Except ε Unit × τ}
    (hstep : Agree related (step state) (step' other))
    (hnext : ∀ {state other}, related state other → Agree related (next state) (next' other)) :
    Agree related (ResourceControls.inTurn step next state)
      (ResourceControls.inTurn step' next' other) := by
  obtain ⟨result, after, after', hfirst, hsecond, hafter⟩ := hstep.cases
  unfold ResourceControls.inTurn
  rw [hfirst, hsecond]
  cases result with
  | error e => exact ⟨rfl, hafter⟩
  | ok => exact hnext hafter

/-- **A pass has the same result on resources that correspond, and they correspond after it.** -/
theorem matchAll (h : first.Corresponds related second) (desired : DesiredState)
    (hstate : related state other) :
    Agree related (first.matchAll desired state) (second.matchAll desired other) :=
  inTurn (h.matchServer desired.server hstate) fun hserved =>
    inTurn (h.matchUnloaded desired.library hserved) fun hunloaded =>
      inTurn (h.matchPath desired.library hunloaded) fun hpointed =>
        h.matchLoaded desired.library hpointed

/-- So does a reconciler that goes through one. -/
theorem reconcile (h : first.Corresponds related second) (now : Moment) (reconciler : Reconciler)
    (hstate : related state other) :
    let done := reconciler.reconcile first now state
    let done' := reconciler.reconcile second now other
    done.1 = done'.1 ∧ done.2.1 = done'.2.1 ∧ related done.2.2 done'.2.2 := by
  obtain ⟨result, after, after', hfirst, hsecond, hafter⟩ :=
    (h.matchAll reconciler.desired hstate).cases
  have hcurrent : first.current after = second.current after' := by
    rw [current, current, h.library hafter, h.server hafter]
  unfold Reconciler.reconcile
  rw [hfirst, hsecond]
  dsimp only
  rw [hcurrent]
  exact ⟨rfl, rfl, hafter⟩

end Corresponds

end ResourceControls

/-! ## 2. Resources with an account -/

variable {ι : Type} {loader : LibraryLoader ι} {meanwhile : Meanwhile}

/-- The resources of an engine, and what the session has done. -/
structure ResourceChronicle (ι : Type) where
  resources : EngineResources ι
  acts : List Act

namespace ResourceChronicle

/-- The part of it that is the session's. -/
def chronicle (told : ResourceChronicle ι) : Chronicle :=
  ⟨told.resources.session, told.resources.world, told.acts⟩

/-- Another one in its place. -/
def withChronicle (chronicle : Chronicle) (told : ResourceChronicle ι) : ResourceChronicle ι :=
  ⟨{ told.resources with session := chronicle.session, world := chronicle.world }, chronicle.acts⟩

/-- Does something to the library. -/
def withLibrary (operation : Library ι → FileTree → Bool × Library ι × FileTree)
    (told : ResourceChronicle ι) : Bool × ResourceChronicle ι :=
  let (done, resources) := told.resources.withLibrary operation
  (done, ⟨resources, told.acts⟩)

/-- Does something to the session. -/
def withSession {α : Type} (operation : Chronicle → α × Chronicle)
    (told : ResourceChronicle ι) : α × ResourceChronicle ι :=
  let (answer, chronicle) := operation told.chronicle
  (answer, told.withChronicle chronicle)

/-- The operations of a pass while others act (`EngineResources.controlsAmid`). -/
def controlsAmid (loader : LibraryLoader ι) (meanwhile : Meanwhile) :
    ResourceControls (ResourceChronicle ι) where
  library told := told.resources.library.current
  setPath path := withLibrary (Library.setPath loader path)
  load := withLibrary (Library.load loader)
  unload := withLibrary (Library.unload loader)
  server told := told.resources.session.current
  connect config := withSession (Chronicle.connectAmid meanwhile config)
  disconnect told := told.withChronicle told.chronicle.disconnect

/-- What account is kept of is the session of the resources, and something holds for it. -/
def Tells (good : Chronicle → Prop) (told : ResourceChronicle ι)
    (resources : EngineResources ι) : Prop := told.resources = resources ∧ good told.chronicle

/-- What is done to the library concerns a session only in the files. -/
theorem Tells.withLibrary {good : Chronicle → Prop} {told : ResourceChronicle ι}
    {resources : EngineResources ι}
    (hfiles : ∀ chronicle files, good chronicle → good { chronicle with
      world := { chronicle.world with files := files } }) (h : told.Tells good resources)
    (operation : Library ι → FileTree → Bool × Library ι × FileTree) :
    ResourceControls.Agree (Tells good) (told.withLibrary operation)
      (resources.withLibrary operation) := by
  obtain ⟨rfl, hgood⟩ := h
  exact ⟨rfl, rfl, hfiles told.chronicle _ hgood⟩

/-- **A pass with an account is a pass**, and what its operations keep holds for the account. -/
theorem controlsAmid_corresponds (loader : LibraryLoader ι) {good : Chronicle → Prop}
    (hconnect : ∀ chronicle config, good chronicle →
      good (chronicle.connectAmid meanwhile config).2)
    (hdisconnect : ∀ chronicle : Chronicle, good chronicle → good chronicle.disconnect)
    (hfiles : ∀ chronicle files, good chronicle → good { chronicle with
      world := { chronicle.world with files := files } }) :
    (controlsAmid loader meanwhile).Corresponds (Tells good)
      (EngineResources.controlsAmid loader meanwhile) where
  library h := congrArg (fun resources => resources.library.current) h.1
  setPath path _ _ h := h.withLibrary hfiles _
  load h := h.withLibrary hfiles _
  unload h := h.withLibrary hfiles _
  server h := congrArg (fun resources => resources.session.current) h.1
  connect config told resources h := by
    obtain ⟨rfl, hgood⟩ := h
    have hplain := Chronicle.connectAmid_plain meanwhile config told.chronicle
    have hafter := hconnect told.chronicle config hgood
    refine ⟨(congrArg Prod.fst hplain).symm, ?_, hafter⟩
    exact (congrArg (fun done => { told.resources with session := done.2.1, world := done.2.2 })
      hplain).symm
  disconnect {told resources} h := by
    obtain ⟨rfl, hgood⟩ := h
    have hplain := Chronicle.disconnect_plain told.chronicle
    refine ⟨?_, hdisconnect told.chronicle hgood⟩
    exact (congrArg (fun done => { told.resources with session := done.1, world := done.2 })
      hplain).symm

end ResourceChronicle

/-! ## 3. Engines with an account -/

/-- What an engine is asked to do. -/
inductive Call where
  | connect (meanwhile : Meanwhile) (config : ServerConfig)
  | disconnect
  | updateBuildOnChange (executable : Bool)
  | updateProjectDirectory (directory : Path)
  | applySettings (meanwhile : Meanwhile) (now : Moment) (settings : Settings)
  | apply (meanwhile : Meanwhile) (now : Moment) (edit : DesiredState → DesiredState)
  | shutdown (meanwhile : Meanwhile) (now : Moment)
  /-- The peer says no more. -/
  | stopReading
  /-- Others act between two calls. -/
  | outside (others : Outside)

namespace Engine

/-- Takes over new preferences, while others act during the pass. -/
def applySettingsAmid (loader : LibraryLoader ι) (meanwhile : Meanwhile) (now : Moment)
    (settings : Settings) (engine : Engine ι) : Except ReconcileError Unit × Engine ι :=
  if engine.reconciler.isExiting then (.ok (), engine)
  else (engine.stored settings).run
    (Reconciler.apply (EngineResources.controlsAmid loader meanwhile) now settings.applyTo)

/-- Undisturbed it is to take them over. -/
theorem applySettingsAmid_undisturbed (loader : LibraryLoader ι) (now : Moment)
    (settings : Settings) (engine : Engine ι) :
    engine.applySettingsAmid loader .nothing now settings =
      engine.applySettings loader now settings := by
  unfold applySettingsAmid
  rw [EngineResources.controlsAmid_undisturbed]
  cases hexiting : engine.reconciler.isExiting with
  | true =>
    rw [applySettings_of_exiting hexiting]
    rfl
  | false =>
    rw [applySettings_eq hexiting]
    rfl

/-- One call. -/
def call (loader : LibraryLoader ι) : Call → Engine ι → Engine ι
  | .connect meanwhile config, engine =>
    { engine with
      resources := (engine.resources.withSession (Session.connectAmid meanwhile config)).2 }
  | .disconnect, engine => { engine with resources := engine.resources.disconnect }
  | .updateBuildOnChange executable, engine =>
    engine.announce (Session.updateBuildOnChange executable)
  | .updateProjectDirectory directory, engine =>
    engine.announce (Session.updateProjectDirectory directory)
  | .applySettings meanwhile now settings, engine =>
    (engine.applySettingsAmid loader meanwhile now settings).2
  | .apply meanwhile now edit, engine =>
    (engine.run (Reconciler.apply (EngineResources.controlsAmid loader meanwhile) now edit)).2
  | .shutdown meanwhile now, engine =>
    (engine.run (Reconciler.shutdown (EngineResources.controlsAmid loader meanwhile) now)).2
  | .stopReading, engine => channelPlace.set (channelPlace.get engine).stopReading engine
  | .outside others, engine => engine.within (others.change engine.resources.world)

/-- Calls, one after the other. -/
def calls (loader : LibraryLoader ι) (list : List Call) (engine : Engine ι) : Engine ι :=
  list.foldl (fun engine next => engine.call loader next) engine

end Engine

/-- An engine, and what its session has done. -/
structure EngineChronicle (ι : Type) where
  engine : Engine ι
  acts : List Act

namespace EngineChronicle

/-- Nothing has happened yet. -/
def start (options : EngineOptions) (world : World) : EngineChronicle ι :=
  ⟨.start options world, []⟩

/-- The resources, and what the session has done. -/
def told (account : EngineChronicle ι) : ResourceChronicle ι :=
  ⟨account.engine.resources, account.acts⟩

/-- The part that is the session's. -/
def chronicle (account : EngineChronicle ι) : Chronicle := account.told.chronicle

/-- Others in place of the resources. -/
def withTold (told : ResourceChronicle ι) (account : EngineChronicle ι) : EngineChronicle ι :=
  ⟨{ account.engine with resources := told.resources }, told.acts⟩

/-- Does something to the session. -/
def withSession {α : Type} (operation : Chronicle → α × Chronicle)
    (account : EngineChronicle ι) : α × EngineChronicle ι :=
  let (answer, told) := account.told.withSession operation
  (answer, account.withTold told)

/-- Makes a pass. -/
def reconcile (loader : LibraryLoader ι) (meanwhile : Meanwhile) (now : Moment)
    (reconciler : Reconciler) (account : EngineChronicle ι) : EngineChronicle ι :=
  let (_, reconciler, told) :=
    reconciler.reconcile (ResourceChronicle.controlsAmid loader meanwhile) now account.told
  ⟨{ account.engine with reconciler := reconciler, resources := told.resources }, told.acts⟩

/-- The engine once preferences that need not be announced are stored. -/
def placed (settings : Settings) (account : EngineChronicle ι) : EngineChronicle ι :=
  let session :=
    { account.engine.resources.session with bundledCli := settings.server.bundledCliPath }
  { account with
    engine := { account.engine with
      notifications :=
        { account.engine.notifications with lifetime := .ofSeconds settings.notificationSeconds }
      resources := { account.engine.resources with session := session } } }

/-- Stores and announces what is rebuilt on change, if it was another one before. -/
def storeOnChange (before : Bootstrap) (settings : Settings) (account : EngineChronicle ι) :
    Except ServerError Unit × EngineChronicle ι :=
  let executable := settings.project.buildExecutableOnChange
  if before.buildExecutableOnChange = executable then (.ok (), account)
  else account.withSession (Chronicle.updateBuildOnChange executable)

/-- Stores and announces the project directory, if it was another one before. -/
def storeDirectory (before : Bootstrap) (settings : Settings) (account : EngineChronicle ι) :
    Except ServerError Unit × EngineChronicle ι :=
  if before.projectDirectory.same settings.project.directory then (.ok (), account)
  else account.withSession (Chronicle.updateProjectDirectory settings.project.directory)

/-- The engine once preferences are stored and announced; whether each could be announced. -/
def stored (settings : Settings) (account : EngineChronicle ι) :
    (Except ServerError Unit × Except ServerError Unit) × EngineChronicle ι :=
  let before := account.engine.resources.session.bootstrap
  let (onChange, account) := (account.placed settings).storeOnChange before settings
  let (directory, account) := account.storeDirectory before settings
  ((onChange, directory), account)

/-- One call (`Engine.call`). -/
def call (loader : LibraryLoader ι) : Call → EngineChronicle ι → EngineChronicle ι
  | .connect meanwhile config, account =>
    (account.withSession (Chronicle.connectAmid meanwhile config)).2
  | .disconnect, account =>
    account.withTold (account.told.withChronicle account.chronicle.disconnect)
  | .updateBuildOnChange executable, account =>
    (account.withSession (Chronicle.updateBuildOnChange executable)).2
  | .updateProjectDirectory directory, account =>
    (account.withSession (Chronicle.updateProjectDirectory directory)).2
  | .applySettings meanwhile now settings, account =>
    if account.engine.reconciler.isExiting then account
    else
      let account := (account.stored settings).2
      account.reconcile loader meanwhile now (account.engine.reconciler.mutate settings.applyTo)
  | .apply meanwhile now edit, account =>
    account.reconcile loader meanwhile now (account.engine.reconciler.mutate edit)
  | .shutdown meanwhile now, account =>
    account.reconcile loader meanwhile now
      (account.engine.reconciler.setExiting.mutate Reconciler.atRest)
  | .stopReading, account =>
    { account with
      engine := Engine.channelPlace.set (Engine.channelPlace.get account.engine).stopReading
        account.engine }
  | .outside others, account =>
    { account with
      engine := account.engine.within (others.change account.engine.resources.world) }

/-- Calls, one after the other. -/
def calls (loader : LibraryLoader ι) (list : List Call) (account : EngineChronicle ι) :
    EngineChronicle ι :=
  list.foldl (fun account next => account.call loader next) account

variable {account : EngineChronicle ι}

/-- **What is done to the session is done to that of the engine.** -/
theorem withSession_engine {α : Type} {operation : Chronicle → α × Chronicle}
    {plainly : Session → World → α × Session × World}
    (hplain : ∀ chronicle, plainly chronicle.session chronicle.world =
      ((operation chronicle).1, (operation chronicle).2.plain)) (account : EngineChronicle ι) :
    (account.withSession operation).2.engine = { account.engine with
      resources := (account.engine.resources.withSession plainly).2 } := by
  have hdone := hplain account.chronicle
  exact (congrArg (fun done => { account.engine with
    resources := { account.engine.resources with session := done.2.1, world := done.2.2 } })
      hdone).symm

/-- **A pass with an account is a pass of the engine**, and what its operations keep holds after
it. -/
theorem reconcile_tells (good : Chronicle → Prop)
    (hconnect : ∀ chronicle config, good chronicle →
      good (chronicle.connectAmid meanwhile config).2)
    (hdisconnect : ∀ chronicle : Chronicle, good chronicle → good chronicle.disconnect)
    (hfiles : ∀ chronicle files, good chronicle → good { chronicle with
      world := { chronicle.world with files := files } })
    (now : Moment) (reconciler : Reconciler) (h : good account.chronicle) :
    let plainly := reconciler.reconcile (EngineResources.controlsAmid loader meanwhile) now
      account.engine.resources
    (account.reconcile loader meanwhile now reconciler).engine =
        { account.engine with reconciler := plainly.2.1, resources := plainly.2.2 } ∧
      good (account.reconcile loader meanwhile now reconciler).chronicle := by
  intro plainly
  have htells : account.told.Tells good account.engine.resources := ⟨rfl, h⟩
  obtain ⟨-, hreconciler, hresources, hgood⟩ :=
    (ResourceChronicle.controlsAmid_corresponds loader hconnect hdisconnect hfiles).reconcile now
      reconciler htells
  refine ⟨?_, hgood⟩
  rw [← hreconciler, ← hresources]
  rfl

/-- A pass with an account is a pass, whatever the account is for. -/
theorem reconcile_engine (now : Moment) (reconciler : Reconciler) (account : EngineChronicle ι) :
    let plainly := reconciler.reconcile (EngineResources.controlsAmid loader meanwhile) now
      account.engine.resources
    (account.reconcile loader meanwhile now reconciler).engine =
      { account.engine with reconciler := plainly.2.1, resources := plainly.2.2 } :=
  (reconcile_tells (fun _ => True) (fun _ _ _ => trivial) (fun _ _ => trivial)
    (fun _ _ _ => trivial) now reconciler trivial).1

theorem storeOnChange_engine (before : Bootstrap) (settings : Settings)
    (account : EngineChronicle ι) :
    (account.storeOnChange before settings).2.engine =
      if before.buildExecutableOnChange = settings.project.buildExecutableOnChange then
        account.engine
      else account.engine.announce
        (Session.updateBuildOnChange settings.project.buildExecutableOnChange) := by
  unfold storeOnChange
  dsimp only
  split
  · rfl
  · exact withSession_engine (Chronicle.updateBuildOnChange_plain _) account

theorem storeDirectory_engine (before : Bootstrap) (settings : Settings)
    (account : EngineChronicle ι) :
    (account.storeDirectory before settings).2.engine =
      if before.projectDirectory.same settings.project.directory then account.engine
      else account.engine.announce
        (Session.updateProjectDirectory settings.project.directory) := by
  unfold storeDirectory
  split
  · rfl
  · exact withSession_engine (Chronicle.updateProjectDirectory_plain _) account

theorem stored_engine (settings : Settings) (account : EngineChronicle ι) :
    (account.stored settings).2.engine = account.engine.stored settings := by
  have hstored := storeDirectory_engine account.engine.resources.session.bootstrap settings
    ((account.placed settings).storeOnChange account.engine.resources.session.bootstrap settings).2
  rw [storeOnChange_engine] at hstored
  exact hstored

/-- **A call with an account is a call of the engine.** -/
theorem call_engine (next : Call) (account : EngineChronicle ι) :
    (account.call loader next).engine = account.engine.call loader next := by
  cases next with
  | connect meanwhile config =>
    exact withSession_engine (Chronicle.connectAmid_plain meanwhile config) account
  | disconnect =>
    have hplain := Chronicle.disconnect_plain account.chronicle
    exact (congrArg (fun done => { account.engine with
      resources := { account.engine.resources with session := done.1, world := done.2 } })
        hplain).symm
  | updateBuildOnChange executable =>
    exact withSession_engine (Chronicle.updateBuildOnChange_plain executable) account
  | updateProjectDirectory directory =>
    exact withSession_engine (Chronicle.updateProjectDirectory_plain directory) account
  | applySettings meanwhile now settings =>
    unfold call Engine.call Engine.applySettingsAmid
    dsimp only
    split
    · rfl
    · rw [reconcile_engine, stored_engine]
      rfl
  | apply meanwhile now edit => exact reconcile_engine now _ account
  | shutdown meanwhile now => exact reconcile_engine now _ account
  | stopReading => rfl
  | outside others => rfl

/-- **Along every run the account is kept of that run.** -/
theorem calls_engine (list : List Call) : ∀ account : EngineChronicle ι,
    (account.calls loader list).engine = account.engine.calls loader list := by
  induction list with
  | nil => exact fun _ => rfl
  | cons next rest ih =>
    intro account
    have hrest := ih (account.call loader next)
    rw [call_engine] at hrest
    exact hrest

end EngineChronicle

end RenderSync
