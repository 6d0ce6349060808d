import RenderSync.Engine.Basic
import RenderSync.Proofs.Connection
import RenderSync.Proofs.Library
import RenderSync.Proofs.LibraryStep

/-!
# One pass over the resources of an engine

A pass is two steps on two parts that know nothing of each other but the files.  The library step
is the one over a working copy (`matchLibrary_eq`), so that it neither sees nor touches the
session; the server step does not touch the library.

What the server step does with any resources is told apart once (`matchServer_unwanted`,
`matchServer_connected`, `matchServer_closed`).  Over a session it has a simple law: whenever it
succeeds the session is settled, that is, set up with the configuration where a connection is
wanted, and idle where none is (`matchServer_spec`).  A session that is settled is left alone
(`matchServer_of_settled`), and what it takes to settle one is what it takes to connect, once what
is in the way has been taken down (`matchServer_ok`).

On a settled session only the library decides whether what is in effect is what is desired
(`meets_iff`).  A load that a pass tries comes to what a load of the source comes to, from the files
that there are once the server step is done and the old copy is gone (`enter_poisedFor_iff`).
-/

namespace RenderSync

/-- A session is as it is wanted: set up with the configuration, or idle. -/
structure Session.Settled (wanted : ServerDesired) (session : Session) : Prop where
  serves : wanted.connected = true → session.ServesAs wanted.config
  idle : wanted.connected = false → session.Idle

/-! ## 1. The server step of any resources -/

namespace ResourceControls

variable {σ : Type} {controls : ResourceControls σ} {wanted : ServerDesired} {state : σ}

/-- The state once a connection that has to go is gone. -/
def cleared (controls : ResourceControls σ) (wanted : ServerDesired) (state : σ) : σ :=
  if mustDrop (controls.server state) wanted then controls.disconnect state else state

/-- Where no connection is wanted the server is told so, in any case. -/
theorem matchServer_unwanted (hwanted : wanted.connected = false) :
    controls.matchServer wanted state =
      (.ok (), controls.disconnect (controls.cleared wanted state)) := by
  rw [matchServer, hwanted]
  rfl

/-- A connection that has not to go is the one that is wanted. -/
theorem matchServer_connected (hwanted : wanted.connected = true)
    (hconnected : (controls.server (controls.cleared wanted state)).connected = true) :
    controls.matchServer wanted state = (.ok (), controls.cleared wanted state) := by
  rw [matchServer, hwanted]
  exact if_pos hconnected

/-- **Where there is none the step is to connect.** -/
theorem matchServer_closed (hwanted : wanted.connected = true)
    (hclosed : (controls.server (controls.cleared wanted state)).connected = false) :
    controls.matchServer wanted state =
      ((controls.connect wanted.config (controls.cleared wanted state)).1.mapError .server,
        (controls.connect wanted.config (controls.cleared wanted state)).2) := by
  rw [cleared] at hclosed ⊢
  rw [matchServer, hwanted]
  simp only [hclosed]
  rcases controls.connect wanted.config _ with ⟨e | ⟨⟩, after⟩
  · rfl
  · rfl

/-- What is set up as it is wanted stays as it is. -/
theorem matchServer_of_applies (hwanted : wanted.connected = true)
    (hconnected : (controls.server state).connected = true)
    (happlies : (controls.server state).applies wanted.config = true) :
    controls.matchServer wanted state = (.ok (), state) := by
  have hcleared : controls.cleared wanted state = state := by
    simp [cleared, mustDrop, hwanted, happlies]
  rw [matchServer_connected hwanted (hcleared.symm ▸ hconnected), hcleared]

/-- **The server step fails in connecting**, once what was in the way was taken down, and with what
connecting fails with. -/
theorem matchServer_error {e : ReconcileError}
    (h : (controls.matchServer wanted state).1 = .error e) :
    ∃ cause, e = .server cause ∧
      (controls.server (controls.cleared wanted state)).connected = false ∧
      controls.connect wanted.config (controls.cleared wanted state) =
        (.error cause, (controls.matchServer wanted state).2) := by
  cases hwanted : wanted.connected with
  | false =>
    rw [matchServer_unwanted hwanted] at h
    cases h
  | true =>
    cases hclosed : (controls.server (controls.cleared wanted state)).connected with
    | true =>
      rw [matchServer_connected hwanted hclosed] at h
      cases h
    | false =>
      rw [matchServer_closed hwanted hclosed] at h ⊢
      rcases hconnect : controls.connect wanted.config (controls.cleared wanted state) with
        ⟨cause | ⟨⟩, after⟩ <;> rw [hconnect] at h
      · exact ⟨cause, (Except.error.inj h).symm, rfl, rfl⟩
      · cases h

end ResourceControls

namespace EngineResources

variable {ι : Type} {loader : LibraryLoader ι} {resources : EngineResources ι}

/-! ## 2. The library step -/

/-- The working copy of the library among the files. -/
def copyState (resources : EngineResources ι) : CopyState (LibrarySlot ι) :=
  resources.library.copyState resources.world.files

/-- The resources after something was done to the working copy of the library. -/
def withCopyState (state : CopyState (LibrarySlot ι)) (resources : EngineResources ι) :
    EngineResources ι :=
  { resources with
    library := Library.ofCopyState state
    world := { resources.world with files := state.files } }

/-- A result on the working copy as one on the resources. -/
def lifted (resources : EngineResources ι)
    (result : Except ReconcileError Unit × CopyState (LibrarySlot ι)) :
    Except ReconcileError Unit × EngineResources ι :=
  (result.1, resources.withCopyState result.2)

theorem matchUnloaded_eq (wanted : LibraryDesired) (resources : EngineResources ι) :
    (controls loader).matchUnloaded wanted resources =
      resources.lifted
        ((copyControls (LibrarySlot.use loader)).matchUnloaded wanted resources.copyState) := by
  have hunload : (controls loader).unload resources =
      ((resources.copyState.closeCopy (LibrarySlot.use loader)).1,
        resources.withCopyState (resources.copyState.closeCopy (LibrarySlot.use loader)).2) := rfl
  have hcopy : (copyControls (LibrarySlot.use loader)).unload resources.copyState =
      resources.copyState.closeCopy (LibrarySlot.use loader) := rfl
  have hloaded : ((copyControls (LibrarySlot.use loader)).library resources.copyState).loaded =
      ((controls loader).library resources).loaded := rfl
  unfold ResourceControls.matchUnloaded
  rw [hunload, hcopy, hloaded]
  split
  · rcases resources.copyState.closeCopy (LibrarySlot.use loader) with ⟨_ | _, state⟩
    · rfl
    · rfl
  · rfl

theorem matchPath_eq (wanted : LibraryDesired) (resources : EngineResources ι) :
    (controls loader).matchPath wanted resources =
      resources.lifted
        ((copyControls (LibrarySlot.use loader)).matchPath wanted resources.copyState) := by
  have hset : (controls loader).setPath wanted.path resources =
      ((resources.copyState.setSource (LibrarySlot.use loader) wanted.path).1,
        resources.withCopyState
          (resources.copyState.setSource (LibrarySlot.use loader) wanted.path).2) := rfl
  have hcopy : (copyControls (LibrarySlot.use loader)).setPath wanted.path resources.copyState =
      resources.copyState.setSource (LibrarySlot.use loader) wanted.path := rfl
  have hpath : ((copyControls (LibrarySlot.use loader)).library resources.copyState).path =
      ((controls loader).library resources).path := rfl
  unfold ResourceControls.matchPath
  rw [hset, hcopy, hpath]
  split
  · rfl
  · rcases resources.copyState.setSource (LibrarySlot.use loader) wanted.path with ⟨_ | _, state⟩
    · rfl
    · rfl

theorem matchLoaded_eq (wanted : LibraryDesired) (resources : EngineResources ι) :
    (controls loader).matchLoaded wanted resources =
      resources.lifted
        ((copyControls (LibrarySlot.use loader)).matchLoaded wanted resources.copyState) := by
  have hload : (controls loader).load resources =
      ((resources.copyState.openCopy (LibrarySlot.use loader)).1,
        resources.withCopyState (resources.copyState.openCopy (LibrarySlot.use loader)).2) := rfl
  have hcopy : (copyControls (LibrarySlot.use loader)).load resources.copyState =
      resources.copyState.openCopy (LibrarySlot.use loader) := rfl
  have hloaded : ((copyControls (LibrarySlot.use loader)).library resources.copyState).loaded =
      ((controls loader).library resources).loaded := rfl
  unfold ResourceControls.matchLoaded
  rw [hload, hcopy, hloaded]
  split
  · rfl
  · split
    · rcases resources.copyState.openCopy (LibrarySlot.use loader) with ⟨_ | _, state⟩
      · rfl
      · rfl
    · rfl

/-- Parts that work on the working copy do so one after the other. -/
theorem inTurn_eq
    {first second : EngineResources ι → Except ReconcileError Unit × EngineResources ι}
    {first' second' : CopyState (LibrarySlot ι) →
      Except ReconcileError Unit × CopyState (LibrarySlot ι)}
    (hfirst : ∀ resources, first resources = resources.lifted (first' resources.copyState))
    (hsecond : ∀ resources, second resources = resources.lifted (second' resources.copyState))
    (resources : EngineResources ι) :
    ResourceControls.inTurn first second resources =
      resources.lifted (ResourceControls.inTurn first' second' resources.copyState) := by
  unfold ResourceControls.inTurn
  rw [hfirst]
  rcases first' resources.copyState with ⟨e | ⟨⟩, state⟩
  · rfl
  · exact hsecond (resources.withCopyState state)

/-- **The library step works on the working copy of the library**, and on nothing else. -/
theorem matchLibrary_eq (wanted : LibraryDesired) (resources : EngineResources ι) :
    (controls loader).matchLibrary wanted resources =
      resources.lifted (libraryStep (LibrarySlot.use loader) wanted resources.copyState) :=
  inTurn_eq (matchUnloaded_eq wanted)
    (inTurn_eq (matchPath_eq wanted) (matchLoaded_eq wanted)) resources

/-! ## 3. The server step -/

instance {ε α : Type} [DecidableEq α] (result : Except ε α) (value : α) :
    Decidable (result = .ok value) :=
  match result with
  | .ok other => decidable_of_iff (other = value) ⟨congrArg _, Except.ok.inj⟩
  | .error _ => isFalse nofun

instance {ε α : Type} [DecidableEq ε] (result : Except ε α) (e : ε) :
    Decidable (result = .error e) :=
  match result with
  | .ok _ => isFalse nofun
  | .error other => decidable_of_iff (other = e) ⟨congrArg _, Except.error.inj⟩

/-- Another error is no success. -/
theorem mapError_ok {ε ε' : Type} {change : ε → ε'} {result : Except ε Unit}
    (h : result.mapError change = .ok ()) : result = .ok () := by
  cases result with
  | error e => cases h
  | ok => rfl

/-- The resources once a connection is out of the way. -/
def lowered (resources : EngineResources ι) : EngineResources ι :=
  { resources with
    session := (resources.session.down resources.world).1
    world := (resources.session.down resources.world).2 }

/-- Where no connection is wanted the session is disconnected. -/
theorem matchServer_of_unwanted {wanted : ServerDesired} (h : resources.session.Sound)
    (hwanted : wanted.connected = false) :
    (controls loader).matchServer wanted resources = (.ok (), resources.disconnect) := by
  have htwice : resources.disconnect.disconnect = resources.disconnect := by
    have hidle := (Session.disconnect_idle h resources.world).1
    have hagain := Session.disconnect_of_idle hidle (resources.session.disconnect
      resources.world).2
    simp only [disconnect, hagain]
  have hdisconnect : ∀ resources : EngineResources ι,
      (controls loader).disconnect resources = resources.disconnect := fun _ => rfl
  rw [ResourceControls.matchServer_unwanted hwanted, ResourceControls.cleared]
  split
  · rw [hdisconnect, hdisconnect, htwice]
  · rw [hdisconnect]

/-- A session that is set up as it is wanted stays as it is. -/
theorem matchServer_of_servesAs {wanted : ServerDesired} (hwanted : wanted.connected = true)
    (hserves : resources.session.ServesAs wanted.config) :
    (controls loader).matchServer wanted resources = (.ok (), resources) := by
  have hconnected : ((controls loader).server resources).connected = true := hserves.1
  have happlies : ((controls loader).server resources).applies wanted.config = true := hserves.2
  exact ResourceControls.matchServer_of_applies hwanted hconnected happlies

/-- **Any other session is taken down and set up anew.** -/
theorem matchServer_of_not_servesAs {wanted : ServerDesired} (h : resources.session.Sound)
    (hwanted : wanted.connected = true) (hnot : ¬resources.session.ServesAs wanted.config) :
    (controls loader).matchServer wanted resources =
      ((resources.lowered.session.connect wanted.config resources.lowered.world).1.mapError .server,
        { resources with
          session := (resources.lowered.session.connect wanted.config resources.lowered.world).2.1
          world := (resources.lowered.session.connect wanted.config resources.lowered.world).2.2 })
    := by
  have hlowered : (controls loader).cleared wanted resources = resources.lowered := by
    have hserver : (controls loader).server resources = resources.session.current := rfl
    have hconnected : resources.session.current.connected =
        resources.session.channel.isConnected := rfl
    have hdisconnect : (controls loader).disconnect resources = resources.disconnect := rfl
    rw [lowered, Session.down, ResourceControls.cleared, ResourceControls.mustDrop, hserver,
      hconnected, hdisconnect]
    cases hserves : resources.session.channel.isConnected with
    | false => rfl
    | true =>
      have happlies : resources.session.current.applies wanted.config = false := by
        rw [← Bool.not_eq_true]
        exact fun happlies => hnot ⟨hserves, happlies⟩
      rw [happlies, Bool.not_false, Bool.or_true, Bool.and_true]
      rfl
  have hclosed : ((controls loader).server ((controls loader).cleared wanted
      resources)).connected = false := by
    rw [hlowered]
    exact (h.down resources.world).2
  rw [ResourceControls.matchServer_closed hwanted hclosed, hlowered]
  rfl

/-- **What the server step leaves**: the library as it was, the session sound, and settled if the
step succeeded. -/
theorem matchServer_spec (h : resources.session.Sound) (wanted : ServerDesired) :
    ((controls loader).matchServer wanted resources).2.library = resources.library ∧
      ((controls loader).matchServer wanted resources).2.session.Sound ∧
      (((controls loader).matchServer wanted resources).1 = .ok () →
        ((controls loader).matchServer wanted resources).2.session.Settled wanted) := by
  cases hwanted : wanted.connected with
  | false =>
    have hidle := (Session.disconnect_idle h resources.world).1
    rw [matchServer_of_unwanted h hwanted]
    exact ⟨rfl, h.disconnect resources.world, fun _ =>
      ⟨fun hyes => absurd (hwanted.symm.trans hyes) Bool.false_ne_true, fun _ => hidle⟩⟩
  | true =>
    by_cases hserves : resources.session.ServesAs wanted.config
    · rw [matchServer_of_servesAs hwanted hserves]
      exact ⟨rfl, h, fun _ =>
        ⟨fun _ => hserves, fun hno => absurd (hno.symm.trans hwanted) Bool.false_ne_true⟩⟩
    · rw [matchServer_of_not_servesAs h hwanted hserves]
      obtain ⟨hsound, hset⟩ := Session.connect_spec (h.down resources.world).1 wanted.config
        (resources.session.down resources.world).2
      refine ⟨rfl, hsound, fun hok => ⟨fun _ => hset (mapError_ok hok), fun hno => ?_⟩⟩
      exact absurd (hno.symm.trans hwanted) Bool.false_ne_true

/-- A session that is settled is left alone. -/
theorem matchServer_of_settled {wanted : ServerDesired}
    (h : resources.session.Settled wanted) :
    (controls loader).matchServer wanted resources = (.ok (), resources) := by
  cases hwanted : wanted.connected with
  | false =>
    have hidle := h.idle hwanted
    rw [matchServer_of_unwanted hidle.sound hwanted, disconnect,
      Session.disconnect_of_idle hidle]
  | true => exact matchServer_of_servesAs hwanted (h.serves hwanted)

/-- **The server step succeeds** where a session that is wanted can be had. -/
theorem matchServer_ok (loader : LibraryLoader ι) {wanted : ServerDesired}
    (h : resources.session.Sound)
    (hserves : wanted.connected = true → resources.session.ServesAs wanted.config ∨
      Session.Serves wanted.config resources.lowered.session resources.lowered.world) :
    ((controls loader).matchServer wanted resources).1 = .ok () := by
  cases hwanted : wanted.connected with
  | false => rw [matchServer_of_unwanted h hwanted]
  | true =>
    by_cases hset : resources.session.ServesAs wanted.config
    · rw [matchServer_of_servesAs hwanted hset]
    · obtain ⟨hsound, hclosed⟩ := h.down resources.world
      have hok := Session.connect_ok_of_serves hsound hclosed
        ((hserves hwanted).resolve_left hset)
      rw [matchServer_of_not_servesAs h hwanted hset]
      have hconnect : (resources.lowered.session.connect wanted.config
        resources.lowered.world).1 = .ok () := hok
      rw [hconnect]
      rfl

/-! ## 4. The whole pass -/

/-- **The invariant of the resources.** -/
structure Sound (loader : LibraryLoader ι) (resources : EngineResources ι) : Prop where
  library : resources.library.Sound loader
  session : resources.session.Sound

/-- The resources after the server step of a pass. -/
def served (loader : LibraryLoader ι) (desired : DesiredState) (resources : EngineResources ι) :
    EngineResources ι := ((controls loader).matchServer desired.server resources).2

/-- The files that a load in this pass finds: the server step is done, and the old copy is gone. -/
def filesToLoad (loader : LibraryLoader ι) (desired : DesiredState)
    (resources : EngineResources ι) : FileTree :=
  (resources.served loader desired).copyState.discard.files

/-- After the server step the library is the one that it was. -/
theorem served_library (h : resources.Sound loader) (desired : DesiredState) :
    (resources.served loader desired).library = resources.library :=
  (matchServer_spec h.session desired.server).1

/-- The library is sound for the files of any moment. -/
theorem Sound.served_copyState (h : resources.Sound loader) (desired : DesiredState) :
    (resources.served loader desired).copyState.held.Sound (LibrarySlot.Fits loader)
      (resources.served loader desired).copyState.user := by
  have hlibrary := h.library
  rw [← served_library h desired] at hlibrary
  exact hlibrary

/-- So is its working copy. -/
theorem served_held (h : resources.Sound loader) (desired : DesiredState) :
    (resources.served loader desired).copyState.held = resources.library.held :=
  congrArg Library.held (served_library h desired)

/-- A pass whose server step fails ends there. -/
theorem matchAll_of_error {desired : DesiredState} {e : ReconcileError}
    (hserver : ((controls loader).matchServer desired.server resources).1 = .error e) :
    (controls loader).matchAll desired resources =
      (.error e, resources.served loader desired) := by
  unfold ResourceControls.matchAll ResourceControls.inTurn served
  rcases hstep : (controls loader).matchServer desired.server resources with ⟨result, after⟩
  rw [hstep] at hserver
  obtain rfl : result = .error e := hserver
  rfl

/-- **A pass whose server step succeeds ends with the library step.** -/
theorem matchAll_of_ok {desired : DesiredState}
    (hserver : ((controls loader).matchServer desired.server resources).1 = .ok ()) :
    (controls loader).matchAll desired resources =
      (resources.served loader desired).lifted (libraryStep (LibrarySlot.use loader)
        desired.library (resources.served loader desired).copyState) := by
  rw [← matchLibrary_eq]
  unfold ResourceControls.matchAll ResourceControls.inTurn served
  rcases hstep : (controls loader).matchServer desired.server resources with ⟨result, after⟩
  rw [hstep] at hserver
  obtain rfl : result = .ok () := hserver
  rfl

/-- On a session that is settled a pass is its library step. -/
theorem matchAll_of_settled {desired : DesiredState}
    (h : resources.session.Settled desired.server) :
    (controls loader).matchAll desired resources =
      resources.lifted (libraryStep (LibrarySlot.use loader) desired.library
        resources.copyState) := by
  have hserver : (controls loader).matchServer desired.server resources = (.ok (), resources) :=
    matchServer_of_settled h
  have hserved : resources.served loader desired = resources := congrArg Prod.snd hserver
  rw [matchAll_of_ok (congrArg Prod.fst hserver), hserved]

/-- A pass succeeds only if its server step does. -/
theorem matchServer_ok_of_matchAll {desired : DesiredState}
    (hok : ((controls loader).matchAll desired resources).1 = .ok ()) :
    ((controls loader).matchServer desired.server resources).1 = .ok () := by
  cases hserver : ((controls loader).matchServer desired.server resources).1 with
  | error e =>
    rw [matchAll_of_error hserver] at hok
    cases hok
  | ok => rfl

/-- **A pass keeps the invariant**, whatever comes of it. -/
theorem Sound.matchAll (h : resources.Sound loader) (desired : DesiredState) :
    ((controls loader).matchAll desired resources).2.Sound loader := by
  have hserved : (resources.served loader desired).session.Sound :=
    (matchServer_spec h.session desired.server).2.1
  cases hserver : ((controls loader).matchServer desired.server resources).1 with
  | error e =>
    rw [matchAll_of_error hserver]
    exact ⟨h.served_copyState desired, hserved⟩
  | ok =>
    rw [matchAll_of_ok hserver]
    exact ⟨CopyState.libraryStep_sound (LibrarySlot.use_respects loader)
      (h.served_copyState desired) desired.library, hserved⟩

/-- **Where no connection is wanted a pass leaves the session idle**, whatever comes of it. -/
theorem matchAll_idle (h : resources.Sound loader) (desired : DesiredState)
    (hunwanted : desired.server.connected = false) :
    ((controls loader).matchAll desired resources).2.session.Idle := by
  have hserver : (controls loader).matchServer desired.server resources =
      (.ok (), resources.disconnect) := matchServer_of_unwanted h.session hunwanted
  have hserved : resources.served loader desired = resources.disconnect :=
    congrArg Prod.snd hserver
  rw [matchAll_of_ok (congrArg Prod.fst hserver), hserved]
  exact (Session.disconnect_idle h.session resources.world).1

/-- **On a settled session only the library decides** whether what is in effect is what is
desired. -/
theorem meets_iff {desired : DesiredState} (h : resources.session.Settled desired.server) :
    ((controls loader).current resources).meets desired = true ↔
      resources.library.held.isOpen = desired.library.loaded ∧
        resources.library.held.pointsTo desired.library.path = true := by
  have hserver : (resources.session.current.connected == desired.server.connected &&
      (!resources.session.current.connected ||
        resources.session.current.applies desired.server.config)) = true := by
    cases hwanted : desired.server.connected with
    | false =>
      have hconnected : resources.session.current.connected = false := by
        rw [Session.current, Channel.isConnected, (h.idle hwanted).connection]
        rfl
      rw [hconnected]
      rfl
    | true =>
      obtain ⟨hconnected, happlies⟩ := h.serves hwanted
      rw [hconnected, happlies]
      rfl
  have hmeets : ((controls loader).current resources).meets desired =
      (resources.library.held.isOpen == desired.library.loaded &&
        Path.sameOption resources.library.held.source desired.library.path &&
        (resources.session.current.connected == desired.server.connected) &&
        (!resources.session.current.connected ||
          resources.session.current.applies desired.server.config)) := rfl
  rw [hmeets, Bool.and_assoc, hserver, Bool.and_true, Bool.and_eq_true, beq_iff_eq]
  rfl

/-- **What a pass that succeeds leaves.**  The session is settled and the path is the one that is
wanted; and unless a library is wanted without a path, what is in effect is what is desired
exactly if the pass did not come upon a stray wish. -/
theorem matchAll_spec (h : resources.Sound loader) {desired : DesiredState}
    (hok : ((controls loader).matchAll desired resources).1 = .ok ()) :
    let after := ((controls loader).matchAll desired resources).2
    after.session.Settled desired.server ∧
      after.library.held.pointsTo desired.library.path = true ∧
      ((desired.library.loaded = true → desired.library.path.isSome = true) →
        (((controls loader).current after).meets desired = true ↔
          ¬(desired.library.loaded = false ∧
            resources.library.held.Strays desired.library.path))) := by
  have hserver := matchServer_ok_of_matchAll hok
  have hsettled := (matchServer_spec h.session desired.server).2.2 hserver
  have hsound := h.served_copyState desired
  have hr := LibrarySlot.use_respects loader
  have hpath := CopyState.libraryStep_path hr hsound desired.library
  rw [matchAll_of_ok hserver] at hok ⊢
  have hafter : ((resources.served loader desired).lifted (libraryStep (LibrarySlot.use loader)
      desired.library (resources.served loader desired).copyState)).2.session.Settled
        desired.server := hsettled
  refine ⟨hafter, hpath, fun hsome => ?_⟩
  have hopen := CopyState.libraryStep_isOpen hr hsound desired.library hsome hok
  rw [served_held h desired] at hopen
  rw [meets_iff hafter, ← hopen]
  exact ⟨fun hboth => hboth.1, fun hfits => ⟨hfits, hpath⟩⟩

/-! ## 5. Loads in a pass -/

/-- The working copy from which a pass tries a load. -/
def poisedFor (loader : LibraryLoader ι) (desired : DesiredState)
    (resources : EngineResources ι) : CopyState (LibrarySlot ι) :=
  (resources.served loader desired).copyState.poised (LibrarySlot.use loader) desired.library.path

/-- **A load that a pass tries comes to what a load of the source comes to**, from the files that
there are then. -/
theorem enter_poisedFor_iff (h : resources.Sound loader) {desired : DesiredState} {source : Path}
    (hsource : resources.library.held.sourceFor desired.library.path = some source)
    (content : Content) :
    (Library.ofCopyState ((resources.poisedFor loader desired).enter
        (LibrarySlot.use loader)).2).LoadedFrom loader content ↔
      Library.Loads loader resources.library.held.directory
        (resources.filesToLoad loader desired) source content := by
  have hheld := served_held h desired
  have hpath : (resources.poisedFor loader desired).held.source = some source := by
    rw [poisedFor, CopyState.poised_source, hheld]
    exact hsource
  have hdirectory : (resources.poisedFor loader desired).held.directory =
      resources.library.held.directory := by
    rw [poisedFor, CopyState.poised_directory, hheld]
  have hfiles : (resources.poisedFor loader desired).files =
      resources.filesToLoad loader desired := CopyState.poised_files _ _ _
  rw [← hdirectory, ← hfiles]
  exact Library.enter_loadedFrom_iff rfl rfl hpath

/-- A load of a source that can be loaded is done. -/
theorem enter_poisedFor_of_loads (h : resources.Sound loader) {desired : DesiredState}
    {source : Path} (hsource : resources.library.held.sourceFor desired.library.path = some source)
    {content : Content} (hloads : Library.Loads loader resources.library.held.directory
      (resources.filesToLoad loader desired) source content) :
    ((resources.poisedFor loader desired).enter (LibrarySlot.use loader)).1 = true := by
  have hfrom := (enter_poisedFor_iff h hsource content).mpr hloads
  have hcopy : (resources.poisedFor loader desired).held.copy.isSome =
      (resources.poisedFor loader desired).held.isOpen := rfl
  rw [← CopyState.enter_isOpen _ hcopy]
  exact hfrom.1

/-- A pass in which a load is due ends with it. -/
theorem matchAll_of_due (h : resources.Sound loader) {desired : DesiredState}
    (hserver : ((controls loader).matchServer desired.server resources).1 = .ok ())
    (hdue : CopyState.Due desired.library resources.library.held) :
    (controls loader).matchAll desired resources =
      (resources.served loader desired).lifted (CopyState.reported desired.library.path
        ((resources.poisedFor loader desired).enter (LibrarySlot.use loader))) := by
  have hheld := served_held h desired
  rw [matchAll_of_ok hserver, CopyState.libraryStep_of_due (LibrarySlot.use_respects loader)
    (h.served_copyState desired) (hheld ▸ hdue)]
  rfl

end EngineResources

end RenderSync
