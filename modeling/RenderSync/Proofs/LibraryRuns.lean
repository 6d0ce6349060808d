import RenderSync.Library.Journal
import RenderSync.Proofs.LibraryUpdates

/-!
# Updates reach every library

`LibraryRun` keeps a log beside the library: what an operation sets, and after it what has happened
to the instances.  Every operation goes on with the log (`LibraryOperation.tracksFrom_perform`):
those of the working copy because loading and unloading do, in whatever order and however often
they are tried, and the others by what `LibrarySlot.Tracks` says of each.

The files change as they like between operations, and with every operation the loader may accept and
refuse other contents.  `LibraryRun.Reached.updated` says what the log then shows of the library.
-/

namespace RenderSync

variable {ι : Type} {loader : LibraryLoader ι}

/-! ## 1. Operations -/

/-- What can be asked of the library. -/
inductive LibraryOperation where
  | setPath (path : Option Path)
  | load
  | unload
  | setPrograms (sources : List ShaderSource)
  | setUniformValues (values : List UniformValue)
  | setObjectInstances (instances : List ObjectInstance)
  | update (width height : UInt32) (preview : Bool)
  | render (width height : UInt32) (preview : Bool)
  | viewportUpdate (width height : UInt32)
  | viewportRender (width height : UInt32)

namespace LibraryOperation

/-- What is set by it. -/
def sets : LibraryOperation → List LibraryCall
  | setPrograms sources => [.programs sources]
  | setUniformValues values => [.uniformValues values]
  | setObjectInstances instances => [.objectInstances instances]
  | _ => []

/-- Does it. -/
def perform (loader : LibraryLoader ι) (library : Library ι) (files : FileTree) :
    LibraryOperation → Library ι × FileTree
  | setPath path => (library.setPath loader path files).2
  | load => (library.load loader files).2
  | unload => (library.unload loader files).2
  | setPrograms sources => (library.mapSlot (·.setPrograms sources), files)
  | setUniformValues values => (library.mapSlot (·.setUniformValues loader values), files)
  | setObjectInstances instances =>
    (library.mapSlot (·.setObjectInstances loader instances), files)
  | update width height preview => (library.mapSlot (·.update loader width height preview), files)
  | render width height preview =>
    (library.mapSlot fun slot => (slot.render loader width height preview).2, files)
  | viewportUpdate width height => (library.mapSlot (·.viewportUpdate loader width height), files)
  | viewportRender width height =>
    (library.mapSlot fun slot => (slot.viewportRender loader width height).2, files)

end LibraryOperation

namespace LibrarySlot

/-- The slot is tracked by the log and what has happened since. -/
def TracksFrom (loader : LibraryLoader ι) (log : LibraryLog ι) (slot : LibrarySlot ι) : Prop :=
  ∃ events : List (LibraryEvent ι), slot.Tracks loader (log ++ events.map .happened)

/-- **Loading and unloading go on with the log.** -/
theorem use_maintains (hfixed : loader.IsFixed) (log : LibraryLog ι) :
    (use loader).Maintains (TracksFrom loader log) where
  opened files copy slot h := by
    obtain ⟨events, htracks⟩ := h
    obtain ⟨more, hopened⟩ := htracks.opened hfixed files copy
    refine ⟨events ++ more, ?_⟩
    rw [List.map_append, ← List.append_assoc]
    exact hopened
  closed files slot h := by
    obtain ⟨events, htracks⟩ := h
    obtain ⟨more, hclosed⟩ := htracks.closed
    refine ⟨events ++ more, ?_⟩
    rw [List.map_append, ← List.append_assoc]
    exact hclosed

end LibrarySlot

namespace LibraryOperation

open LibrarySlot

/-- **Every operation goes on with the log**, after what is set by it. -/
theorem tracksFrom_perform (hfixed : loader.IsFixed) {library : Library ι} {log : LibraryLog ι}
    (h : library.slot.Tracks loader log) (files : FileTree) (operation : LibraryOperation) :
    TracksFrom loader (log ++ operation.sets.map .set)
      (operation.perform loader library files).1.slot := by
  have hunset : ∀ {slot}, TracksFrom loader log slot → TracksFrom loader (log ++ []) slot := by
    intro slot hslot
    rw [List.append_nil]
    exact hslot
  have hstart : TracksFrom loader log library.slot := by
    refine ⟨[], ?_⟩
    rw [List.map_nil, List.append_nil]
    exact h
  cases operation with
  | setPath path => exact hunset ((use_maintains hfixed log).setSource hstart path)
  | load => exact hunset ((use_maintains hfixed log).enter hstart)
  | unload => exact hunset ((use_maintains hfixed log).leave hstart)
  | setPrograms sources =>
    refine ⟨[], ?_⟩
    rw [List.map_nil, List.append_nil]
    exact h.setPrograms sources
  | setUniformValues values => exact h.setUniformValues hfixed values
  | setObjectInstances instances => exact h.setObjectInstances hfixed instances
  | update width height preview =>
    exact hunset (h.ask hfixed ⟨⟨rfl, fun pass => by cases pass <;> rfl⟩, rfl, rfl⟩)
  | render width height preview => exact hunset (h.render hfixed width height preview)
  | viewportUpdate width height =>
    exact hunset (h.ask hfixed ⟨⟨rfl, fun pass => by cases pass <;> rfl⟩, rfl, rfl⟩)
  | viewportRender width height => exact hunset (h.viewportRender hfixed width height)

end LibraryOperation

/-! ## 2. Runs -/

/-- A library in the course of its life, with the log of it. -/
structure LibraryRun (ι : Type) where
  library : Library ι
  files : FileTree
  log : LibraryLog ι

namespace LibraryRun

variable {run : LibraryRun ι}

open LibraryLog

/-- Nothing was set, and nothing happened. -/
def start (directory : Path) (files : FileTree) : LibraryRun ι := ⟨.start directory, files, []⟩

/-- An operation: what it sets and what happens are added to the log. -/
def perform (loader : LibraryLoader ι) (operation : LibraryOperation) (run : LibraryRun ι) :
    LibraryRun ι :=
  let (library, files) := operation.perform loader run.library run.files
  { library := library
    files := files
    log := run.log ++ operation.sets.map .set ++
      (library.slot.events.drop run.library.slot.events.length).map .happened }

/-- **Runs**: operations in any order, each with its own pattern of contents that the loader
accepts, and any changes to the files between them. -/
inductive Reached (loader : LibraryLoader ι) : LibraryRun ι → Prop where
  | start (directory : Path) (files : FileTree) : Reached loader (.start directory files)
  | performed {run : LibraryRun ι} (operation : LibraryOperation)
      (load : Content → Except LibraryError ι) : Reached loader run →
      Reached loader (run.perform (loader.loading load) operation)
  | meanwhile {run : LibraryRun ι} (files : FileTree) : Reached loader run →
      Reached loader { run with files := files }

/-- Operations one after the other, with the loader as it is. -/
theorem Reached.foldl (h : Reached loader run) (operations : List LibraryOperation) :
    Reached loader (operations.foldl (fun run operation => run.perform loader operation) run) := by
  induction operations generalizing run with
  | nil => exact h
  | cons operation rest ih => exact ih (h.performed operation loader.load)

/-- An operation leaves the slot what the log says. -/
theorem tracks_perform (hfixed : loader.IsFixed) (h : run.library.slot.Tracks loader run.log)
    (operation : LibraryOperation) :
    (run.perform loader operation).library.slot.Tracks loader
      (run.perform loader operation).log := by
  obtain ⟨events, htracks⟩ := operation.tracksFrom_perform hfixed h run.files
  have hsets : (operation.sets.map LibraryMoment.set : LibraryLog ι).filterMap
      LibraryMoment.event? = [] := by
    rw [List.filterMap_map]
    exact List.filterMap_eq_nil_iff.mpr fun _ _ => rfl
  have hevents : (operation.perform loader run.library run.files).1.slot.events =
      run.library.slot.events ++ events := by
    rw [htracks.mirrors.events, List.filterMap_append, List.filterMap_append, hsets,
      List.append_nil, ← h.mirrors.events, List.filterMap_map]
    exact congrArg _ (List.filterMap_some ..)
  have hlog : (run.perform loader operation).log =
      run.log ++ operation.sets.map .set ++ events.map .happened := by
    simp only [perform, hevents, List.drop_left]
  rw [hlog]
  exact htracks

/-- **In every run the slot is what the log says, and the instance is informed.** -/
theorem Reached.tracks (hfixed : loader.IsFixed) (h : Reached loader run) :
    run.library.slot.Tracks loader run.log := by
  induction h with
  | start directory files => exact .empty
  | performed operation load _ ih =>
    have hloading : (loader.loading load).IsFixed := hfixed
    exact (tracks_perform hloading (ih.loading load) operation).loading loader.load
  | meanwhile files _ ih => exact ih

/-- A drawing adds a round to the log. -/
theorem log_of_drawn (h : run.library.slot.Mirrors loader run.log) {loaded : ι}
    (hloaded : run.library.slot.loaded = some loaded) (pass : LibraryPass) {up draw : LibraryCall}
    {operation : LibraryOperation} (hsets : operation.sets = [])
    (hslot : (operation.perform loader run.library run.files).1.slot =
      (run.library.slot.tell loader (round (run.library.slot.owed pass) up draw)).settled pass) :
    (run.perform loader operation).log = run.log ++ batch (round (run.log.due pass) up draw) := by
  have hevents : (operation.perform loader run.library run.files).1.slot.events =
      run.library.slot.events ++ (round (run.log.due pass) up draw).map .received := by
    rw [hslot, h.owed, LibrarySlot.tell_of_some _ _ hloaded]
    cases pass <;> rfl
  simp only [perform, hevents, hsets, List.drop_left, List.map_nil, List.append_nil, List.map_map]
  rfl

/-- **What the log of a library shows.** -/
structure Updated (loader : LibraryLoader ι) (run : LibraryRun ι) : Prop where
  /-- The log has all that happened to the instances, -/
  events : run.library.slot.events = run.log.filterMap LibraryMoment.event?
  /-- and the instance is the last one that was loaded, with all that it has received. -/
  loaded : run.library.slot.loaded = run.log.instance? loader
  /-- The uniform values that it received last are those that were set last. -/
  uniformValues : ∀ loaded, run.library.slot.loaded = some loaded →
    run.log.received LibraryCall.uniformValues? = run.log.latest LibraryCall.uniformValues?
  /-- So are the object instances, if it takes any. -/
  objectInstances : ∀ loaded, run.library.slot.loaded = some loaded →
    run.log.received LibraryCall.objectInstances? =
      if loader.takesInstances loaded then run.log.latest LibraryCall.objectInstances? else none
  /-- A drawing is the round of its pass: setting up, telling what is due to it, and drawing, -/
  renders : ∀ width height preview, run.library.slot.loaded.isSome = true →
    (run.perform loader (.render width height preview)).log =
      run.log ++ batch (round (run.log.due .final) (.setUp width height)
        (.render width height preview (Frame.empty width height).size))
  /-- for both passes alike. -/
  viewportRenders : ∀ width height, run.library.slot.loaded.isSome = true →
    (run.perform loader (.viewportRender width height)).log =
      run.log ++ batch (round (run.log.due .viewport) (.viewportSetUp width height)
        (.viewportRender width height))
  /-- Wherever a pass has drawn, the programs that were received last were those set last; and the
  pass had set itself up and told what was due to it. -/
  draws : ∀ (pass : LibraryPass) (before after : LibraryLog ι) (call : LibraryCall),
    run.log = before ++ .receives call :: after →
    pass.draws call = true →
    before.received LibraryCall.programs? = before.latest LibraryCall.programs? ∧
      ∃ earlier up, pass.setsUp up = true ∧
        before = earlier ++ batch (up :: (due pass earlier).toList.map .programs)
  /-- Programs were told only so: right after the setting up of a pass to which they were due, and
  right before its drawing. -/
  tells : ∀ (before after : LibraryLog ι) (sources : List ShaderSource),
    run.log = before ++ .receives (.programs sources) :: after →
    ∃ (pass : LibraryPass) (earlier later : LibraryLog ι) (up draw : LibraryCall),
      pass.setsUp up = true ∧ pass.draws draw = true ∧ due pass earlier = some sources ∧
        before = earlier ++ batch [up] ∧ after = batch [draw] ++ later

/-- **Updates reach every library.** -/
theorem Reached.updated (hfixed : loader.IsFixed) (h : Reached loader run) :
    run.Updated loader := by
  obtain ⟨hmirrors, horderly, huniforms, hobjects⟩ := h.tracks hfixed
  exact
    { events := hmirrors.events
      loaded := hmirrors.loaded
      uniformValues := fun loaded hloaded => huniforms loaded (hmirrors.loaded.symm.trans hloaded)
      objectInstances := fun loaded hloaded => hobjects loaded (hmirrors.loaded.symm.trans hloaded)
      renders := by
        intro width height preview hsome
        obtain ⟨loaded, hloaded⟩ := Option.isSome_iff_exists.mp hsome
        exact log_of_drawn hmirrors hloaded .final rfl
          (LibrarySlot.render_eq hloaded width height preview)
      viewportRenders := by
        intro width height hsome
        obtain ⟨loaded, hloaded⟩ := Option.isSome_iff_exists.mp hsome
        exact log_of_drawn hmirrors hloaded .viewport rfl
          (LibrarySlot.viewportRender_eq hloaded width height)
      draws := by
        intro pass before after call hlog hdraws
        obtain ⟨earlier, up, -, hup, hbefore⟩ := horderly.draws _ pass hlog hdraws
        exact ⟨horderly.knows _ pass hlog hdraws, earlier, up, hup, hbefore⟩
      tells := fun before after sources hlog => horderly.tells _ hlog }

/-- Uniform values and programs are set before the library is loaded, and three frames are drawn. -/
def threeFrames : LibraryRun Recorder :=
  let operations : List LibraryOperation :=
    [.setUniformValues [], .setPrograms [⟨"main", none, none⟩], .setPath (some ⟨"/a.so"⟩), .load,
      .render 4 2 false, .viewportRender 4 2, .render 4 2 false]
  let files : FileTree :=
    { entries := [(["work"], .directory 0o755), (["a.so"], .file 0o755 (.octets [65]))]
      here := [] }
  operations.foldl (fun run operation => run.perform Recorder.loader operation)
    (.start ⟨"/work"⟩ files)

/-- The instance has the values and the programs, and no pass has any to tell. -/
theorem threeFrames_updated :
    Recorder.loader.IsFixed ∧ Reached Recorder.loader threeFrames ∧
      threeFrames.Updated Recorder.loader ∧ threeFrames.library.slot.loaded.isSome = true ∧
      threeFrames.log.received LibraryCall.uniformValues? = some [] ∧
      threeFrames.log.received LibraryCall.programs? = some [⟨"main", none, none⟩] ∧
      threeFrames.log.due .final = none ∧ threeFrames.log.due .viewport = none := by
  have hfixed : Recorder.loader.IsFixed := fun _ _ => rfl
  have hreached : Reached Recorder.loader threeFrames := (Reached.start _ _).foldl _
  exact ⟨hfixed, hreached, hreached.updated hfixed, by decide +kernel, by decide +kernel,
    by decide +kernel, by decide +kernel⟩

end LibraryRun

end RenderSync
