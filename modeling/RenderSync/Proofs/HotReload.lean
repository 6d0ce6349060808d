import RenderSync.Library.Journal
import RenderSync.Proofs.Files
import RenderSync.Proofs.Runs

/-!
# What becomes of a library that was compiled anew

When the server has compiled a library, its path becomes the path that is desired, and the pass
that follows should load what is at that path.  It does so for every path that is another one than
before, whatever has happened to the engine earlier (`compiled_loads_iff`).

A path that is there already is never looked at again.  The step compares paths and not what is in
the files, so that a library that was built anew in its place is not loaded (`rebuilt_is_kept`);
and where nothing is loaded, the step takes the source as it was first written.
-/

namespace RenderSync

variable {ι : Type} {loader : LibraryLoader ι}

namespace Library

/-- **A file that can be loaded**: it has this content, the loader accepts that, and a working copy
can be made of it that is a file. -/
structure Loadable (loader : LibraryLoader ι) (directory : Path) (files : FileTree) (path : Path)
    (content : Content) : Prop where
  present : files.content? path = some content
  room : ∃ copy copied, WorkingCopy.copySource directory path files = (some copy, copied) ∧
    (copied.find? copy).any Entry.isFile = true
  accepted : ∃ fresh, loader.load content = .ok fresh

/-- A load of such a file finds its content in the working copy. -/
theorem Loadable.loads {directory : Path} {files : FileTree} {path : Path} {content : Content}
    (h : Loadable loader directory files path content) :
    Loads loader directory files path content := by
  obtain ⟨copy, copied, hmade, hfile⟩ := h.room
  have hcontent := WorkingCopy.copySource_content hmade h.present hfile
  refine ⟨copy, copied, hmade, ?_, h.accepted⟩
  rw [LibrarySlot.contentAt, hcontent, Option.getD_some]

/-- **The path is there already, and it does not stand for this content**: what is loaded came
from another one, or nothing is loaded and the path as it was first written cannot be loaded with
it. -/
structure Clings (loader : LibraryLoader ι) (files : FileTree) (path : Path) (content : Content)
    (library : Library ι) : Prop where
  points : library.held.pointsTo (some path) = true
  loaded : library.held.isOpen = true → ¬library.LoadedFrom loader content
  unloaded : library.held.isOpen = false → ∀ source, library.held.source = some source →
    ¬Loads loader library.held.directory files source content

end Library

/-! ## 1. A pass that wants a library -/

namespace EngineResources

variable {resources : EngineResources ι} {desired : DesiredState} {path : Path}

/-- **A library that is loaded from the path that is wanted is left as it is**, whatever is at
that path now. -/
theorem matchAll_library_of_kept (h : resources.Sound loader)
    (hwanted : desired.library = ⟨true, some path⟩)
    (hserver : ((controls loader).matchServer desired.server resources).1 = .ok ())
    (hpoints : resources.library.held.pointsTo (some path) = true)
    (hopen : resources.library.held.isOpen = true) :
    ((controls loader).matchAll desired resources).2.library = resources.library := by
  have hsame : (resources.served loader desired).copyState.held.pointsTo
      desired.library.path = true := by
    rw [hwanted, copyState, served_library h desired]
    exact hpoints
  have hdone : (resources.served loader desired).copyState.held.isOpen =
      desired.library.loaded := by
    rw [hwanted, copyState, served_library h desired]
    exact hopen
  rw [matchAll_of_ok hserver, CopyState.libraryStep_of_settled hsame (Or.inl hdone)]
  exact served_library h desired

/-- A library whose load is due is loaded from what a load of the source finds. -/
theorem matchAll_loadedFrom_of_due (h : resources.Sound loader)
    (hserver : ((controls loader).matchServer desired.server resources).1 = .ok ())
    (hdue : CopyState.Due desired.library resources.library.held) {source : Path}
    (hsource : resources.library.held.sourceFor desired.library.path = some source)
    (content : Content) :
    ((controls loader).matchAll desired resources).2.library.LoadedFrom loader content ↔
      Library.Loads loader resources.library.held.directory
        (resources.filesToLoad loader desired) source content := by
  rw [matchAll_of_due h hserver hdue]
  exact enter_poisedFor_iff h hsource content

/-- **What is loaded after the pass came from the content that is at the path, exactly if the path
was not there already for something else.** -/
theorem matchAll_loadedFrom_iff (h : resources.Sound loader)
    (hwanted : desired.library = ⟨true, some path⟩)
    (hserver : ((controls loader).matchServer desired.server resources).1 = .ok ())
    {content : Content} (hloadable : Library.Loadable loader resources.library.held.directory
      (resources.filesToLoad loader desired) path content) :
    ((controls loader).matchAll desired resources).2.library.LoadedFrom loader content ↔
      ¬resources.library.Clings loader (resources.filesToLoad loader desired) path content := by
  have hdue : (resources.library.held.pointsTo (some path) && resources.library.held.isOpen) =
      false → CopyState.Due desired.library resources.library.held := by
    rw [hwanted]
    exact fun hmissing => ⟨rfl, rfl, hmissing⟩
  cases hpoints : resources.library.held.pointsTo (some path) with
  | false =>
    -- the path is another one, and nothing of the old one is left
    have hsource : resources.library.held.sourceFor desired.library.path = some path := by
      rw [hwanted, WorkingCopy.sourceFor, hpoints]
      rfl
    have hmissing := hdue (by rw [hpoints, Bool.false_and])
    refine iff_of_true ?_ fun hclings => ?_
    · exact (matchAll_loadedFrom_of_due h hserver hmissing hsource content).mpr hloadable.loads
    · exact Bool.false_ne_true (hpoints.symm.trans hclings.points)
  | true =>
    cases hopen : resources.library.held.isOpen with
    | true =>
      rw [matchAll_library_of_kept h hwanted hserver hpoints hopen]
      constructor
      · exact fun hfrom hclings => hclings.loaded hopen hfrom
      · intro hnot
        refine Classical.byContradiction fun hfrom => hnot ⟨hpoints, fun _ => hfrom, ?_⟩
        exact fun hclosed => absurd (hclosed.symm.trans hopen) Bool.false_ne_true
    | false =>
      obtain ⟨source, hfirst⟩ : ∃ source, resources.library.held.source = some source := by
        cases hfirst : resources.library.held.source with
        | none => rw [WorkingCopy.pointsTo, hfirst] at hpoints; exact Bool.noConfusion hpoints
        | some source => exact ⟨source, rfl⟩
      have hsource : resources.library.held.sourceFor desired.library.path = some source := by
        rw [hwanted, WorkingCopy.sourceFor, hpoints]
        exact hfirst
      have hmissing := hdue (by rw [hopen, Bool.and_false])
      refine (matchAll_loadedFrom_of_due h hserver hmissing hsource content).trans ?_
      constructor
      · exact fun hloads hclings => hclings.unloaded hopen source hfirst hloads
      · intro hnot
        refine Classical.byContradiction fun hloads => hnot ⟨hpoints, ?_, fun _ other hother => ?_⟩
        · exact fun hyes => absurd (hopen.symm.trans hyes) Bool.false_ne_true
        · obtain rfl := Option.some.inj (hfirst.symm.trans hother)
          exact hloads

end EngineResources

/-! ## 2. Events -/

namespace Engine

variable {engine : Engine ι}

/-- The engine when it has been told of a library, in the world that the pass after that finds. -/
def toldOf (now : Moment) (path : String) (world : World) (engine : Engine ι) : Engine ι :=
  (engine.handle now (.libraryCompiled path)).2.within world

/-- **After a library was compiled, and the pass for that has run, the library that is loaded was
loaded from a working copy with the content that is at the path, exactly if the path was not there
already for something else.**  The engine may have been reached by any run, and the outside may
change between the event and its pass. -/
theorem compiled_loads_iff (h : engine.Reachable loader) (now later : Moment) (path : String)
    (world : World) (content : Content)
    (hloaded : engine.reconciler.desired.library.loaded = true)
    (hserver : ((EngineResources.controls loader).matchServer
      (engine.toldOf now path world).reconciler.desired.server
      (engine.toldOf now path world).resources).1 = .ok ())
    (hloadable : Library.Loadable loader engine.resources.library.held.directory
      ((engine.toldOf now path world).resources.filesToLoad loader
        (engine.toldOf now path world).reconciler.desired) ⟨path⟩ content) :
    ((engine.toldOf now path world).reconcile loader later).2.resources.library.LoadedFrom loader
        content ↔
      ¬engine.resources.library.Clings loader
        ((engine.toldOf now path world).resources.filesToLoad loader
          (engine.toldOf now path world).reconciler.desired) ⟨path⟩ content := by
  have hsound : (engine.toldOf now path world).resources.Sound loader :=
    (h.sound.handle now (.libraryCompiled path)).move (.outside world)
  have hwanted : (engine.toldOf now path world).reconciler.desired.library =
      ⟨engine.reconciler.desired.library.loaded, some ⟨path⟩⟩ := rfl
  rw [hloaded] at hwanted
  exact EngineResources.matchAll_loadedFrom_iff hsound hwanted hserver hloadable

/-- An engine that has loaded a library. -/
def loadedOnce : Engine Recorder :=
  (Engine.start smallOptions (smallWorld [textFile "a.so" "A1"] [])).moves Recorder.loader
    [.apply 0 fun _ => libraryAt true "/a.so"]

/-- Another library beside it, and the same one anew; the copy of the old one is in use. -/
def rebuiltWorld : World :=
  smallWorld [textFile "a.so" "A2", textFile "b.so" "B",
    (["work", "locked.a.so"], .file 0o644 (.octets (Utf8.ofString "A1")))] []

theorem loadedOnce_reachable : loadedOnce.Reachable Recorder.loader := ⟨_, _, _, rfl⟩

theorem loadedOnce_loadable : Library.Loadable Recorder.loader
    loadedOnce.resources.library.held.directory
    ((loadedOnce.toldOf 1 "/b.so" rebuiltWorld).resources.filesToLoad Recorder.loader
      (loadedOnce.toldOf 1 "/b.so" rebuiltWorld).reconciler.desired) ⟨"/b.so"⟩
    (.octets (Utf8.ofString "B")) where
  present := by decide +kernel
  room := ⟨⟨"/work/locked.b.so"⟩, _, Prod.ext (by decide +kernel) rfl, by decide +kernel⟩
  accepted := ⟨⟨"B", true⟩, by decide +kernel⟩

theorem rebuilt_loadable : Library.Loadable Recorder.loader
    loadedOnce.resources.library.held.directory
    ((loadedOnce.toldOf 1 "/a.so" rebuiltWorld).resources.filesToLoad Recorder.loader
      (loadedOnce.toldOf 1 "/a.so" rebuiltWorld).reconciler.desired) ⟨"/a.so"⟩
    (.octets (Utf8.ofString "A2")) where
  present := by decide +kernel
  room := ⟨⟨"/work/locked.a.so"⟩, _, Prod.ext (by decide +kernel) rfl, by decide +kernel⟩
  accepted := ⟨⟨"A2", true⟩, by decide +kernel⟩

/-- The other library is loaded in place of the first. -/
theorem loadedOnce_swaps :
    loadedOnce.Reachable Recorder.loader ∧
      ((loadedOnce.toldOf 1 "/b.so" rebuiltWorld).reconcile Recorder.loader
        2).2.resources.library.LoadedFrom Recorder.loader (.octets (Utf8.ofString "B")) :=
  ⟨loadedOnce_reachable,
    (compiled_loads_iff loadedOnce_reachable 1 2 "/b.so" rebuiltWorld _ (by decide +kernel)
      (by decide +kernel) loadedOnce_loadable).mpr
      fun hclings => absurd hclings.points (by decide +kernel)⟩

/-- **The same library anew is not loaded**, although it could be. -/
theorem rebuilt_is_kept :
    loadedOnce.Reachable Recorder.loader ∧
      loadedOnce.reconciler.desired.library.loaded = true ∧
      Library.Loadable Recorder.loader loadedOnce.resources.library.held.directory
        ((loadedOnce.toldOf 1 "/a.so" rebuiltWorld).resources.filesToLoad Recorder.loader
          (loadedOnce.toldOf 1 "/a.so" rebuiltWorld).reconciler.desired) ⟨"/a.so"⟩
        (.octets (Utf8.ofString "A2")) ∧
      ((loadedOnce.toldOf 1 "/a.so" rebuiltWorld).reconcile Recorder.loader 2).1 = .ok () ∧
      ¬((loadedOnce.toldOf 1 "/a.so" rebuiltWorld).reconcile Recorder.loader
        2).2.resources.library.LoadedFrom Recorder.loader (.octets (Utf8.ofString "A2")) := by
  refine ⟨loadedOnce_reachable, by decide +kernel, rebuilt_loadable, by decide +kernel,
    fun hfrom => ?_⟩
  have hold : ((loadedOnce.toldOf 1 "/a.so" rebuiltWorld).reconcile Recorder.loader
      2).2.resources.library.LoadedFrom Recorder.loader (.octets (Utf8.ofString "A1")) := by
    refine ⟨by decide +kernel, ⟨"/work/locked.a.so"⟩, by decide +kernel, by decide +kernel,
      ⟨"A1", true⟩, [], by decide +kernel, by decide +kernel⟩
  exact absurd (hold.unique hfrom) (by decide +kernel)

end Engine

end RenderSync
