import RenderSync.Proofs.LibraryRuns

/-!
# One instance at a time

What happened to the instances of a library is a course of loads, calls and drops
(`LibraryEvent.Course`).  A loader is only asked while no instance is alive, only the instance that
is alive is called, and it is the one that is dropped (`LibraryEvent.Passes`).  So an instance
receives its calls between its load and its drop, and no other load comes between the two
(`Course.of_load`, `Course.of_alive`).

`LibrarySlot.Houses` is the invariant: the record of a slot is a course to the instance that it
holds, and a change was announced for every load and every drop.  Loading and unloading keep it in
step with the working copy (`LibrarySlot.use_lodges`), also where the loader refuses; all other
operations at most call the instance.  When the library ends it is unloaded, and nothing is left
to be dropped with the slot (`LibraryRun.Reached.oneAtATime`).
-/

namespace RenderSync

variable {ι : Type} {receive : LibraryCall → ι → ι}

/-! ## 1. Courses -/

namespace LibraryEvent

/-- A load that succeeded. -/
def isLoad : LibraryEvent ι → Bool
  | .tried _ _ (.ok _) => true
  | _ => false

/-- An instance was dropped. -/
def isDrop : LibraryEvent ι → Bool
  | .dropped _ => true
  | _ => false

/-- How many instances were loaded. -/
def loads (events : List (LibraryEvent ι)) : Nat := events.countP isLoad

/-- How many instances were dropped. -/
def drops (events : List (LibraryEvent ι)) : Nat := events.countP isDrop

/-- What an event makes of the instance that is alive, if there is one. -/
inductive Passes (receive : LibraryCall → ι → ι) : Option ι → LibraryEvent ι → Option ι → Prop where
  | refused (copy : Path) (content : Content) (error : LibraryError) :
      Passes receive none (.tried copy content (.error error)) none
  | loaded (copy : Path) (content : Content) (fresh : ι) :
      Passes receive none (.tried copy content (.ok fresh)) (some fresh)
  | received (call : LibraryCall) (alive : ι) :
      Passes receive (some alive) (.received call) (some (receive call alive))
  | dropped (alive : ι) : Passes receive (some alive) (.dropped alive) none

/-- Events one after the other, from the instance before them to the one behind them. -/
inductive Course (receive : LibraryCall → ι → ι) :
    Option ι → List (LibraryEvent ι) → Option ι → Prop where
  | done (alive : Option ι) : Course receive alive [] alive
  | next {before between behind : Option ι} {event : LibraryEvent ι}
      {rest : List (LibraryEvent ι)} : Passes receive before event between →
      Course receive between rest behind → Course receive before (event :: rest) behind

namespace Course

variable {before behind : Option ι} {events more : List (LibraryEvent ι)}

theorem append_iff : Course receive before (events ++ more) behind ↔
    ∃ between, Course receive before events between ∧ Course receive between more behind := by
  constructor
  · intro h
    induction events generalizing before with
    | nil => exact ⟨before, .done before, h⟩
    | cons event rest ih =>
      cases h with
      | next hpasses hrest =>
        obtain ⟨between, hfirst, hmore⟩ := ih hrest
        exact ⟨between, .next hpasses hfirst, hmore⟩
  · rintro ⟨between, hfirst, hmore⟩
    induction hfirst with
    | done alive => exact hmore
    | next hpasses _ ih => exact .next hpasses (ih hmore)

/-- One more event. -/
theorem concat {between : Option ι} {event : LibraryEvent ι}
    (h : Course receive before events between) (hpasses : Passes receive between event behind) :
    Course receive before (events ++ [event]) behind :=
  append_iff.mpr ⟨between, h, .next hpasses (.done behind)⟩

/-- The instance before an event in a course, and the one behind it. -/
theorem split {event : LibraryEvent ι}
    (h : Course receive before (events ++ event :: more) behind) :
    ∃ alive next, Course receive before events alive ∧ Passes receive alive event next ∧
      Course receive next more behind := by
  obtain ⟨alive, hfirst, hrest⟩ := append_iff.mp h
  cases hrest with
  | next hpasses hmore => exact ⟨alive, _, hfirst, hpasses, hmore⟩

/-- **Every load is made good by a drop**, but for that of the instance that is alive. -/
theorem counts (h : Course receive before events behind) :
    before.isSome.toNat + loads events = drops events + behind.isSome.toNat := by
  induction h with
  | done alive => exact Nat.add_comm ..
  | next hpasses _ ih =>
    cases hpasses <;> simp [loads, drops, isLoad, isDrop, List.countP_cons] at ih ⊢ <;> omega

/-- **An instance receives calls until it is dropped**, and then it is dropped as the calls have
left it. -/
theorem of_load {fresh : ι} (h : Course receive (some fresh) events behind) :
    ∃ calls : List LibraryCall,
      let alive := calls.foldl (fun made call => receive call made) fresh
      events = calls.map .received ∧ behind = some alive ∨
        ∃ later, events = calls.map .received ++ .dropped alive :: later := by
  induction events generalizing fresh with
  | nil =>
    cases h
    exact ⟨[], Or.inl ⟨rfl, rfl⟩⟩
  | cons event rest ih =>
    cases h with
    | next hpasses hrest =>
      cases hpasses with
      | received call =>
        obtain ⟨calls, hcalls⟩ := ih hrest
        refine ⟨call :: calls, hcalls.imp ?_ ?_⟩
        · rintro ⟨rfl, hbehind⟩
          exact ⟨rfl, hbehind⟩
        · rintro ⟨later, rfl⟩
          exact ⟨later, rfl⟩
      | dropped => exact ⟨[], Or.inr ⟨rest, rfl⟩⟩

/-- **What is alive has received the calls since its load**, or since the beginning if it was alive
then. -/
theorem of_alive {alive : ι} (h : Course receive before events (some alive)) :
    (∃ earlier copy content fresh, ∃ calls : List LibraryCall,
      events = earlier ++ .tried copy content (.ok fresh) :: calls.map .received ∧
        alive = calls.foldl (fun made call => receive call made) fresh) ∨
    ∃ fresh, ∃ calls : List LibraryCall, before = some fresh ∧ events = calls.map .received ∧
      alive = calls.foldl (fun made call => receive call made) fresh := by
  induction events generalizing before with
  | nil =>
    cases h
    exact Or.inr ⟨alive, [], rfl, rfl, rfl⟩
  | cons event rest ih =>
    cases h with
    | next hpasses hrest =>
      rcases ih hrest with
        ⟨earlier, copy, content, fresh, calls, rfl, halive⟩ | ⟨fresh, calls, hfresh, rfl, halive⟩
      · exact Or.inl ⟨event :: earlier, copy, content, fresh, calls, rfl, halive⟩
      · cases hpasses with
        | refused => cases hfresh
        | loaded copy content made =>
          cases hfresh
          exact Or.inl ⟨[], copy, content, fresh, calls, rfl, halive⟩
        | received call made =>
          cases hfresh
          exact Or.inr ⟨made, call :: calls, rfl, rfl, halive⟩
        | dropped => cases hfresh

end Course

end LibraryEvent

/-! ## 2. Slots -/

namespace LibrarySlot

open LibraryEvent

variable {loader : LibraryLoader ι} {owed : Nat} {present : Bool} {slot : LibrarySlot ι}

/-- **The record of a slot leads to the instance that it holds**, and a change was announced for
every load and every drop, but for some that are still owed. -/
structure Houses (receive : LibraryCall → ι → ι) (owed : Nat) (present : Bool)
    (slot : LibrarySlot ι) : Prop where
  course : Course receive none slot.events slot.loaded
  loaded : slot.loaded.isSome = present
  changes : slot.changes + owed = loads slot.events + drops slot.events

theorem Houses.empty : (LibrarySlot.empty : LibrarySlot ι).Houses receive 0 false :=
  ⟨.done none, rfl, rfl⟩

/-- Where no instance is, none is loaded. -/
theorem Houses.vacant (h : slot.Houses receive owed false) : slot.loaded = none :=
  Option.isNone_iff_eq_none.mp (Option.isSome_eq_false_iff.mp h.loaded)

/-- What is known and what is pending does not matter. -/
theorem Houses.congr {other : LibrarySlot ι} (h : slot.Houses receive owed present)
    (hloaded : other.loaded = slot.loaded) (hevents : other.events = slot.events)
    (hchanges : other.changes = slot.changes) : other.Houses receive owed present := by
  obtain ⟨hcourse, hpresent, hcounts⟩ := h
  refine ⟨?_, ?_, ?_⟩
  · rw [hevents, hloaded]
    exact hcourse
  · rw [hloaded]
    exact hpresent
  · rw [hevents, hchanges]
    exact hcounts

/-- **A call goes to the instance that is alive**, if there is one. -/
theorem Houses.ask (h : slot.Houses loader.receive owed present) (call : LibraryCall) :
    (slot.ask loader call).Houses loader.receive owed present := by
  unfold LibrarySlot.ask
  cases halive : slot.loaded with
  | none => exact h
  | some alive =>
    have hcourse := h.course
    rw [halive] at hcourse
    refine ⟨hcourse.concat (.received call alive), ?_, ?_⟩
    · rw [← h.loaded, halive]
      rfl
    · simpa [note, loads, drops, isLoad, isDrop] using h.changes

theorem Houses.askInstances (h : slot.Houses loader.receive owed present)
    (instances : List ObjectInstance) :
    (slot.askInstances loader instances).Houses loader.receive owed present := by
  unfold LibrarySlot.askInstances
  split
  · exact h
  · split
    · exact h.ask _
    · exact h

theorem Houses.replay (h : slot.Houses loader.receive owed present) :
    (slot.replay loader).Houses loader.receive owed present := by
  unfold LibrarySlot.replay
  cases slot.uniformValues with
  | none =>
    dsimp only
    split
    · exact h
    · exact h.askInstances _
  | some values =>
    have htold := h.ask (.uniformValues values)
    dsimp only
    split
    · exact htold
    · exact htold.askInstances _

theorem Houses.tellPrograms (h : slot.Houses loader.receive owed present) :
    (slot.tellPrograms loader).Houses loader.receive owed present := by
  unfold LibrarySlot.tellPrograms
  split
  · exact h
  · exact h.ask _

theorem Houses.settleRender (h : slot.Houses loader.receive owed present) :
    (slot.settleRender loader).Houses loader.receive owed present := by
  unfold LibrarySlot.settleRender
  split
  · exact h.tellPrograms.congr rfl rfl rfl
  · exact h

theorem Houses.settleViewport (h : slot.Houses loader.receive owed present) :
    (slot.settleViewport loader).Houses loader.receive owed present := by
  unfold LibrarySlot.settleViewport
  split
  · exact h.tellPrograms.congr rfl rfl rfl
  · exact h

theorem Houses.render (h : slot.Houses loader.receive owed present) (width height : UInt32)
    (preview : Bool) :
    (slot.render loader width height preview).2.Houses loader.receive owed present := by
  unfold LibrarySlot.render
  split
  · exact h
  · exact ((h.ask _).settleRender).ask _

theorem Houses.viewportRender (h : slot.Houses loader.receive owed present)
    (width height : UInt32) :
    (slot.viewportRender loader width height).2.Houses loader.receive owed present := by
  unfold LibrarySlot.viewportRender
  split
  · exact h
  · exact ((h.ask _).settleViewport).ask _

/-- A slot and the working copy fit: there is an instance exactly while there is a copy, and every
change was announced. -/
def Lodges (receive : LibraryCall → ι → ι) (copy : Option Path) (slot : LibrarySlot ι) : Prop :=
  slot.Houses receive 0 copy.isSome

/-- The slot with a fresh instance that has been told nothing yet. -/
def welcoming (copy : Path) (content : Content) (fresh : ι) (slot : LibrarySlot ι) :
    LibrarySlot ι :=
  { slot.note (.tried copy content (.ok fresh)) with loaded := some fresh }

theorem opened_of_ok {files : FileTree} {copy : Path} {fresh : ι} (slot : LibrarySlot ι)
    (hload : loader.load (contentAt files copy) = .ok fresh) :
    slot.opened loader files copy =
      (true, ((slot.welcoming copy (contentAt files copy) fresh).replay
        loader).markPending.announce) := by
  simp only [opened]
  rw [show (files.content? copy).getD (.octets []) = contentAt files copy from rfl, hload]
  rfl

/-- **A load that succeeds is announced, and no other is.** -/
theorem Houses.opened (h : slot.Houses loader.receive 0 false) (files : FileTree) (copy : Path) :
    (slot.opened loader files copy).2.Houses loader.receive 0
      (slot.opened loader files copy).1 := by
  have hvacant := h.vacant
  have hcourse := h.course
  have hcounts := h.changes
  rw [hvacant] at hcourse
  cases hload : loader.load (contentAt files copy) with
  | error error =>
    rw [opened_of_error slot hload]
    refine ⟨?_, h.loaded, ?_⟩
    · dsimp only [note]
      rw [hvacant]
      exact hcourse.concat (.refused copy (contentAt files copy) error)
    · simpa [note, loads, drops, isLoad, isDrop] using hcounts
  | ok fresh =>
    -- a change is owed until the fresh instance has been told what is known
    have hwelcoming : (slot.welcoming copy (contentAt files copy) fresh).Houses loader.receive 1
        true := by
      refine ⟨hcourse.concat (.loaded copy (contentAt files copy) fresh), rfl, ?_⟩
      simp only [welcoming, note, loads, drops, List.countP_append] at hcounts ⊢
      simp [isLoad, isDrop]
      omega
    obtain ⟨htold, hpresent, hchanges⟩ := hwelcoming.replay
    rw [opened_of_ok slot hload]
    exact ⟨htold, hpresent, hchanges⟩

/-- **So is every drop.** -/
theorem Houses.closed (h : slot.Houses receive 0 true) : slot.closed.Houses receive 0 false := by
  obtain ⟨alive, halive⟩ := Option.isSome_iff_exists.mp h.loaded
  have hcourse := h.course
  have hcounts := h.changes
  rw [halive] at hcourse
  simp only [LibrarySlot.closed, halive]
  refine ⟨hcourse.concat (.dropped alive), rfl, ?_⟩
  simp only [announce, note, loads, drops, List.countP_append] at hcounts ⊢
  simp [isLoad, isDrop]
  omega

/-- **Loading and unloading keep the instance in step with the working copy.** -/
theorem use_lodges (loader : LibraryLoader ι) :
    (use loader).Respects (Lodges loader.receive) where
  yields _ _ := rfl
  opened {files copy slot slot'} hfits hopened := by
    have hslot := Houses.opened hfits files copy
    rw [show slot.opened loader files copy = (true, slot') from hopened] at hslot
    exact hslot
  refused {files copy slot slot'} hfits hopened := by
    have hslot := Houses.opened hfits files copy
    rw [show slot.opened loader files copy = (false, slot') from hopened] at hslot
    exact hslot
  closed _ hfits := Houses.closed hfits

/-- What a slot still holds is dropped with it. -/
def released (slot : LibrarySlot ι) : LibrarySlot ι :=
  match slot.loaded with
  | none => slot
  | some alive => { slot.note (.dropped alive) with loaded := none }

theorem released_of_none (h : slot.loaded = none) : slot.released = slot := by
  unfold released
  rw [h]

/-- **What the record of a slot shows of its instances.** -/
structure OneAtATime (receive : LibraryCall → ι → ι) (slot : LibrarySlot ι) : Prop where
  /-- At no moment is more than one instance alive. -/
  alone : ∀ before after, slot.events = before ++ after →
    drops before ≤ loads before ∧ loads before ≤ drops before + 1
  /-- None is alive when the loader is asked for one. -/
  asked : ∀ before copy content result after,
    slot.events = before ++ .tried copy content result :: after → loads before = drops before
  /-- An instance that was loaded receives calls, and then it is dropped, or it is still alive. -/
  leaves : ∀ before copy content fresh after,
    slot.events = before ++ .tried copy content (.ok fresh) :: after →
    ∃ calls : List LibraryCall,
      let alive := calls.foldl (fun made call => receive call made) fresh
      after = calls.map .received ∧ slot.loaded = some alive ∨
        ∃ later, after = calls.map .received ++ .dropped alive :: later
  /-- What is dropped is the instance that was loaded last, and it was not dropped before. -/
  came : ∀ before alive after, slot.events = before ++ .dropped alive :: after →
    ∃ earlier copy content fresh, ∃ calls : List LibraryCall,
      before = earlier ++ .tried copy content (.ok fresh) :: calls.map .received ∧
        alive = calls.foldl (fun made call => receive call made) fresh
  /-- A change was announced for every load that succeeded and for every drop, and no other. -/
  announced : slot.changes = loads slot.events + drops slot.events

/-- **A slot has one instance at a time.** -/
theorem OneAtATime.of_houses (h : slot.Houses receive 0 present) : slot.OneAtATime receive := by
  have hcourse := h.course
  refine ⟨fun before after hsplit => ?_, fun before copy content result after hsplit => ?_,
    fun before copy content fresh after hsplit => ?_, fun before alive after hsplit => ?_,
    h.changes⟩
  · rw [hsplit] at hcourse
    obtain ⟨between, hbefore, -⟩ := Course.append_iff.mp hcourse
    have hcounts := hbefore.counts
    cases between <;> simp at hcounts <;> omega
  · rw [hsplit] at hcourse
    obtain ⟨between, next, hbefore, hpasses, -⟩ := hcourse.split
    have hcounts := hbefore.counts
    cases hpasses <;> simpa using hcounts
  · rw [hsplit] at hcourse
    obtain ⟨between, next, -, hpasses, hafter⟩ := hcourse.split
    cases hpasses
    exact hafter.of_load
  · rw [hsplit] at hcourse
    obtain ⟨between, next, hbefore, hpasses, -⟩ := hcourse.split
    cases hpasses
    rcases hbefore.of_alive with hcame | ⟨fresh, calls, hnone, -⟩
    · exact hcame
    · cases hnone

end LibrarySlot

/-! ## 3. Operations -/

/-- The library has an instance exactly while its working copy is in use. -/
def Library.Lodged (receive : LibraryCall → ι → ι) (library : Library ι) : Prop :=
  library.held.Sound (LibrarySlot.Lodges receive) library.slot

namespace Library

variable {loader : LibraryLoader ι} {library : Library ι}

/-- What keeps the instance keeps the library. -/
theorem Lodged.mapSlot {change : LibrarySlot ι → LibrarySlot ι} (h : library.Lodged receive)
    (hchange : (change library.slot).Houses receive 0 library.held.copy.isSome) :
    (library.mapSlot change).Lodged receive :=
  ⟨h.copy_isSome, h.wanted, hchange⟩

/-- **Every operation keeps the library in step**, whatever the files are and whatever the loader
accepts. -/
theorem Lodged.perform (h : library.Lodged loader.receive) (files : FileTree)
    (operation : LibraryOperation) :
    (operation.perform loader library files).1.Lodged loader.receive := by
  have hrespects := LibrarySlot.use_lodges loader
  have hstate : (library.copyState files).held.Sound (LibrarySlot.Lodges loader.receive)
      (library.copyState files).user := h
  have hslot : library.slot.Houses loader.receive 0 library.held.copy.isSome := h.fits
  cases operation with
  | setPath path => exact WorkingCopy.Sound.setSource hrespects hstate path
  | load => exact WorkingCopy.Sound.openCopy hrespects hstate
  | unload => exact WorkingCopy.Sound.closeCopy hrespects hstate
  | setPrograms sources => exact h.mapSlot (hslot.congr rfl rfl rfl)
  | setUniformValues values => exact h.mapSlot ((hslot.ask _).congr rfl rfl rfl)
  | setObjectInstances instances => exact h.mapSlot ((hslot.askInstances _).congr rfl rfl rfl)
  | update width height preview => exact h.mapSlot (hslot.ask _)
  | render width height preview => exact h.mapSlot (hslot.render width height preview)
  | viewportUpdate width height => exact h.mapSlot (hslot.ask _)
  | viewportRender width height => exact h.mapSlot (hslot.viewportRender width height)

/-- The end of the library: it is unloaded, and its slot goes. -/
def ended (loader : LibraryLoader ι) (library : Library ι) (files : FileTree) : LibrarySlot ι :=
  (library.unload loader files).2.1.slot.released

/-- **Nothing is left to be dropped with the slot.** -/
theorem Lodged.ended (h : library.Lodged loader.receive) (files : FileTree) :
    (library.ended loader files).Houses loader.receive 0 false := by
  have hunloaded := Lodged.perform h files .unload
  have hcopy : (library.unload loader files).2.1.held.copy = none := by
    have hclosed : (library.copyState files).closeCopy (LibrarySlot.use loader) =
        (true, ((library.copyState files).want false).left (LibrarySlot.use loader)) :=
      CopyState.closeCopy_eq _ (fun _ _ => rfl) h.copy_isSome
    exact congrArg (fun closed => closed.2.held.copy) hclosed
  have hslot : (library.unload loader files).2.1.slot.Houses loader.receive 0 false := by
    have hfits := hunloaded.fits
    rw [LibraryOperation.perform, hcopy] at hfits
    exact hfits
  rw [Library.ended, LibrarySlot.released_of_none hslot.vacant]
  exact hslot

end Library

/-! ## 4. Runs -/

namespace LibraryRun

open LibraryEvent

variable {loader : LibraryLoader ι} {run : LibraryRun ι}

theorem Reached.lodged (h : Reached loader run) : run.library.Lodged loader.receive := by
  induction h with
  | start directory files => exact WorkingCopy.Sound.start directory .empty
  | @performed run operation load _ ih =>
    have hloading : run.library.Lodged (loader.loading load).receive := ih
    exact hloading.perform run.files operation
  | meanwhile files _ ih => exact ih

/-- **What a library does with its instances**, and its end. -/
structure OneAtATime (loader : LibraryLoader ι) (run : LibraryRun ι) : Prop where
  /-- What is said to be loaded is. -/
  agrees : run.library.isLoaded = run.library.current.loaded
  /-- There is one instance at a time, -/
  before : run.library.slot.OneAtATime loader.receive
  /-- also when the library has come to its end. -/
  ended : ∀ files, (run.library.ended loader files).OneAtATime loader.receive
  /-- No instance is alive then, -/
  vacated : ∀ files, (run.library.ended loader files).loaded = none
  /-- and each that was loaded has been dropped. -/
  dropped : ∀ files before copy content fresh after,
    (run.library.ended loader files).events =
      before ++ .tried copy content (.ok fresh) :: after →
    ∃ (calls : List LibraryCall) (later : List (LibraryEvent ι)), after = calls.map .received ++
      .dropped (calls.foldl (fun made call => loader.receive call made) fresh) :: later

/-- **A library has one instance at a time**, and drops each of them once. -/
theorem Reached.oneAtATime (h : Reached loader run) : run.OneAtATime loader := by
  have hlodged := h.lodged
  have hslot : run.library.slot.Houses loader.receive 0 run.library.held.copy.isSome :=
    hlodged.fits
  have hvacated : ∀ files, (run.library.ended loader files).loaded = none :=
    fun files => (hlodged.ended files).vacant
  refine ⟨hslot.loaded.trans hlodged.copy_isSome, .of_houses hslot,
    fun files => .of_houses (hlodged.ended files), hvacated, ?_⟩
  intro files before copy content fresh after hsplit
  have hended := LibrarySlot.OneAtATime.of_houses (hlodged.ended files)
  obtain ⟨calls, ⟨-, halive⟩ | ⟨later, hafter⟩⟩ :=
    hended.leaves before copy content fresh after hsplit
  · rw [hvacated files] at halive
    cases halive
  · exact ⟨calls, later, hafter⟩

/-- A library is loaded and swapped for one that cannot be loaded, and then for itself. -/
def swaps : LibraryRun Recorder :=
  let operations : List LibraryOperation :=
    [.setPath (some ⟨"/a.so"⟩), .load, .setPath (some ⟨"/bad.so"⟩), .setPath (some ⟨"/a.so"⟩)]
  let files : FileTree :=
    { entries := [(["work"], .directory 0o755), (["a.so"], .file 0o755 (.octets [65])),
        (["bad.so"], .file 0o755 (.octets [98, 97, 100]))]
      here := [] }
  operations.foldl (fun run operation => run.perform Recorder.loader operation)
    (.start ⟨"/work"⟩ files)

/-- **Two of three loads succeed**; the first instance is gone, and the second one goes with the
library. -/
theorem swaps_oneAtATime :
    Reached Recorder.loader swaps ∧ swaps.OneAtATime Recorder.loader ∧
      swaps.library.slot.events.length = 4 ∧ swaps.library.slot.loaded = some ⟨"A", true⟩ ∧
      loads swaps.library.slot.events = 2 ∧ drops swaps.library.slot.events = 1 ∧
      swaps.library.slot.changes = 3 ∧
      (swaps.library.ended Recorder.loader swaps.files).changes = 4 := by
  have hreached : Reached Recorder.loader swaps := (Reached.start _ _).foldl _
  exact ⟨hreached, hreached.oneAtATime, by decide +kernel, by decide +kernel, by decide +kernel,
    by decide +kernel, by decide +kernel, by decide +kernel⟩

end LibraryRun

end RenderSync
