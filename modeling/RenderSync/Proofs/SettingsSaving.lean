import RenderSync.Proofs.NewDirectories
import RenderSync.Proofs.SettingsStore

/-!
# Saving settings

Settings are saved in four steps: the directory of the file is made if it is missing, a draft is
written beside the file, it gets the mode of the file, and it is moved to the file's place.  Each
step can fail, and each leaves the file as it was until the last one succeeds.  Making the directory
leaves what the path of the file finds as it was (`Prepared`), a draft that is written is a file in
a place of its own (`Drafted`), and once it is moved it is the file (`Replaced`).  So saving is all
or nothing (`IsAtomic`), and initializing is saving where there is no file.

There are two provisos.  The path has to be `Clear`: if there is a link where the draft goes, the
draft is written to wherever the link leads.  And if the path leads up from a directory that is only
made for the save, a save that fails may open a way to a file that was there all along
(`failed_save_opens_path`); so what a failed save leaves at the path is said of those only that do
not (`ClimbsFromThere`).
-/

namespace RenderSync

namespace FileTree

variable {tree before after : FileTree} {path : Path} {place : Place}

/-! ## 1. Modes -/

/-- Another mode leaves every entry where it is. -/
theorem isSome_setMode {mode : Nat} (hset : before.setMode path mode = some after)
    (other : Place) : (after.get? other).isSome = (before.get? other).isSome := by
  obtain rfl | ⟨place, entry, -, -, hentry, rfl⟩ := setMode_cases hset
  · rfl
  · rw [get?_put]
    split
    · next hother => rw [hother, hentry]; rfl
    · rfl

/-- It closes no way. -/
theorem KeepsWays.setMode {mode : Nat} (hset : before.setMode path mode = some after) :
    before.KeepsWays after := by
  have hback := KeepsWays.of_setMode hset
  refine ⟨hback.here.symm, fun {other} hdirectory => ?_, fun other => (hback.link other).symm⟩
  obtain rfl | ⟨place, entry, -, -, hentry, rfl⟩ := setMode_cases hset
  · exact hdirectory
  · by_cases hother : other = place
    · subst hother
      cases entry <;> simp_all [isDirectoryAt, Entry.withMode]
    · simpa [isDirectoryAt, hother] using hdirectory

/-- What is taken away opens and closes no way, if it is neither a directory nor a link. -/
theorem KeepsWays.erase (hdirectory : tree.isDirectoryAt place = false)
    (hlink : tree.linkAt? place = none) : tree.KeepsWays (tree.erase place) := by
  refine ⟨rfl, fun {other} hthere => ?_, fun other => ?_⟩
  · have hother : other ≠ place := by
      rintro rfl
      exact absurd (hthere.symm.trans hdirectory) (by decide)
    simpa [isDirectoryAt, hother] using hthere
  · by_cases hother : other = place
    · rw [hother, hlink, FileTree.linkAt?, get?_erase, if_pos rfl]
    · simp [FileTree.linkAt?, hother]

/-- Where ways are kept, what is no directory was none. -/
theorem KeepsWays.isDirectoryAt_false (h : before.KeepsWays after)
    (hafter : after.isDirectoryAt place = false) : before.isDirectoryAt place = false := by
  cases hbefore : before.isDirectoryAt place with
  | false => rfl
  | true => exact absurd ((h.directory hbefore).symm.trans hafter) (by decide)

/-- Nothing is moved over a directory. -/
theorem isDirectoryAt_of_rename {source target : Path}
    (hmoved : before.rename source target = some after)
    (hplace : before.locateLink? target = some place) :
    place ≠ [] ∧ before.isDirectoryAt place = false := by
  obtain ⟨origin, -, hmoved⟩ := Option.bind_eq_some_iff.mp hmoved
  obtain ⟨found, hfound, hmoved⟩ := Option.bind_eq_some_iff.mp hmoved
  obtain rfl : place = found := Option.some.inj (hplace.symm.trans hfound)
  obtain ⟨entry, -, hmoved⟩ := Option.bind_eq_some_iff.mp hmoved
  split at hmoved
  · cases hmoved
  · split at hmoved
    · cases hmoved
    · next hfree =>
      simp only [Bool.or_eq_true, decide_eq_true_eq, not_or, Bool.not_eq_true] at hfree
      exact ⟨hfree.1.1, hfree.1.2⟩

/-- Where the same ways are open, paths lead to the same places. -/
theorem KeepsWays.locate?_eq (h : before.KeepsWays after) (h' : after.KeepsWays before)
    (path : Path) : after.locate? path = before.locate? path := by
  cases hbefore : before.locate? path with
  | some place => exact h.locate? hbefore
  | none =>
    cases hafter : after.locate? path with
    | none => rfl
    | some place => exact absurd ((h'.locate? hafter).symm.trans hbefore) (by simp)

/-- The last step can be taken whatever is there. -/
theorem walkThrough_false {steps : List String} {step : String} {next : Place} (fuel : Nat) :
    ∀ {place arrived : Place}, tree.walkThrough true fuel place steps = some arrived →
      tree.walk arrived step = some next →
      tree.walkThrough false fuel place (steps ++ [step]) = some next := by
  induction fuel generalizing steps with
  | zero => exact fun harrived => nomatch harrived
  | succ fuel ih =>
    intro place arrived harrived hstep
    rw [walkThrough] at harrived ⊢
    rw [walkOn_concat]
    rcases hwalked : tree.walkOn true place steps with _ | ⟨place' | ⟨directory, target, rest⟩⟩ <;>
      rw [hwalked] at harrived
    · cases harrived
    · obtain rfl : place' = arrived := Option.some.inj harrived
      simp [hstep]
    · simp only [Option.bind_eq_bind, Option.bind_some] at harrived ⊢
      rw [← List.append_assoc]
      exact ih harrived hstep

/-- **A path that leads somewhere names a place**, perhaps that of a link. -/
theorem locateLink?_of_locate? (hplace : tree.locate? path = some place) :
    ∃ named, tree.locateLink? path = some named := by
  obtain ⟨husable, hleads⟩ := locate?_iff_leads?.mp hplace
  rcases List.eq_nil_or_concat path.pieces with hnil | ⟨steps, last, hpieces⟩
  · exact absurd (List.map_eq_nil_iff.mp hnil) (Text.splitAt_ne_nil _ _)
  rw [List.concat_eq_append] at hpieces
  rw [hpieces] at hleads
  obtain ⟨above, next, habove, hstep, -⟩ := walkThrough_of_concat _ hleads
  refine ⟨next, locateLink?_iff_leads?.mpr ⟨husable, ?_⟩⟩
  rw [hpieces]
  exact walkThrough_false _ habove hstep

/-- What a path finds is what is in the place that it names. -/
theorem findLink?_of_place (hnamed : tree.locateLink? path = some place) (hroot : place ≠ []) :
    tree.findLink? path = tree.get? place := by
  rw [findLink?, hnamed, Option.bind_some, entryAt?, if_neg hroot]

/-- No link is in the place that a path names, if the path finds none. -/
theorem linkAt?_of_findLink? (hrooted : tree.IsRooted)
    (hnamed : tree.locateLink? path = some place)
    (hfound : ∀ entry, tree.findLink? path = some entry → entry.isLink = false) :
    tree.linkAt? place = none := by
  by_cases hroot : place = []
  · rw [hroot]
    exact hrooted
  rw [findLink?_of_place hnamed hroot] at hfound
  unfold FileTree.linkAt?
  split
  · next target hlink => cases hfound _ hlink
  · rfl

/-- What is written to a place is a file there, unless a device swallows it. -/
theorem isFree_of_writeContent {mode : Nat} {content : Content}
    (hplace : before.locate? path = some place) (hnamed : before.locateLink? path = some place)
    (hfound : ∀ entry, before.findLink? path = some entry → entry.isDevice = false)
    (hwritten : before.writeContent mode path content = some after) : before.IsFree place := by
  rw [writeContent, hplace, Option.bind_eq_bind, Option.bind_some] at hwritten
  split at hwritten
  · cases hwritten
  next hroot =>
  rw [findLink?_of_place hnamed hroot] at hfound
  refine ⟨hroot, fun entry hentry => ?_⟩
  rw [hentry] at hwritten
  cases entry with
  | file => rfl
  | device => cases hfound _ hentry
  | directory | link | pipe => cases hwritten

/-- What is there gets its mode. -/
theorem setMode_of_entry {entry : Entry} (hplace : before.locate? path = some place)
    (hroot : place ≠ []) (hentry : before.get? place = some entry) (mode : Nat) :
    before.setMode path mode = some (before.put place (entry.withMode mode)) := by
  rw [FileTree.setMode, hplace, Option.bind_eq_bind, Option.bind_some,
    find?_of_place hplace hroot, hentry, Option.bind_eq_bind, Option.bind_some, if_neg hroot]

/-- What is found has perhaps another mode, but is found as before. -/
theorem isSome_find?_setMode {mode : Nat} (hset : before.setMode path mode = some after)
    (other : Path) : (after.find? other).isSome = (before.find? other).isSome := by
  rw [find?, find?, KeepsWays.locate?_eq (.setMode hset) (.of_setMode hset)]
  cases before.locate? other with
  | none => rfl
  | some place =>
    rw [Option.bind_some, Option.bind_some, entryAt?, entryAt?]
    split
    · rfl
    · exact isSome_setMode hset place

theorem IsWhole.setMode {mode : Nat} (h : before.IsWhole)
    (hset : before.setMode path mode = some after) : after.IsWhole :=
  h.of_keepsWays (.setMode hset) fun hthere => Or.inl ((isSome_setMode hset _).symm.trans hthere)

/-- The mode of a directory may change. -/
theorem KeepsOutside.setMode {mode : Nat} (hdirectory : before.isDirectory path = true)
    (hset : before.setMode path mode = some after) :
    KeepsOutside (fun _ => False) before after := by
  obtain rfl | ⟨place, entry, hplace, hroot, hentry, rfl⟩ := setMode_cases hset
  · exact .refl _ _
  intro other _
  by_cases hother : other = place
  · rw [isDirectory, find?_of_place hplace hroot, hentry] at hdirectory
    rw [hother, get?_put, if_pos rfl, hentry]
    cases entry with
    | directory => exact Or.inr ⟨rfl, rfl⟩
    | file | link | pipe | device => cases hdirectory
  · rw [get?_put, if_neg hother]
    exact Or.inl rfl

/-- A mode that only something new gets changes none of before. -/
theorem KeepsModes.setMode {mode : Nat} {made : FileTree} (h : before.KeepsModes made)
    (hnew : ∀ {place}, made.locate? path = some place → before.get? place = none)
    (hset : made.setMode path mode = some after) : before.KeepsModes after := by
  obtain rfl | ⟨place, entry, hplace, -, -, rfl⟩ := setMode_cases hset
  · exact h
  intro other found hfound
  rw [get?_put, if_neg]
  · exact h other found hfound
  · rintro rfl
    rw [hnew hplace] at hfound
    cases hfound

end FileTree

namespace Settings

open FileTree

variable {tree ready after : FileTree} {file directory : Path} {settings : Settings}

/-! ## 2. The directory of the file -/

/-- The directory of a file is made ready: everything is kept, and if the path of the file leads up
only from what was there, then it finds what it found before and no directory has got another
mode. -/
structure Prepared (tree : FileTree) (file : Path) (ready : FileTree) : Prop where
  whole : ready.IsWhole
  kept : KeepsOutside (fun _ => False) tree ready
  same : tree.ClimbsFromThere file →
    ready.find? file = tree.find? file ∧ tree.KeepsModes ready

theorem Prepared.refl (h : tree.IsWhole) (file : Path) : Prepared tree file tree :=
  ⟨h, .refl _ tree, fun _ => ⟨rfl, .refl tree⟩⟩

/-- **Directories are made where one was missing**, all of them or some. -/
theorem Prepared.layDirectories (h : tree.IsWhole) (habove : IsAbove directory file)
    (hmissing : tree.contains directory = false) :
    Prepared tree file (tree.layDirectories directory).2 := by
  have hlays := tree.lays_layDirectories directory
  have hgrows := Grows.of_lays hlays
  have hwhole := h.lays hlays
  refine ⟨hwhole, .of_lays hlays, fun hclimbs => ⟨?_, fun _ _ hentry => hgrows.entry hentry⟩⟩
  rcases isNew_of_layDirectories h (habove.climbs hclimbs) with hsame | hnew
  · rw [hsame]
  · have hbefore := habove.find?_of_missing h.rooted hmissing
    exact (habove.find?_of_isNew hwhole.rooted hgrows hclimbs hnew).trans hbefore.symm

/-- **The directory gets its mode**, if it could be made. -/
theorem Prepared.makeRoot (h : tree.IsWhole) (habove : IsAbove directory file)
    (hmissing : tree.contains directory = false) :
    Prepared tree file (makeRoot tree directory).2 := by
  have hprepared := Prepared.layDirectories h habove hmissing
  unfold Settings.makeRoot
  rcases hlaid : tree.layDirectories directory with ⟨_ | _, laid⟩ <;> rw [hlaid] at hprepared
  · exact hprepared
  dsimp only
  split
  · exact hprepared
  next set hset =>
  have hdirectory := isDirectory_of_layDirectories habove.text hlaid
  refine ⟨hprepared.whole.setMode hset, hprepared.kept.trans (.setMode hdirectory hset) fun _ => id,
    fun hclimbs => ?_⟩
  obtain ⟨hsame, hmodes⟩ := hprepared.same hclimbs
  have hbefore := habove.find?_of_missing h.rooted hmissing
  have hfound := isSome_find?_setMode hset file
  rw [hsame, hbefore, Option.isSome_none, Option.isSome_eq_false_iff,
    Option.isNone_iff_eq_none] at hfound
  refine ⟨hfound.trans hbefore.symm, ?_⟩
  -- the directory was missing, and so it is new
  have hnew := isNew_of_layDirectories h (habove.climbs hclimbs)
  rw [hlaid] at hnew
  refine hmodes.setMode (fun hplace => (hnew.resolve_left ?_ hplace).before) hset
  rintro rfl
  exact absurd ((contains_of_isDirectory hdirectory).symm.trans hmissing) (by decide)

/-- **Making the directory of a file ready**, be it there or not. -/
theorem prepared_ensureParent (h : tree.IsWhole) (file : Path) :
    Prepared tree file (ensureParent tree file).2 := by
  unfold ensureParent
  split
  · exact .refl h file
  next parent hparent =>
  split
  · exact .refl h file
  next hempty =>
  unfold ensureRoot
  split
  · exact .refl h file
  next hmissing =>
  exact .makeRoot h ⟨hparent, hempty⟩ (Bool.not_eq_true _ ▸ hmissing)

/-! ## 3. The draft -/

/-- **A path is clear**: once the directory of the file is made, nobody has put a link or a device
where the draft goes, and a link in the place of the file is not on the way to it. -/
structure Clear (tree : FileTree) (file : Path) : Prop where
  draft : ∀ entry, (ensureParent tree file).2.findLink? (draftOf file) = some entry →
    entry.isLink = false ∧ entry.isDevice = false
  past : ∀ place, (ensureParent tree file).2.locateLink? file = some place →
    ((ensureParent tree file).2.linkAt? place).isSome = true →
    ((ensureParent tree file).2.erase place).locateLink? file = some place

/-- **A draft is written**: it is a file in a place of its own, and nothing else has changed. -/
structure Drafted (ready : FileTree) (draft : Path) (place : Place) (mode : Nat)
    (content : Content) (moved : FileTree) : Prop where
  named : ready.locateLink? draft = some place
  free : ready.IsFree place
  ways : ready.KeepsWays moved
  back : moved.KeepsWays ready
  entry : moved.get? place = some (.file mode content)
  others : ∀ other, other ≠ place → moved.get? other = ready.get? other

/-- **A draft that can be written gets its mode**, too. -/
theorem drafted_of_writeContent {draft : Path} {content : Content} {mode mode' : Nat}
    {written : FileTree} (hrooted : ready.IsRooted)
    (hdraft : ∀ entry, ready.findLink? draft = some entry →
      entry.isLink = false ∧ entry.isDevice = false)
    (hwritten : ready.writeContent mode draft content = some written) :
    ∃ place moved, written.setMode draft mode' = some moved ∧
      Drafted ready draft place mode' content moved := by
  obtain ⟨place, hplace, -⟩ := Option.bind_eq_some_iff.mp hwritten
  obtain ⟨named, hnamed⟩ := locateLink?_of_locate? hplace
  -- the draft's path ends at no link, and so what is written is what it names
  have hlink := linkAt?_of_findLink? hrooted hnamed fun entry hentry => (hdraft entry hentry).1
  obtain rfl : named = place :=
    Option.some.inj ((locate?_of_locateLink? hnamed hlink).symm.trans hplace)
  have hfree : ready.IsFree named :=
    isFree_of_writeContent hplace hnamed (fun entry hentry => (hdraft entry hentry).2) hwritten
  obtain ⟨kept, rfl⟩ := hfree.writeContent hplace hwritten
  have hput (other : Place) : ((ready.put named (.file kept content)).stamp named).get? other =
      if other = named then some (.file kept content) else ready.get? other :=
    get?_put ready named other (.file kept content)
  have hways : ready.KeepsWays ((ready.put named (.file kept content)).stamp named) :=
    .stamp (hfree.put kept content) named
  have hset := setMode_of_entry (hways.locate? hplace) hfree.1 ((hput named).trans (if_pos rfl))
    mode'
  refine ⟨named, _, hset, hnamed, hfree, hways.trans (.setMode hset),
    (KeepsWays.of_setMode hset).trans (.of_writeContent hwritten), ?_, fun other hother => ?_⟩
  · rw [get?_put, if_pos rfl]
    rfl
  · rw [get?_put, if_neg hother, hput, if_neg hother]

variable {draft : Path} {place : Place} {mode : Nat} {content : Content} {moved : FileTree}

/-- A file is no directory. -/
theorem Drafted.isDirectoryAt (h : Drafted ready draft place mode content moved) :
    moved.isDirectoryAt place = false := by
  simp [FileTree.isDirectoryAt, h.free.1, h.entry]

theorem Drafted.whole (h : Drafted ready draft place mode content moved)
    (hwhole : ready.IsWhole) : moved.IsWhole := by
  have hready := h.ways.isDirectoryAt_false h.isDirectoryAt
  obtain ⟨-, name, above, -, -, -, -, habove, hplace⟩ := hwhole.last_step h.named hready
  refine hwhole.of_keepsWays h.ways fun {other last} hthere => ?_
  by_cases hsame : other ++ [last] = place
  · obtain ⟨rfl, -⟩ := List.append_inj' (hsame.trans hplace) rfl
    exact Or.inr habove
  · rw [h.others _ hsame] at hthere
    exact Or.inl hthere

/-- A file that is not moved stays, and so does everything else but the draft. -/
theorem Drafted.keepsOutside (h : Drafted ready draft place mode content moved) :
    KeepsOutside (fun other => ready.locateLink? draft = some other) ready moved :=
  .of_eq fun _ hother => h.others _ fun hsame => hother (hsame ▸ h.named)

/-- The draft is in nobody's place. -/
theorem Drafted.keepsModes (h : Drafted ready draft place mode content moved) :
    ready.KeepsModes moved := by
  intro other mode hentry
  rw [h.others other]
  · exact hentry
  · rintro rfl
    exact absurd (h.free.2 _ hentry) Bool.false_ne_true

/-- **A draft can be moved to whatever is no directory.** -/
theorem Drafted.rename (h : Drafted ready draft place mode content moved)
    (hwhole : ready.IsWhole) {target : Place} (hnamed : moved.locateLink? file = some target)
    (hdirectory : moved.isDirectoryAt target = false) :
    moved.rename draft file = some ((moved.erase place).put target (.file mode content)) := by
  obtain ⟨-, name, above, -, -, -, -, habove, rfl⟩ :=
    (h.whole hwhole).last_step hnamed hdirectory
  rw [FileTree.rename, h.ways.locateLink? h.named, hnamed]
  simp only [Option.bind_eq_bind, Option.bind_some, h.entry, hdirectory, habove,
    List.dropLast_concat]
  simp

/-- **If it cannot be moved, the file is what it was.** -/
theorem Drafted.find?_of_rename (h : Drafted ready draft place mode content moved)
    (hwhole : ready.IsWhole) (hfailed : moved.rename draft file = none) :
    moved.find? file = ready.find? file := by
  have hlocated := h.ways.locate?_eq h.back file
  rw [find?, find?, hlocated]
  cases hplace : ready.locate? file with
  | none => rfl
  | some found =>
    rw [Option.bind_some, Option.bind_some, entryAt?, entryAt?, h.others]
    rintro rfl
    have hthere : moved.locate? file = some found := hlocated.trans hplace
    obtain ⟨named, hnamed⟩ := locateLink?_of_locate? hthere
    -- the file's path cannot name a directory and lead to the draft
    have hdirectory : moved.isDirectoryAt named = false := by
      cases hdirectory : moved.isDirectoryAt named with
      | false => rfl
      | true =>
        have hfree := (h.whole hwhole).rooted.linkAt? hdirectory
        obtain rfl : named = found :=
          Option.some.inj ((locate?_of_locateLink? hnamed hfree).symm.trans hthere)
        exact absurd (hdirectory.symm.trans h.isDirectoryAt) (by decide)
    rw [h.rename hwhole hnamed hdirectory] at hfailed
    cases hfailed

/-- **The path of a draft goes beside that of the file**: by the same steps, but to another name. -/
structure Beside (draft file : Path) (steps : List String) (last name : String) : Prop where
  filePieces : file.pieces = steps ++ [name]
  draftPieces : draft.pieces = steps ++ [last]
  absolute : draft.isAbsolute = file.isAbsolute
  apart : last ≠ name
  nameLeads : Path.isStay name = false ∧ name ≠ ".."
  lastLeads : Path.isStay last = false ∧ last ≠ ".."

/-- The draft of a file goes beside it, where neither is a directory. -/
theorem beside_draftOf (hwhole : ready.IsWhole) {target : Place}
    (hplace : ready.locateLink? (draftOf file) = some place)
    (hdraft : ready.isDirectoryAt place = false)
    (htarget : ready.locateLink? file = some target)
    (hfile : ready.isDirectoryAt target = false) :
    ∃ steps last name above, Beside (draftOf file) file steps last name ∧
      target = above ++ [name] ∧ place = above ++ [last] := by
  obtain ⟨steps, name, above, hpieces, hname, hup, habove, -, htarget⟩ :=
    hwhole.last_step htarget hfile
  obtain ⟨steps', last, above', hpieces', hlast, hup', habove', -, hplace⟩ :=
    hwhole.last_step hplace hdraft
  obtain ⟨hsibling, habsolute⟩ :=
    @Path.pieces_withExtension file steps name "yaml.tmp" hpieces hname hup (by decide)
  obtain ⟨rfl, hsame⟩ := List.append_inj' (hpieces'.symm.trans hsibling) rfl
  have hother : last ≠ name := by
    rw [(List.cons.inj hsame).1]
    exact Path.stem_append_ne name
  have hstart : ready.leads? true (draftOf file) steps' = ready.leads? true file steps' := by
    rw [leads?, leads?, draftOf, habsolute]
  obtain rfl : above' = above :=
    Option.some.inj (habove'.symm.trans (hstart.trans habove))
  exact ⟨steps', last, name, above',
    ⟨hpieces, hpieces', habsolute, hother, ⟨hname, hup⟩, hlast, hup'⟩, htarget, hplace⟩

/-- **If the draft's place is empty, there is no draft**: its steps lead where those of the file
lead. -/
theorem Beside.contains {steps : List String} {last name : String} {above : Place}
    (h : Beside draft file steps last name)
    (hreached : tree.locateLink? file = some (above ++ [name]))
    (hempty : tree.get? (above ++ [last]) = none) : tree.contains draft = false := by
  obtain ⟨-, hfile⟩ := locateLink?_iff_leads?.mp hreached
  rw [h.filePieces] at hfile
  obtain ⟨reached, next, hreached, hstep, hnext⟩ := walkThrough_of_concat _ hfile
  obtain rfl : above = reached := by
    rcases walk_cases hstep with ⟨hstay, -⟩ | ⟨hdots, -⟩ | ⟨-, -, hbelow⟩
    · exact absurd (hstay.symm.trans h.nameLeads.1) (by decide)
    · exact absurd hdots h.nameLeads.2
    · exact (List.append_inj' ((hnext rfl).symm.trans hbelow) rfl).1
  rw [FileTree.contains, Option.isSome_eq_false_iff, Option.isNone_iff_eq_none, find?,
    Option.bind_eq_none_iff]
  intro found hfound
  obtain ⟨-, hleads⟩ := locate?_iff_leads?.mp hfound
  rw [h.draftPieces, leads?, h.absolute] at hleads
  obtain ⟨reached', next', hreached', hstep', -⟩ := walkThrough_of_concat _ hleads
  obtain rfl : above = reached' := Option.some.inj (hreached.symm.trans hreached')
  rcases walk_cases hstep' with ⟨hstay, -⟩ | ⟨hdots, -⟩ | ⟨-, -, rfl⟩
  · exact absurd (hstay.symm.trans h.lastLeads.1) (by decide)
  · exact absurd hdots h.lastLeads.2
  · have hthere := walkThrough_concat true _ hreached' hstep' (by rw [FileTree.linkAt?, hempty])
    obtain rfl := Option.some.inj (hleads.symm.trans hthere)
    rw [entryAt?, if_neg (by simp), hempty]

/-- **A draft is moved**: it is in the place of the file, its own is empty, and nothing else has
changed. -/
structure Replaced (ready : FileTree) (place target : Place) (mode : Nat) (content : Content)
    (after : FileTree) : Prop where
  here : after.here = ready.here
  entry : after.get? target = some (.file mode content)
  gone : after.get? place = none
  others : ∀ other, other ≠ target → other ≠ place → after.get? other = ready.get? other

theorem Drafted.replaced (h : Drafted ready draft place mode content moved) {target : Place}
    (htarget : moved.locateLink? file = some target) (hapart : place ≠ target)
    (hmoved : moved.rename draft file = some after) :
    Replaced ready place target mode content after := by
  obtain ⟨origin, target', entry, horigin, htarget', hentry, rfl⟩ := rename_cases hmoved
  obtain rfl : place = origin :=
    Option.some.inj ((h.ways.locateLink? h.named).symm.trans horigin)
  obtain rfl : target = target' := Option.some.inj (htarget.symm.trans htarget')
  obtain rfl : .file mode content = entry := Option.some.inj (h.entry.symm.trans hentry)
  refine ⟨h.ways.here, ?_, ?_, fun other hother hdraft => ?_⟩
  · rw [get?_put, if_pos rfl]
  · rw [get?_put, if_neg hapart, get?_erase, if_pos rfl]
  · rw [get?_put, if_neg hother, get?_erase, if_neg hdraft]
    exact h.others other hdraft

/-- Neither was a directory in these places, nor is one. -/
theorem Replaced.keepsModes {target : Place} (h : Replaced ready place target mode content after)
    (hdraft : ready.isDirectoryAt place = false) (hfile : ready.isDirectoryAt target = false) :
    ready.KeepsModes after := by
  have hno {other : Place} {mode : Nat} (hentry : ready.get? other = some (.directory mode)) :
      ready.isDirectoryAt other = true := by simp [FileTree.isDirectoryAt, hentry]
  intro other mode hentry
  rw [h.others other]
  · exact hentry
  · rintro rfl
    exact absurd ((hno hentry).symm.trans hfile) (by decide)
  · rintro rfl
    exact absurd ((hno hentry).symm.trans hdraft) (by decide)

/-- Without what was in the place of the file, the ways of before are open still. -/
theorem Replaced.keepsWays {target : Place} (h : Replaced ready place target mode content after)
    (hdirectory : ready.isDirectoryAt place = false) (hlink : ready.linkAt? place = none) :
    (ready.erase target).KeepsWays after := by
  refine ⟨h.here, fun {other} hthere => ?_, fun other => ?_⟩
  · by_cases hroot : other = []
    · simp [FileTree.isDirectoryAt, hroot]
    have htarget : other ≠ target := by
      rintro rfl
      simp [FileTree.isDirectoryAt, hroot] at hthere
    rw [FileTree.isDirectoryAt, get?_erase, if_neg htarget] at hthere
    have hdraft : other ≠ place := by
      rintro rfl
      exact absurd (hthere.symm.trans hdirectory) (by decide)
    rw [FileTree.isDirectoryAt, h.others other htarget hdraft]
    exact hthere
  · rw [FileTree.linkAt?, FileTree.linkAt?, get?_erase]
    by_cases htarget : other = target
    · rw [if_pos htarget, htarget, h.entry]
    rw [if_neg htarget]
    by_cases hdraft : other = place
    · rw [hdraft, h.gone]
      exact hlink.symm
    · rw [h.others other htarget hdraft]

/-- **The path of the file still leads to its place**, unless a link was there that was on the
way. -/
theorem Replaced.locateLink? {target : Place}
    (h : Replaced ready place target mode content after)
    (hdirectory : ready.isDirectoryAt place = false) (hlink : ready.linkAt? place = none)
    (hfile : ready.isDirectoryAt target = false) (htarget : ready.locateLink? file = some target)
    (hpast : (ready.linkAt? target).isSome = true →
      (ready.erase target).locateLink? file = some target) :
    after.locateLink? file = some target := by
  refine (h.keepsWays hdirectory hlink).locateLink? ?_
  cases htargetLink : ready.linkAt? target with
  | none => exact (KeepsWays.erase hfile htargetLink).locateLink? htarget
  | some link => exact hpast (by rw [htargetLink]; rfl)

/-- **A draft that is moved is the file**, there is no draft any more, and nothing else has
changed. -/
theorem Drafted.of_rename (h : Drafted ready (draftOf file) place mode content moved)
    (hwhole : ready.IsWhole)
    (hpast : ∀ place, ready.locateLink? file = some place → (ready.linkAt? place).isSome = true →
      (ready.erase place).locateLink? file = some place)
    (hmoved : moved.rename (draftOf file) file = some after) :
    after.find? file = some (.file mode content) ∧ after.contains (draftOf file) = false ∧
      KeepsOutside (fun other => ready.locateLink? (draftOf file) = some other ∨
        ready.locateLink? file = some other) ready after ∧ ready.KeepsModes after := by
  obtain ⟨-, target, -, -, htarget, -⟩ := rename_cases hmoved
  obtain ⟨hroot, hfile⟩ := isDirectoryAt_of_rename hmoved htarget
  have hnamed := h.back.locateLink? htarget
  have hdraftPlace := h.ways.isDirectoryAt_false h.isDirectoryAt
  have hfilePlace := h.ways.isDirectoryAt_false hfile
  obtain ⟨steps, last, name, above, hbeside, rfl, rfl⟩ :=
    beside_draftOf hwhole h.named hdraftPlace hnamed hfilePlace
  have hapart : above ++ [last] ≠ above ++ [name] := by simpa using hbeside.apart
  have hreplaced := h.replaced htarget hapart hmoved
  have hreached := hreplaced.locateLink? hdraftPlace h.free.linkAt? hfilePlace hnamed
    (hpast _ hnamed)
  refine ⟨?_, hbeside.contains hreached hreplaced.gone, .of_eq fun other hother => ?_,
    hreplaced.keepsModes hdraftPlace hfilePlace⟩
  · have hlocated := locate?_of_locateLink? hreached
      (by rw [FileTree.linkAt?, hreplaced.entry])
    rw [find?_of_place hlocated hroot, hreplaced.entry]
  · rw [not_or] at hother
    exact hreplaced.others other (fun hsame => hother.2 (hsame ▸ hnamed))
      fun hsame => hother.1 (hsame ▸ h.named)

/-! ## 4. Saving and initializing -/

/-- The draft goes here. -/
def IsDraftPlace (tree : FileTree) (file : Path) (place : Place) : Prop :=
  (ensureParent tree file).2.locateLink? (draftOf file) = some place

/-- The file goes here. -/
def IsFilePlace (tree : FileTree) (file : Path) (place : Place) : Prop :=
  (ensureParent tree file).2.locateLink? file = some place

/-- **All or nothing.**  If saving fails, everything is kept but the draft; and if the path of the
file leads up only from what was there, the file is what it was and loads as before.  If it
succeeds, the file holds the settings with its mode and loads as these, there is no draft, and
everything else is kept. -/
inductive IsAtomic {α : Type} (tree : FileTree) (file : Path) (settings : Settings) :
    Except SettingsError α × FileTree → Prop
  | failed {e : SettingsError} {after : FileTree}
      (kept : KeepsOutside (IsDraftPlace tree file) tree after)
      (same : tree.ClimbsFromThere file → (after.find? file = tree.find? file ∧
        load after file = load tree file) ∧ tree.KeepsModes after) :
      IsAtomic tree file settings (.error e, after)
  | saved {answer : α} {after : FileTree}
      (found : after.find? file =
        some (.file fileMode (.octets (Utf8.encode settings.toDocument))))
      (loaded : load after file = .ok settings) (gone : after.contains (draftOf file) = false)
      (kept : KeepsOutside (fun place => IsDraftPlace tree file place ∨ IsFilePlace tree file place)
        tree after)
      (modes : tree.ClimbsFromThere file → tree.KeepsModes after) :
      IsAtomic tree file settings (.ok answer, after)

/-- What is found is what is loaded. -/
theorem load_of_find? (h : after.find? file = tree.find? file) :
    load after file = load tree file := by
  rw [load, load, contains, contains, read?, read?, content?, content?, h]

/-- **Replacing the file is all or nothing**, once its directory is ready. -/
theorem isAtomic_replaceFile (hprepared : Prepared tree file (ensureParent tree file).2)
    (hclear : Clear tree file) (settings : Settings) :
    IsAtomic tree file settings (replaceFile (ensureParent tree file).2 file settings) := by
  have hdraft := hclear.draft
  have hpast := hclear.past
  have hfailed : ∀ {after : FileTree},
      KeepsOutside (IsDraftPlace tree file) (ensureParent tree file).2 after →
      after.find? file = (ensureParent tree file).2.find? file →
      (ensureParent tree file).2.KeepsModes after →
      @IsAtomic Unit tree file settings (.error .io, after) := by
    intro after hkept hfound hmodes
    refine .failed (hprepared.kept.trans hkept fun _ => False.elim) fun hclimbs => ?_
    obtain ⟨hsame, hready⟩ := hprepared.same hclimbs
    exact ⟨⟨hfound.trans hsame, load_of_find? (hfound.trans hsame)⟩, hready.trans hmodes⟩
  unfold replaceFile
  split
  · exact hfailed (.refl _ _) rfl (.refl _)
  next written hwritten =>
  obtain ⟨place, moved, hset, hdrafted⟩ :=
    @drafted_of_writeContent _ _ _ _ fileMode _ hprepared.whole.rooted hdraft hwritten
  rw [hset]
  dsimp only
  split
  · next hstuck =>
    exact hfailed hdrafted.keepsOutside (hdrafted.find?_of_rename hprepared.whole hstuck)
      hdrafted.keepsModes
  · next after hmoved =>
    obtain ⟨hfound, hgone, hkept, hmodes⟩ := hdrafted.of_rename hprepared.whole hpast hmoved
    have hread : after.read? file = some (Utf8.encode settings.toDocument) := by
      rw [read?, content?, hfound]
      rfl
    exact .saved hfound (load_of_read hread) hgone (hprepared.kept.trans hkept fun _ => False.elim)
      fun hclimbs => (hprepared.same hclimbs).2.trans hmodes

/-- **Saving is all or nothing.** -/
theorem isAtomic_save (hwhole : tree.IsWhole) (hclear : Clear tree file) (settings : Settings) :
    IsAtomic tree file settings (save tree file settings) := by
  have hprepared := prepared_ensureParent hwhole file
  have hreplaced := isAtomic_replaceFile hprepared hclear settings
  unfold save
  rcases hready : ensureParent tree file with ⟨e | ⟨⟩, ready⟩ <;>
    rw [hready] at hprepared hreplaced
  · refine .failed (hprepared.kept.trans (.refl _ _) fun _ => False.elim) fun hclimbs => ?_
    obtain ⟨hsame, hmodes⟩ := hprepared.same hclimbs
    exact ⟨⟨hsame, load_of_find? hsame⟩, hmodes⟩
  · exact hreplaced

/-- The directory below the home directory is the one above the file there. -/
theorem parent?_fileIn (home : Path) :
    (fileIn home).parent? = some (rootIn home) ∧ (rootIn home).text ≠ "" := by
  obtain ⟨steps, isAbove, hsteps, -⟩ := home.pieces_join
  have hroot : (rootIn home).pieces = steps ++ [".shiba"] := (hsteps ".shiba" (by decide)).1
  refine ⟨Path.parent?_join hroot (by decide) (by decide) (by decide) (by decide), fun hempty => ?_⟩
  have hnone : (rootIn home).pieces = [] ++ [""] := by
    rw [Path.pieces, hempty]
    rfl
  obtain ⟨-, hlast⟩ := List.append_inj' (hroot.symm.trans hnone) rfl
  exact absurd hlast (by decide)

/-- A directory that is made ready is there. -/
theorem contains_of_ensureRoot (hempty : directory.text ≠ "")
    (h : ensureRoot tree directory = (.ok (), ready)) : ready.contains directory = true := by
  unfold ensureRoot at h
  split at h
  · next hthere =>
    cases h
    exact hthere
  unfold makeRoot at h
  split at h
  · cases h
  next laid hlaid =>
  split at h
  · cases h
  next set hset =>
  cases h
  exact (isSome_find?_setMode hset directory).trans
    (contains_of_isDirectory (isDirectory_of_layDirectories hempty hlaid))

/-- **Saving below a home directory is saving to the file there**: its directory is made ready
only once. -/
theorem saveIn_eq (tree : FileTree) (home : Path) (settings : Settings) :
    saveIn tree home settings = save tree (fileIn home) settings := by
  obtain ⟨hparent, hempty⟩ := parent?_fileIn home
  have hensure : ∀ tree, ensureParent tree (fileIn home) = ensureRoot tree (rootIn home) := by
    intro tree
    rw [ensureParent, hparent]
    exact if_neg hempty
  rcases hready : ensureRoot tree (rootIn home) with ⟨e | ⟨⟩, ready⟩
  · have hsave : save tree (fileIn home) settings = (.error e, ready) := by
      unfold save
      rw [hensure, hready]
    unfold saveIn
    rw [hready, hsave]
  · have hagain : ensureRoot ready (rootIn home) = (.ok (), ready) :=
      if_pos (contains_of_ensureRoot hempty hready)
    have hsave : ∀ {tree}, ensureRoot tree (rootIn home) = (.ok (), ready) →
        save tree (fileIn home) settings = replaceFile ready (fileIn home) settings := by
      intro tree hroot
      unfold save
      rw [hensure, hroot]
    unfold saveIn
    rw [hready, hsave hready]
    exact hsave hagain

/-- **Initializing leaves a file that is there alone.** -/
theorem initIn_of_contains {home : Path} (h : tree.contains (fileIn home) = true) :
    initIn tree home = (load tree (fileIn home), tree) := if_pos h

/-- A file that is missing is saved. -/
theorem isAtomic_initIn (hwhole : tree.IsWhole) {home : Path} (hclear : Clear tree (fileIn home))
    (hmissing : tree.contains (fileIn home) = false) :
    IsAtomic tree (fileIn home) default (initIn tree home) := by
  have hsaved := isAtomic_save hwhole hclear default
  rw [initIn, hmissing, if_neg Bool.false_ne_true, saveIn_eq]
  rcases hsave : save tree (fileIn home) default with ⟨e | ⟨⟩, after⟩ <;> rw [hsave] at hsaved
  · cases hsaved with
    | failed kept same => exact .failed kept same
  · cases hsaved with
    | saved found loaded gone kept modes => exact .saved found loaded gone kept modes

/-- **What is initialized stays as it is.** -/
theorem initIn_again (hwhole : tree.IsWhole) {home : Path} (hclear : Clear tree (fileIn home))
    (h : initIn tree home = (.ok settings, after)) : initIn after home = (.ok settings, after) := by
  cases hthere : tree.contains (fileIn home) with
  | true =>
    rw [initIn_of_contains hthere] at h
    obtain ⟨hload, rfl⟩ := Prod.mk.inj h
    rw [initIn_of_contains hthere, hload]
  | false =>
    have hatomic := isAtomic_initIn hwhole hclear hthere
    obtain rfl : settings = default := by
      rw [initIn, hthere, if_neg Bool.false_ne_true] at h
      rcases hsave : saveIn tree home default with ⟨e | ⟨⟩, saved⟩ <;> rw [hsave] at h
      · cases h
      · cases h
        rfl
    rw [h] at hatomic
    cases hatomic with
    | saved hfound hload =>
      rw [initIn_of_contains (by rw [contains, hfound]; rfl), hload]

/-- **Settings are saved in full or not at all, and initializing overwrites nothing.**  In any tree,
and for any path that is clear, saving is all or nothing; so is saving below a home directory, and
initializing where there is no file.  Initializing where there is one changes nothing at all, and
once it has succeeded it answers the same again and changes nothing. -/
theorem save_atomic (hwhole : tree.IsWhole) :
    (∀ file settings, Clear tree file →
      IsAtomic tree file settings (save tree file settings)) ∧
    ∀ home,
      (tree.contains (fileIn home) = true →
        initIn tree home = (load tree (fileIn home), tree)) ∧
      (Clear tree (fileIn home) →
        (∀ settings, IsAtomic tree (fileIn home) settings (saveIn tree home settings)) ∧
        (tree.contains (fileIn home) = false →
          IsAtomic tree (fileIn home) default (initIn tree home)) ∧
        ∀ settings after, initIn tree home = (.ok settings, after) →
          initIn after home = (.ok settings, after)) := by
  refine ⟨fun file settings hclear => isAtomic_save hwhole hclear settings, fun home =>
    ⟨initIn_of_contains, fun hclear => ⟨fun settings => ?_, isAtomic_initIn hwhole hclear,
      fun settings after => initIn_again hwhole hclear⟩⟩⟩
  rw [saveIn_eq]
  exact isAtomic_save hwhole hclear settings

/-! ## 5. Two homes -/

/-- A tree is whole if its entries say so. -/
theorem isWhole_of_entries (hrooted : tree.IsRooted)
    (habove : ∀ entry ∈ tree.entries, tree.isDirectoryAt entry.1.dropLast = true) :
    tree.IsWhole := by
  refine ⟨hrooted, fun {place name} hthere => ?_⟩
  obtain ⟨entry, hentry⟩ := Option.isSome_iff_exists.mp hthere
  obtain ⟨before, after, hentries, -⟩ := List.lookup_eq_some_iff.mp hentry
  have hmem : (place ++ [name], entry) ∈ tree.entries := by
    rw [hentries]
    exact List.mem_append_right before List.mem_cons_self
  have hdirectory := habove _ hmem
  rwa [List.dropLast_concat] at hdirectory

/-- A path is clear if nothing is where the draft goes and no link is where the file goes. -/
theorem clear_of_none
    (hdraft : (ensureParent tree file).2.findLink? (draftOf file) = none)
    (hfile : ((ensureParent tree file).2.locateLink? file).all
      (fun place => ((ensureParent tree file).2.linkAt? place).isNone) = true) :
    Clear tree file := by
  refine ⟨fun entry hentry => ?_, fun place hplace hlink => ?_⟩
  · rw [hdraft] at hentry
    cases hentry
  · rw [hplace, Option.all_some, Option.isNone_iff_eq_none] at hfile
    rw [hfile] at hlink
    cases hlink

/-- Two homes: one is empty, and in the other there is a directory in the place of the file. -/
def twoHomes : FileTree :=
  ⟨[(["home"], .directory 0o755), (["home", "user"], .directory 0o755),
    (["home", "other"], .directory 0o755), (["home", "other", ".shiba"], .directory 0o700),
    (["home", "other", ".shiba", "settings.yaml"], .directory 0o755)], [], [], 0⟩

/-- What becomes of them when settings are saved in the first. -/
def savedHome : FileTree := (saveIn twoHomes ⟨"/home/user"⟩ oddSettings).2

/-- What becomes of them when settings are saved in the second: the draft cannot be moved. -/
def blockedHome : FileTree := (saveIn twoHomes ⟨"/home/other"⟩ oddSettings).2

/-- What becomes of them when the first is initialized. -/
def initializedHome : FileTree := (initIn twoHomes ⟨"/home/user"⟩).2

/-- Settings are saved in the first home, and not in the second; and what is initialized in the
first stays as it is. -/
theorem save_atomic_twoHomes :
    twoHomes.IsWhole ∧
    Clear twoHomes (fileIn ⟨"/home/user"⟩) ∧ Clear twoHomes (fileIn ⟨"/home/other"⟩) ∧
    (saveIn twoHomes ⟨"/home/user"⟩ oddSettings = (.ok (), savedHome) ∧
      load savedHome (fileIn ⟨"/home/user"⟩) = .ok oddSettings) ∧
    (saveIn twoHomes ⟨"/home/other"⟩ oddSettings = (.error .io, blockedHome) ∧
      load blockedHome (fileIn ⟨"/home/other"⟩) = load twoHomes (fileIn ⟨"/home/other"⟩)) ∧
    initIn twoHomes ⟨"/home/user"⟩ = (.ok default, initializedHome) ∧
    initIn initializedHome ⟨"/home/user"⟩ = (.ok default, initializedHome) := by
  have hwhole : twoHomes.IsWhole := isWhole_of_entries rfl (by decide)
  have huser : Clear twoHomes (fileIn ⟨"/home/user"⟩) :=
    clear_of_none (by decide +kernel) (by decide +kernel)
  have hother : Clear twoHomes (fileIn ⟨"/home/other"⟩) :=
    clear_of_none (by decide +kernel) (by decide +kernel)
  have hsaved : saveIn twoHomes ⟨"/home/user"⟩ oddSettings = (.ok (), savedHome) := rfl
  have hblocked : saveIn twoHomes ⟨"/home/other"⟩ oddSettings = (.error .io, blockedHome) := rfl
  have hinitialized : initIn twoHomes ⟨"/home/user"⟩ = (.ok default, initializedHome) := rfl
  obtain ⟨-, hhome⟩ := save_atomic hwhole
  obtain ⟨hsaves, -, hagain⟩ := (hhome ⟨"/home/user"⟩).2 huser
  have hdone := hsaves oddSettings
  have hfailed := ((hhome ⟨"/home/other"⟩).2 hother).1 oddSettings
  rw [hsaved] at hdone
  rw [hblocked] at hfailed
  cases hdone with
  | saved _ hloaded =>
    cases hfailed with
    | failed _ hsame =>
      have hclimbs : twoHomes.ClimbsFromThere (fileIn ⟨"/home/other"⟩) :=
        climbsFromThere_of_notMem (by decide +kernel)
      exact ⟨hwhole, huser, hother, ⟨hsaved, hloaded⟩, ⟨hblocked, (hsame hclimbs).1.2⟩,
        hinitialized, hagain _ _ hinitialized⟩

/-- Settings with another port. -/
def sevenThousandText : String := "server:\n  port: 7000\n"

/-- A file with these, and a directory where its draft would go. -/
def sevenThousand : FileTree :=
  ⟨[(["s.yaml"], .file 0o644 (.octets (Utf8.ofString sevenThousandText))),
    (["s.yaml.tmp"], .directory 0o755)], [], [], 0⟩

/-- A path to it that leads up from a directory that is missing. -/
def detour : Path := ⟨"/new/../s.yaml"⟩

/-- **A save that fails changes what is loaded**: the directory that was made for it opens the
path. -/
theorem failed_save_opens_path :
    sevenThousand.IsWhole ∧ (save sevenThousand detour default).1 = .error .io ∧
      load sevenThousand detour = .ok default ∧
      load (save sevenThousand detour default).2 detour =
        .ok { default with server := { defaultServer with port := 7000 } } := by
  have hwhole : sevenThousand.IsWhole := isWhole_of_entries rfl (by decide)
  have hread : ((save sevenThousand detour default).2.read? detour).bind Utf8.decode? =
      some sevenThousandText.toList := by decide +kernel
  exact ⟨hwhole, rfl, rfl, load_of_text hread (by decide +kernel)⟩

end Settings

end RenderSync
