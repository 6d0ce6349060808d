import RenderSync.Proofs.Files
import RenderSync.Proofs.SettingsText

/-!
# Settings saved and loaded

A settings file with the text of some settings is loaded as these (`Settings.load_of_read`).  Saving
brings that text there by way of a draft: it is written beside the file and then moved over it, and
the path of the file leads to what was moved (`FileTree.content?_replace`).

That takes a draft and a file that are files, if they are anything.  A draft that is a link would be
moved as a link, away from what was written, and one that is a device has kept nothing.
-/

namespace RenderSync

namespace FileTree

variable {tree before after : FileTree} {path : Path} {place : Place}

/-! ## 1. Places that paths name -/

/-- Steps that do not end at a link end at the same place if links at the end count. -/
theorem walkOn_last (pieces : List String) :
    ∀ {place : Place} {walked : Walked}, tree.walkOn false place pieces = some walked →
      (∀ arrived, walked = .arrived arrived → tree.linkAt? arrived = none) →
        tree.walkOn true place pieces = some walked := by
  induction pieces with
  | nil => exact fun hwalked _ => hwalked
  | cons piece rest ih =>
    intro place walked hwalked hlink
    obtain ⟨next, hnext, hrest⟩ := Option.bind_eq_some_iff.mp hwalked
    refine Option.bind_eq_some_iff.mpr ⟨next, hnext, ?_⟩
    cases rest with
    | nil =>
      obtain rfl : Walked.arrived next = walked := Option.some.inj hrest
      simp [hlink next rfl, walkOn]
    | cons second others =>
      simp only [List.isEmpty_cons, Bool.false_and, Bool.false_eq_true, if_false] at hrest ⊢
      cases htarget : tree.linkAt? next with
      | some target =>
        rw [htarget] at hrest
        exact hrest
      | none =>
        rw [htarget] at hrest
        exact ih hrest hlink

theorem walkThrough_last (fuel : Nat) :
    ∀ {place : Place} {pieces : List String} {arrived : Place},
      tree.walkThrough false fuel place pieces = some arrived → tree.linkAt? arrived = none →
        tree.walkThrough true fuel place pieces = some arrived := by
  induction fuel with
  | zero => exact fun hwalked _ => hwalked
  | succ fuel ih =>
    intro place pieces arrived hwalked hlink
    obtain ⟨walked, hsteps, hrest⟩ := Option.bind_eq_some_iff.mp hwalked
    refine Option.bind_eq_some_iff.mpr ⟨walked, walkOn_last pieces hsteps ?_, ?_⟩
    · rintro place rfl
      obtain rfl := Option.some.inj hrest
      exact hlink
    · cases walked with
      | arrived place => exact hrest
      | link directory target rest => exact ih hrest hlink

/-- **A path that names what is no link leads there.** -/
theorem locate?_of_locateLink? (hplace : tree.locateLink? path = some place)
    (hlink : tree.linkAt? place = none) : tree.locate? path = some place := by
  obtain ⟨hshort, hplace⟩ := locateLink?_iff.mp hplace
  refine locate?_iff.mpr ⟨hshort, ?_⟩
  unfold followUpTo at hplace ⊢
  split at hplace
  · cases hplace
  · next hnamed =>
    rw [if_neg hnamed]
    exact walkThrough_last _ hplace hlink

/-- At a place there is a file, or nothing. -/
def IsFree (tree : FileTree) (place : Place) : Prop :=
  place ≠ [] ∧ ∀ entry, tree.get? place = some entry → entry.isFile = true

/-- A path names a file, if anything. -/
def NamesFile (tree : FileTree) (path : Path) : Prop :=
  (tree.findLink? path).all Entry.isFile = true

instance (tree : FileTree) (path : Path) : Decidable (tree.NamesFile path) :=
  inferInstanceAs (Decidable (_ = _))

theorem NamesFile.isFree (h : tree.NamesFile path) (hplace : tree.locateLink? path = some place) :
    tree.IsFree place := by
  rw [NamesFile, findLink?, hplace, Option.bind_some, entryAt?] at h
  split at h
  · cases h
  · next hroot =>
    refine ⟨hroot, fun entry hentry => ?_⟩
    rw [hentry] at h
    exact h

/-- What is free holds no link. -/
theorem IsFree.linkAt? (h : tree.IsFree place) : tree.linkAt? place = none := by
  unfold FileTree.linkAt?
  split
  · next target hfound => cases h.2 _ hfound
  · rfl

/-- A file can be put where it is free, and no way gets lost. -/
theorem IsFree.put (h : tree.IsFree place) (mode : Nat) (content : Content) :
    tree.KeepsWays (tree.put place (.file mode content)) :=
  .put (fun _ hfound => absurd (h.2 _ hfound) Bool.false_ne_true)
    (fun _ hfound => absurd (h.2 _ hfound) Bool.false_ne_true) rfl

/-- Nor does one if what is there is taken away. -/
theorem IsFree.erase (h : tree.IsFree place) : tree.KeepsWays (tree.erase place) := by
  refine ⟨rfl, fun {other} hdir => ?_, fun other => ?_⟩
  · by_cases hother : other = place
    · subst hother
      unfold isDirectoryAt at hdir
      rw [decide_eq_false h.1, Bool.false_or] at hdir
      split at hdir
      · next hfound => exact absurd (h.2 _ hfound) Bool.false_ne_true
      · cases hdir
    · simpa [isDirectoryAt, hother] using hdir
  · by_cases hother : other = place
    · subst hother
      rw [h.linkAt?, FileTree.linkAt?, get?_erase, if_pos rfl]
    · simp [FileTree.linkAt?, hother]

/-! ## 2. Ways that were there before -/

/-- What is put at a place opens no way if it is a link no more than before, and no new
directory. -/
theorem KeepsWays.of_put {entry : Entry}
    (hlink : (tree.put place entry).linkAt? place = tree.linkAt? place)
    (hdirectory : (tree.put place entry).isDirectoryAt place = true →
      tree.isDirectoryAt place = true) : (tree.put place entry).KeepsWays tree := by
  refine ⟨rfl, fun {other} hdir => ?_, fun other => ?_⟩
  · by_cases hother : other = place
    · subst hother
      exact hdirectory hdir
    · simpa [isDirectoryAt, hother] using hdir
  · by_cases hother : other = place
    · subst hother
      exact hlink.symm
    · simp [FileTree.linkAt?, hother]

/-- A file that is put where it is free opens none. -/
theorem IsFree.of_put (h : tree.IsFree place) (mode : Nat) (content : Content) :
    (tree.put place (.file mode content)).KeepsWays tree := by
  refine .of_put ?_ ?_
  · rw [h.linkAt?, FileTree.linkAt?, get?_put, if_pos rfl]
  · simp [isDirectoryAt, h.1]

/-- What is written opens no way. -/
theorem KeepsWays.of_writeContent {mode : Nat} {content : Content}
    (hwritten : before.writeContent mode path content = some after) : after.KeepsWays before := by
  obtain ⟨place, -, hwritten⟩ := Option.bind_eq_some_iff.mp hwritten
  split at hwritten
  · cases hwritten
  · next hroot =>
    split at hwritten
    · next hfile =>
      cases hwritten
      have hfree : before.IsFree place := ⟨hroot, by simp [hfile, Entry.isFile]⟩
      have hways := hfree.of_put ‹_› content
      exact ⟨hways.here, hways.directory, hways.link⟩
    · cases hwritten
      exact .refl before
    · cases hwritten
    · next hnone =>
      split at hwritten
      · cases hwritten
        have hfree : before.IsFree place := ⟨hroot, by simp [hnone]⟩
        have hways := hfree.of_put mode content
        exact ⟨hways.here, hways.directory, hways.link⟩
      · cases hwritten

/-- What a mode does that is set. -/
theorem setMode_cases {mode : Nat} (hset : before.setMode path mode = some after) :
    after = before ∨ ∃ place entry, before.locate? path = some place ∧ place ≠ [] ∧
      before.get? place = some entry ∧ after = before.put place (entry.withMode mode) := by
  obtain ⟨place, hplace, hset⟩ := Option.bind_eq_some_iff.mp hset
  obtain ⟨entry, hentry, hset⟩ := Option.bind_eq_some_iff.mp hset
  split at hset
  · cases hset
    exact Or.inl rfl
  · next hroot =>
    cases hset
    rw [find?_of_place hplace hroot] at hentry
    exact Or.inr ⟨place, entry, hplace, hroot, hentry, rfl⟩

/-- A mode that is set opens no way. -/
theorem KeepsWays.of_setMode {mode : Nat} (hset : before.setMode path mode = some after) :
    after.KeepsWays before := by
  obtain rfl | ⟨place, entry, -, -, hentry, rfl⟩ := setMode_cases hset
  · exact .refl _
  · refine .of_put ?_ ?_ <;> cases entry <;>
      simp [FileTree.linkAt?, isDirectoryAt, Entry.withMode, hentry]

/-! ## 3. A file that is replaced -/

/-- What is written where it is free is there. -/
theorem IsFree.writeContent {mode : Nat} {content : Content} (h : before.IsFree place)
    (hplace : before.locate? path = some place)
    (hwritten : before.writeContent mode path content = some after) :
    ∃ kept, after = (before.put place (.file kept content)).stamp place := by
  simp only [FileTree.writeContent, hplace, Option.bind_eq_bind, Option.bind_some, h.1,
    if_false] at hwritten
  split at hwritten
  · next kept _ _ =>
    exact ⟨kept, (Option.some.inj hwritten).symm⟩
  · next hfound => exact absurd (h.2 _ hfound) Bool.false_ne_true
  · cases hwritten
  · split at hwritten
    · exact ⟨mode, (Option.some.inj hwritten).symm⟩
    · cases hwritten

/-- What moving a file does. -/
theorem rename_cases {source target : Path} (hmoved : before.rename source target = some after) :
    ∃ origin place entry, before.locateLink? source = some origin ∧
      before.locateLink? target = some place ∧ before.get? origin = some entry ∧
      after = (before.erase origin).put place entry := by
  obtain ⟨origin, horigin, hmoved⟩ := Option.bind_eq_some_iff.mp hmoved
  obtain ⟨place, hplace, hmoved⟩ := Option.bind_eq_some_iff.mp hmoved
  obtain ⟨entry, hentry, hmoved⟩ := Option.bind_eq_some_iff.mp hmoved
  refine ⟨origin, place, entry, horigin, hplace, hentry, ?_⟩
  split at hmoved
  · cases hmoved
  · split at hmoved
    · cases hmoved
    · exact (Option.some.inj hmoved).symm

/-- **What a draft holds once its mode is set**: what was written, at the place that its path
names.  Nothing else has changed. -/
theorem draft_ready {draft : Path} {mode mode' : Nat} {content : Content}
    {written ready : FileTree} (hfree : before.IsFree place)
    (hplace : before.locateLink? draft = some place)
    (hwritten : before.writeContent mode draft content = some written)
    (hset : written.setMode draft mode' = some ready) :
    before.KeepsWays ready ∧ (∃ kept, ready.get? place = some (.file kept content)) ∧
      ∀ other, other ≠ place → ready.get? other = before.get? other := by
  have hlocated := locate?_of_locateLink? hplace hfree.linkAt?
  obtain ⟨kept, rfl⟩ := hfree.writeContent hlocated hwritten
  have hways : before.KeepsWays ((before.put place (.file kept content)).stamp place) :=
    .stamp (hfree.put kept content) place
  have hput (other : Place) : ((before.put place (.file kept content)).stamp place).get? other =
      if other = place then some (.file kept content) else before.get? other :=
    get?_put before place other (.file kept content)
  obtain rfl | ⟨found, entry, hfound, -, hentry, rfl⟩ := setMode_cases hset
  · exact ⟨hways, ⟨kept, by rw [hput, if_pos rfl]⟩,
      fun other hother => by rw [hput, if_neg hother]⟩
  · obtain rfl : place = found :=
      Option.some.inj ((hways.locate? hlocated).symm.trans hfound)
    rw [hput, if_pos rfl] at hentry
    obtain rfl := Option.some.inj hentry
    have hkept : ((before.put place (.file kept content)).stamp place).IsFree place :=
      ⟨hfree.1, by simp [hput, Entry.isFile]⟩
    exact ⟨hways.trans (hkept.put mode' content), ⟨mode', by rw [get?_put, if_pos rfl]; rfl⟩,
      fun other hother => by rw [get?_put, if_neg hother, hput, if_neg hother]⟩

/-- **A file that is replaced has the content of the draft**, if both paths name a file before, or
nothing. -/
theorem content?_replace {draft file : Path} {mode mode' : Nat} {content : Content}
    {written ready : FileTree} (hfile : before.NamesFile file) (hdraft : before.NamesFile draft)
    (hwritten : before.writeContent mode draft content = some written)
    (hset : written.setMode draft mode' = some ready)
    (hmoved : ready.rename draft file = some after) : after.content? file = some content := by
  obtain ⟨origin, place, entry, horigin, hplace, hentry, rfl⟩ := rename_cases hmoved
  have hback : ready.KeepsWays before :=
    (KeepsWays.of_setMode hset).trans (.of_writeContent hwritten)
  have hfreeDraft := hdraft.isFree (hback.locateLink? horigin)
  have hfreeFile := hfile.isFree (hback.locateLink? hplace)
  obtain ⟨hways, ⟨kept, hkept⟩, hothers⟩ :=
    draft_ready hfreeDraft (hback.locateLink? horigin) hwritten hset
  obtain rfl : .file kept content = entry := Option.some.inj (hkept.symm.trans hentry)
  -- the draft is taken away, and the file put where the old one was
  have herase : ready.KeepsWays (ready.erase origin) :=
    IsFree.erase ⟨hfreeDraft.1, by simp [hkept, Entry.isFile]⟩
  have hput : (ready.erase origin).KeepsWays
      ((ready.erase origin).put place (.file kept content)) := by
    refine IsFree.put ⟨hfreeFile.1, fun found hfound => ?_⟩ kept content
    rw [get?_erase] at hfound
    split at hfound
    · cases hfound
    · next hother => exact hfreeFile.2 found ((hothers place hother).symm.trans hfound)
  have hlocated := locate?_of_locateLink? (hback.locateLink? hplace) hfreeFile.linkAt?
  have hreached := ((hways.trans herase).trans hput).locate? hlocated
  rw [content?, find?_of_place hreached hfreeFile.1, get?_put, if_pos rfl]

end FileTree

namespace Settings

variable {tree ready after : FileTree} {file : Path} {settings : Settings}

/-! ## 4. Settings that are saved -/

/-- **What a file says is loaded.** -/
theorem load_of_text {text : List Char}
    (hread : (tree.read? file).bind Utf8.decode? = some text)
    (htext : ofText? text = some settings) : load tree file = .ok settings := by
  have hthere : tree.contains file = true := by
    rw [FileTree.read?, FileTree.content?] at hread
    cases hfound : tree.find? file with
    | none => rw [hfound] at hread; cases hread
    | some entry => rw [FileTree.contains, hfound]; rfl
  simp [load, hthere, hread, htext]

/-- **A file with the text of some settings is loaded as these.** -/
theorem load_of_read (hread : tree.read? file = some (Utf8.encode settings.toDocument)) :
    load tree file = .ok settings :=
  load_of_text (by rw [hread]; exact Utf8.decode?_encode _) (ofText?_toDocument settings)

/-- What saving comes to: the directory of the file is there, the draft is written and gets its
mode, and it is moved. -/
theorem save_cases (hsaved : save tree file settings = (.ok (), after)) :
    ∃ ready written moved, ensureParent tree file = (.ok (), ready) ∧
      ready.write (draftOf file) (Utf8.encode settings.toDocument) = some written ∧
      written.setMode (draftOf file) fileMode = some moved ∧
      moved.rename (draftOf file) file = some after := by
  unfold save at hsaved
  split at hsaved
  · cases hsaved
  next ready hready =>
  unfold replaceFile at hsaved
  split at hsaved
  · cases hsaved
  next written hwritten =>
  split at hsaved
  · cases hsaved
  next moved hset =>
  split at hsaved
  · cases hsaved
  next done hmoved =>
  cases hsaved
  exact ⟨ready, written, moved, hready, hwritten, hset, hmoved⟩

/-- Nothing but files is where settings are saved: once the directory is there, neither the file
nor its draft is anything else. -/
def HasRoom (tree : FileTree) (file : Path) : Prop :=
  (ensureParent tree file).2.NamesFile file ∧ (ensureParent tree file).2.NamesFile (draftOf file)

instance (tree : FileTree) (file : Path) : Decidable (HasRoom tree file) :=
  inferInstanceAs (Decidable (_ ∧ _))

/-- **Settings that were saved are what the file holds.** -/
theorem read?_save (hroom : HasRoom tree file)
    (hsaved : save tree file settings = (.ok (), after)) :
    after.read? file = some (Utf8.encode settings.toDocument) := by
  obtain ⟨ready, written, moved, hready, hwritten, hset, hmoved⟩ := save_cases hsaved
  rw [HasRoom, hready] at hroom
  rw [FileTree.read?, FileTree.content?_replace hroom.1 hroom.2 hwritten hset hmoved]
  rfl

/-- **Settings come back as they were**: from their text; from any file with that text; and from
the file that they were saved to. -/
theorem load_save (settings : Settings) :
    ofText? settings.toDocument = some settings ∧
    (∀ (tree : FileTree) (file : Path),
      tree.read? file = some (Utf8.encode settings.toDocument) → load tree file = .ok settings) ∧
    ∀ (tree after : FileTree) (file : Path), HasRoom tree file →
      save tree file settings = (.ok (), after) → load after file = .ok settings :=
  ⟨ofText?_toDocument settings, fun _ _ => load_of_read,
    fun _ _ _ hroom hsaved => load_of_read (read?_save hroom hsaved)⟩

/-- A home directory without settings. -/
def freshHome : FileTree :=
  ⟨[(["home"], .directory 0o755), (["home", "user"], .directory 0o755)], [], [], 0⟩

/-- Settings with texts that look like something else. -/
def oddSettings : Settings where
  server := ⟨"no\n", 0, .customCli, some ⟨"0x1F"⟩, none⟩
  project := ⟨⟨""⟩, true⟩
  libraryPath := some ⟨"- ~: [null]"⟩
  notificationSeconds := 18446744073709551615
  retryMilliseconds := 0

/-- Where the settings of the home directory are. -/
def homeFile : Path := fileIn ⟨"/home/user"⟩

/-- The home directory once they are saved. -/
def oddHome : FileTree := (save freshHome homeFile oddSettings).2

/-- A directory to which their text was brought in some other way. -/
def oddCopy : FileTree :=
  ⟨[(["odd.yaml"], .file 0o644 (.octets (Utf8.encode oddSettings.toDocument)))], [], [], 0⟩

/-- They are saved where there was nothing, and come back; so they do from a copy of the file. -/
theorem load_save_oddSettings :
    (oddCopy.read? ⟨"odd.yaml"⟩ = some (Utf8.encode oddSettings.toDocument) ∧
      load oddCopy ⟨"odd.yaml"⟩ = .ok oddSettings) ∧
    HasRoom freshHome homeFile ∧ save freshHome homeFile oddSettings = (.ok (), oddHome) ∧
      load oddHome homeFile = .ok oddSettings := by
  have hcopy : oddCopy.read? ⟨"odd.yaml"⟩ = some (Utf8.encode oddSettings.toDocument) := rfl
  have hroom : HasRoom freshHome homeFile := by decide
  have hsaved : save freshHome homeFile oddSettings = (.ok (), oddHome) := rfl
  obtain ⟨-, hread, hload⟩ := load_save oddSettings
  exact ⟨⟨hcopy, hread _ _ hcopy⟩, hroom, hsaved, hload _ _ _ hroom hsaved⟩

end Settings

end RenderSync
