import RenderSync.Proofs.NewDirectories

/-!
# What is in a directory for copies

Two things can be said about a directory for copies.  Either nothing is in it, or would be once it
is made (`FileTree.IsVacant`), or exactly one file is in it, which a path leads to
(`FileTree.Holds`).  Making a copy leads from the first to the second, and to the first again if it
fails (`WorkingCopy.copySource_some`, `WorkingCopy.copySource_none`); removing the copy always
succeeds and leads back (`FileTree.Holds.remove`); and whoever writes or removes files elsewhere
keeps both (`FileTree.Spares`).
-/

namespace RenderSync

/-! ## 1. What is in a directory -/

namespace Path

/-- A name is a step that leads down. -/
structure IsName (name : String) : Prop extends IsStep name where
  current : name ≠ "."
  parent : name ≠ ".."

/-- Names come from the pieces of a path. -/
theorem mem_pieces_of_fileName? {path : Path} {name : String} (h : path.fileName? = some name) :
    name ∈ path.pieces := by
  have hstep : ∀ {pieces : List String}, Component.name name ∈ pieces.filterMap step? →
      name ∈ pieces := by
    intro pieces hmem
    obtain ⟨piece, hpiece, hname⟩ := List.mem_filterMap.mp hmem
    unfold step? at hname
    split at hname
    · cases hname
    split at hname
    · cases hname
    · cases hname
      exact hpiece
  have hcomponent : Component.name name ∈ path.components := by
    unfold fileName? at h
    split at h
    · next text hlast =>
      cases h
      exact List.mem_of_getLast? hlast
    · cases h
  unfold components at hcomponent
  split at hcomponent
  · next rest hpieces =>
    rw [hpieces]
    exact List.mem_cons_of_mem _ (List.mem_cons_of_mem _ (hstep (by simpa using hcomponent)))
  · next rest _ hpieces =>
    rw [hpieces]
    split at hcomponent
    · cases hcomponent
    · exact List.mem_cons_of_mem _ (hstep (by simpa using hcomponent))
  · next rest hpieces =>
    rw [hpieces]
    exact List.mem_cons_of_mem _ (hstep (by simpa using hcomponent))
  · exact hstep hcomponent

end Path

/-- **The name of a copy is a name**, if the source is there. -/
theorem WorkingCopy.isName_of_nameFor? {source : Path} {name : String} {tree : FileTree}
    (hname : nameFor? source = some name) (hthere : tree.contains source = true) :
    Path.IsName name := by
  obtain ⟨last, hlast, rfl⟩ := Option.map_eq_some_iff.mp hname
  obtain ⟨piece, hpiece, rfl⟩ := List.mem_map.mp (Path.mem_pieces_of_fileName? hlast)
  obtain ⟨hslash, hchars⟩ := Text.of_mem_splitAt hpiece
  have hnul : '\x00' ∉ source.text.toList := by
    intro h
    have hnowhere : tree.locate? source = none := by
      rw [FileTree.locate?, FileTree.follow?, FileTree.followUpTo]
      simp [h]
    rw [FileTree.contains, FileTree.find?, hnowhere] at hthere
    cases hthere
  have htext : (nameStart ++ String.ofList piece).toList = 'l' :: ("ocked.".toList ++ piece) := by
    rw [String.toList_append, String.toList_ofList]
    rfl
  have hother : ∀ other : String, other.toList.head? ≠ some 'l' →
      nameStart ++ String.ofList piece ≠ other := by
    rintro other hhead rfl
    rw [htext] at hhead
    exact hhead rfl
  refine ⟨⟨?_, ?_, hother "" (by decide)⟩, hother "." (by decide), hother ".." (by decide)⟩
  · rw [htext]
    simp [hslash]
  · rw [htext]
    have hpiece : '\x00' ∉ piece := fun h => hnul (hchars _ h)
    simp [hpiece]

namespace FileTree

variable {tree before after : FileTree} {directory copy : Path} {content : Content}

/-- A name leads to the place below, where it leads anywhere. -/
theorem walk_name {room next : Place} {name : String} (hname : Path.IsName name)
    (h : tree.walk room name = some next) : next = room ++ [name] := by
  have hdirectory := isDirectoryAt_of_walk h
  rw [walk, hdirectory, if_neg (by simp), if_neg (by simp [hname.empty, hname.current]),
    if_neg hname.parent] at h
  split at h
  · cases h
  · exact (Option.some.inj h).symm

/-- A name leads to the same place wherever a directory is there. -/
theorem walk_of_isDirectoryAt {room : Place} {next : Place} {name : String}
    (h : before.walk room name = some next) (hdirectory : after.isDirectoryAt room = true) :
    after.walk room name = some next := by
  rw [walk, isDirectoryAt_of_walk h] at h
  rw [walk, hdirectory]
  exact h

/-- What is below a directory, by the names that lead there from it; if the directory is missing,
what there would be once it is made, which is nothing if it cannot be. -/
def below (directory : Path) (names : Place) (tree : FileTree) : Option Entry :=
  match WorkingCopy.ensureDirectory directory tree with
  | (false, _) => none
  | (true, made) => (made.room? directory).bind fun room => made.get? (room ++ names)

/-- In a directory that is there that is what is in the places below its own. -/
theorem below_of_room? (hrooted : tree.IsRooted) {room : Place}
    (hroom : tree.room? directory = some room) (names : Place) :
    tree.below directory names = tree.get? (room ++ names) := by
  simp only [below, WorkingCopy.ensureDirectory_of_room? hrooted hroom, Option.bind_some, hroom]

/-- The place of a directory is one. -/
theorem isDirectory_of_room? (hrooted : tree.IsRooted) {room : Place}
    (hroom : tree.room? directory = some room) (htext : directory.text ≠ "") :
    tree.isDirectory directory = true := by
  obtain ⟨hdirectory, hplace, -⟩ := of_room? hrooted hroom
  exact isDirectory_of_locate? (hplace htext) hdirectory

/-- **What cannot be made cannot be made after that either**, and so there is nothing in it. -/
theorem below_of_not_ensured (hrooted : tree.IsRooted)
    (h : WorkingCopy.ensureDirectory directory tree = (false, after)) (names : Place) :
    after.below directory names = none := by
  have hrooted' : after.IsRooted := ((Grows.of_ensureDirectory h).link []).trans hrooted
  have htext : directory.text ≠ "" := by
    intro hempty
    rw [WorkingCopy.ensureDirectory_of_empty hempty] at h
    cases h
  unfold WorkingCopy.ensureDirectory at h
  split at h
  · cases h
  next hmissing =>
  cases hthere : after.contains directory with
  | false =>
    have hagain : WorkingCopy.ensureDirectory directory after = (false, after) := by
      rw [WorkingCopy.ensureDirectory, hthere, if_neg Bool.false_ne_true]
      exact layDirectories_again hrooted h
    rw [below, hagain]
  | true =>
    -- something else is there by now, since a step up was taken from a directory that was made
    rw [below, WorkingCopy.ensureDirectory_of_contains hthere]
    cases hroom : after.room? directory with
    | none => simp only [hroom, Option.bind_none]
    | some room =>
      have hdirectory := isDirectory_of_room? hrooted' hroom htext
      rcases isDirectory_of_not_laid hrooted h with rfl | hnone
      · exact absurd hthere hmissing
      · exact absurd (hdirectory.symm.trans hnone) (by decide)

/-- **Making the directory changes nothing about it**, whether or not it can be made. -/
theorem below_ensureDirectory (hrooted : tree.IsRooted) (names : Place) :
    (WorkingCopy.ensureDirectory directory tree).2.below directory names =
      tree.below directory names := by
  rcases hmade : WorkingCopy.ensureDirectory directory tree with ⟨_ | _, made⟩
  · rw [below_of_not_ensured hrooted hmade, below, hmade]
  · rw [below, below, WorkingCopy.ensureDirectory_again hmade, hmade]

/-- **Nothing is in the directory.** -/
def IsVacant (directory : Path) (tree : FileTree) : Prop :=
  ∀ names, names ≠ [] → tree.below directory names = none

theorem IsVacant.ensureDirectory (h : tree.IsVacant directory) (hrooted : tree.IsRooted) :
    (WorkingCopy.ensureDirectory directory tree).2.IsVacant directory :=
  fun names hnames => (below_ensureDirectory hrooted names).trans (h names hnames)

/-- A directory that is there is as empty as its place. -/
theorem IsVacant.of_room? (hrooted : tree.IsRooted) {room : Place}
    (hroom : tree.room? directory = some room)
    (hempty : ∀ names, names ≠ [] → tree.get? (room ++ names) = none) : tree.IsVacant directory :=
  fun names hnames => (below_of_room? hrooted hroom names).trans (hempty names hnames)

/-- **One file is in the directory**, a copy with a content, and the path of the copy leads
there. -/
def Holds (directory copy : Path) (content : Content) (tree : FileTree) : Prop :=
  ∃ room name mode, tree.room? directory = some room ∧ copy = directory.join ⟨name⟩ ∧
    Path.IsName name ∧ isTooLong copy = false ∧ tree.walk room name = some (room ++ [name]) ∧
    ∀ names, names ≠ [] →
      tree.get? (room ++ names) = if names = [name] then some (.file mode content) else none

/-- The path of the copy leads to the only place in the directory where something is. -/
theorem Holds.located (hrooted : tree.IsRooted) (h : tree.Holds directory copy content) :
    ∃ room name mode, tree.room? directory = some room ∧
      tree.locate? copy = some (room ++ [name]) ∧ tree.locateLink? copy = some (room ++ [name]) ∧
      tree.get? (room ++ [name]) = some (.file mode content) ∧
      ∀ names, names ≠ [] → names ≠ [name] → tree.get? (room ++ names) = none := by
  obtain ⟨room, name, mode, hroom, rfl, hname, hshort, hstep, hbelow⟩ := h
  have hfile : tree.get? (room ++ [name]) = some (.file mode content) := by
    rw [hbelow [name] (List.cons_ne_nil _ _), if_pos rfl]
  have hfree : tree.linkAt? (room ++ [name]) = none := by rw [linkAt?, hfile]
  obtain ⟨-, -, hfollow⟩ := of_room? hrooted hroom
  refine ⟨room, name, mode, hroom, ?_, ?_, hfile, fun names hnames hother => ?_⟩
  · exact locate?_iff.mpr ⟨hshort, hfollow true name _ hname.toIsStep hstep hfree⟩
  · exact locateLink?_iff.mpr ⟨hshort, hfollow false name _ hname.toIsStep hstep hfree⟩
  · rw [hbelow names hnames, if_neg hother]

/-- A place below another one is not the root. -/
theorem append_name_ne_nil (room : Place) (name : String) : room ++ [name] ≠ [] :=
  List.append_ne_nil_of_right_ne_nil room (List.cons_ne_nil name [])

/-- **The copy has its content.** -/
theorem Holds.content? (hrooted : tree.IsRooted) (h : tree.Holds directory copy content) :
    tree.content? copy = some content := by
  obtain ⟨room, name, mode, -, hplace, -, hfile, -⟩ := h.located hrooted
  rw [FileTree.content?, find?_of_place hplace (append_name_ne_nil room name), hfile]

/-! ## 2. What others may do -/

/-- **Others leave a directory alone**: it stays in its place, and nothing in it changes. -/
structure Spares (directory : Path) (before after : FileTree) : Prop where
  rooted : before.IsRooted → after.IsRooted
  room : ∀ {room}, before.room? directory = some room → after.room? directory = some room
  below : ∀ names, names ≠ [] → after.below directory names = before.below directory names

theorem Spares.refl (directory : Path) (tree : FileTree) : tree.Spares directory tree :=
  ⟨id, id, fun _ _ => rfl⟩

theorem Spares.trans {between : FileTree} (h : before.Spares directory between)
    (h' : between.Spares directory after) : before.Spares directory after :=
  ⟨fun hrooted => h'.rooted (h.rooted hrooted), fun hroom => h'.room (h.room hroom),
    fun names hnames => (h'.below names hnames).trans (h.below names hnames)⟩

theorem IsVacant.spared (h : before.IsVacant directory) (hspares : before.Spares directory after) :
    after.IsVacant directory :=
  fun names hnames => (hspares.below names hnames).trans (h names hnames)

theorem Holds.spared (hrooted : before.IsRooted) (h : before.Holds directory copy content)
    (hspares : before.Spares directory after) : after.Holds directory copy content := by
  obtain ⟨room, name, mode, hroom, hcopy, hname, hshort, hstep, hbelow⟩ := h
  have hrooted' := hspares.rooted hrooted
  have hroom' := hspares.room hroom
  refine ⟨room, name, mode, hroom', hcopy, hname, hshort,
    walk_of_isDirectoryAt hstep (of_room? hrooted' hroom').1, fun names hnames => ?_⟩
  rw [← below_of_room? hrooted' hroom', hspares.below names hnames, below_of_room? hrooted hroom,
    hbelow names hnames]

/-- A directory is left alone by what keeps the ways and changes nothing below its place. -/
theorem Spares.of_keepsWays (hrooted : before.IsRooted) (hways : before.KeepsWays after)
    {room : Place} (hroom : before.room? directory = some room)
    (hsame : ∀ names, names ≠ [] → after.get? (room ++ names) = before.get? (room ++ names)) :
    before.Spares directory after := by
  have hrooted' : after.IsRooted := (hways.link []).trans hrooted
  have hroom' := hways.locate? hroom
  refine ⟨fun _ => hrooted', fun hother => hways.locate? hother, fun names hnames => ?_⟩
  rw [below_of_room? hrooted' hroom', below_of_room? hrooted hroom, hsame names hnames]

/-- A write keeps the ways, and changes one place only. -/
theorem get?_writeContent {mode : Nat} {path : Path} {written : Content}
    (hwritten : before.writeContent mode path written = some after) :
    before.KeepsWays after ∧ ∃ place, before.locate? path = some place ∧ place ≠ [] ∧
      (∀ other, other ≠ place → after.get? other = before.get? other) ∧
      (before.get? place = none → after.get? place = some (.file mode written)) := by
  obtain ⟨place, hplace, hroot, hways, -⟩ := writeContent_cases hwritten
  refine ⟨hways, place, hplace, hroot, ?_⟩
  rw [writeContent, hplace] at hwritten
  simp only [Option.bind_eq_bind, Option.bind_some, if_neg hroot] at hwritten
  have hput : ∀ (entry : Entry) other, ((before.put place entry).stamp place).get? other =
      if other = place then some entry else before.get? other := fun entry other =>
    get?_put before place other entry
  split at hwritten
  · next old kept hfile =>
    cases hwritten
    refine ⟨fun other hother => by rw [hput, if_neg hother], fun hnone => ?_⟩
    rw [hfile] at hnone
    cases hnone
  · next old hdevice =>
    cases hwritten
    refine ⟨fun other _ => rfl, fun hnone => ?_⟩
    rw [hdevice] at hnone
    cases hnone
  · cases hwritten
  · split at hwritten
    · cases hwritten
      exact ⟨fun other hother => by rw [hput, if_neg hother], fun _ => by rw [hput, if_pos rfl]⟩
    · cases hwritten

/-- **Whoever writes elsewhere leaves a directory alone.** -/
theorem Spares.writeContent (hrooted : before.IsRooted) {room : Place}
    (hroom : before.room? directory = some room) {mode : Nat} {path : Path} {written : Content}
    (helsewhere : ∀ names, names ≠ [] → before.locate? path ≠ some (room ++ names))
    (hwritten : before.writeContent mode path written = some after) :
    before.Spares directory after := by
  obtain ⟨hways, place, hplace, -, hothers, -⟩ := get?_writeContent hwritten
  refine .of_keepsWays hrooted hways hroom fun names hnames => hothers _ fun hsame => ?_
  exact helsewhere names hnames (hsame ▸ hplace)

/-- The ways through a tree do not depend on its files. -/
theorem keepsWays_erase {place : Place} {mode : Nat}
    (hfile : tree.get? place = some (.file mode content)) (hroot : place ≠ []) :
    tree.KeepsWays (tree.erase place) ∧ (tree.erase place).Grows tree := by
  have hlink : ∀ other, (tree.erase place).linkAt? other = tree.linkAt? other := by
    intro other
    by_cases hother : other = place
    · rw [linkAt?, linkAt?, get?_erase, if_pos hother, hother, hfile]
    · rw [linkAt?, linkAt?, get?_erase, if_neg hother]
  have hdirectory : ∀ other, (tree.erase place).isDirectoryAt other = tree.isDirectoryAt other := by
    intro other
    by_cases hother : other = place
    · simp [isDirectoryAt, hother, hfile, hroot]
    · simp [isDirectoryAt, hother]
  refine ⟨⟨rfl, fun {other} h => (hdirectory other).trans h, hlink⟩,
    ⟨⟨rfl, fun {other} h => (hdirectory other).symm.trans h, fun other => (hlink other).symm⟩, ?_⟩⟩
  intro other entry hentry
  rw [get?_erase] at hentry
  split at hentry
  · cases hentry
  · exact hentry

/-- What removing a file comes to. -/
theorem remove_file {path : Path} {place : Place} {mode : Nat}
    (hplace : tree.locateLink? path = some place)
    (hfile : tree.get? place = some (.file mode content)) :
    tree.remove path = some (tree.erase place) := by
  simp only [remove, hplace, hfile, Option.bind_eq_bind, Option.bind_some]

/-- **Whoever removes a file elsewhere leaves a directory alone.** -/
theorem Spares.remove (hrooted : before.IsRooted) {room : Place}
    (hroom : before.room? directory = some room) {path : Path} {place : Place} {mode : Nat}
    (hplace : before.locateLink? path = some place) (hroot : place ≠ [])
    (hfile : before.get? place = some (.file mode content))
    (helsewhere : ∀ names, names ≠ [] → place ≠ room ++ names)
    (hremoved : before.remove path = some after) : before.Spares directory after := by
  obtain rfl : before.erase place = after :=
    Option.some.inj ((remove_file hplace hfile).symm.trans hremoved)
  refine .of_keepsWays hrooted (keepsWays_erase hfile hroot).1 hroom fun names hnames => ?_
  rw [get?_erase, if_neg (Ne.symm (helsewhere names hnames))]

/-! ## 3. Making and removing the copy -/

/-- Where a copy goes to. -/
theorem located_of_copy {source target : Path} (hcopied : before.copy source target = some after) :
    ∃ place, before.locate? target = some place := by
  obtain ⟨entry, -, hcopied⟩ := Option.bind_eq_some_iff.mp hcopied
  cases entry with
  | directory | link | pipe | device => cases hcopied
  | file mode content =>
    obtain ⟨written, hwritten, -⟩ := Option.bind_eq_some_iff.mp hcopied
    obtain ⟨place, hplace, -⟩ := writeContent_cases hwritten
    exact ⟨place, hplace⟩

/-- A file that is copied where nothing is. -/
theorem get?_copy {source target : Path} {place : Place}
    (hcopied : before.copy source target = some after) (hplace : before.locate? target = some place)
    (hfree : before.get? place = none) :
    before.KeepsWays after ∧ ∃ mode content, before.find? source = some (.file mode content) ∧
      ∀ other, after.get? other =
        if other = place then some (.file mode content) else before.get? other := by
  obtain ⟨entry, hentry, hcopied⟩ := Option.bind_eq_some_iff.mp hcopied
  cases entry with
  | directory | link | pipe | device => cases hcopied
  | file mode content =>
    obtain ⟨written, hwritten, hset⟩ := Option.bind_eq_some_iff.mp hcopied
    obtain ⟨hways, place', hplace', hroot, hothers, hnew⟩ := get?_writeContent hwritten
    obtain rfl : place' = place := Option.some.inj (hplace'.symm.trans hplace)
    have hfile := hnew hfree
    have hfound : written.find? target = some (.file mode content) :=
      (find?_of_place (hways.locate? hplace) hroot).trans hfile
    have hafter : after = written.put place' (.file mode content) := by
      have hput : written.setMode target mode = some (written.put place' (.file mode content)) := by
        simp [setMode, hways.locate? hplace, hfound, hroot, Entry.withMode]
      exact Option.some.inj (hset.symm.trans hput)
    refine ⟨?_, mode, content, hentry, fun other => ?_⟩
    · rw [hafter]
      exact hways.trans (.put (by simp [hfile]) (by simp [hfile]) rfl)
    · rw [hafter, get?_put]
      split
      · rfl
      · next hother => exact hothers other hother

/-- **A copy that is given up is removed**, and then nothing is in the directory.  Everything else
is as before. -/
theorem Holds.remove (hrooted : before.IsRooted) (h : before.Holds directory copy content) :
    ∃ after, before.remove copy = some after ∧ after.IsRooted ∧ after.IsVacant directory ∧
      after.Grows before := by
  obtain ⟨room, name, mode, hroom, -, hplace, hfile, hothers⟩ := h.located hrooted
  obtain ⟨hways, hgrows⟩ := keepsWays_erase hfile (append_name_ne_nil room name)
  have hrooted' : (before.erase (room ++ [name])).IsRooted := (hways.link []).trans hrooted
  refine ⟨_, remove_file hplace hfile, hrooted', fun names hnames => ?_, hgrows⟩
  rw [below_of_room? hrooted' (hways.locate? hroom), get?_erase]
  split
  · rfl
  · next hother =>
    exact hothers names hnames fun hsame => hother (congrArg (room ++ ·) hsame)

end FileTree

namespace WorkingCopy

variable {directory source copy : Path} {files after : FileTree}

open FileTree

/-- **A copy that cannot be made** leaves the directory as empty as it was. -/
theorem copySource_none (hrooted : files.IsRooted) (hvacant : files.IsVacant directory)
    (hmade : copySource directory source files = (none, after)) :
    after.IsRooted ∧ after.IsVacant directory := by
  obtain ⟨-, rfl | rfl⟩ | ⟨_, _, hcopy, -⟩ := copySource_cases hmade
  · exact ⟨hrooted, hvacant⟩
  · exact ⟨((Grows.ensureDirectory directory files).link []).trans hrooted,
      hvacant.ensureDirectory hrooted⟩
  · cases hcopy

/-- **A copy that is made** is the only file in the directory, and has the content of its source. -/
theorem copySource_some (hrooted : files.IsRooted) (hvacant : files.IsVacant directory)
    (hmade : copySource directory source files = (some copy, after)) :
    after.IsRooted ∧ ∃ content, files.content? source = some content ∧
      after.Holds directory copy content := by
  obtain ⟨hnone, -⟩ | ⟨name, made, hcopy, hthere, hname, hready, hcopied⟩ := copySource_cases hmade
  · cases hnone
  obtain rfl := Option.some.inj hcopy
  have hisName := isName_of_nameFor? hname hthere
  have hgrows := Grows.of_ensureDirectory hready
  have hvacant' := hvacant.ensureDirectory hrooted
  rw [hready] at hvacant'
  have hrooted' : made.IsRooted := (hgrows.link []).trans hrooted
  -- the copy goes to the place below that of the directory, where nothing is
  obtain ⟨place, hplace⟩ := located_of_copy hcopied
  obtain ⟨room, next, hroom, hstep⟩ := room?_of_locate? hrooted' hisName.toIsStep hplace
  obtain rfl := walk_name hisName hstep
  have hempty : ∀ names, names ≠ [] → made.get? (room ++ names) = none := by
    intro names hnames
    rw [← below_of_room? hrooted' hroom, hvacant' names hnames]
  have hfree := hempty [name] (List.cons_ne_nil _ _)
  obtain ⟨hshort, hthrough⟩ := locate?_iff.mp hplace
  have hbelow := (of_room? hrooted' hroom).2.2 true name _ hisName.toIsStep hstep
    (by rw [linkAt?, hfree])
  obtain rfl : place = room ++ [name] := Option.some.inj (hthrough.symm.trans hbelow)
  obtain ⟨hways, mode, content, hsource, hafter⟩ := get?_copy hcopied hplace hfree
  have hroom' := hways.locate? hroom
  refine ⟨(hways.link []).trans hrooted', content, ?_, room, name, mode, hroom', rfl, hisName,
    hshort, hways.walk hstep, fun names hnames => ?_⟩
  · obtain ⟨entry, hentry⟩ := Option.isSome_iff_exists.mp hthere
    obtain rfl := Option.some.inj ((hgrows.find? hentry).symm.trans hsource)
    rw [FileTree.content?, hentry]
  · rw [hafter, hempty names hnames]
    simp only [List.append_cancel_left_eq]

end WorkingCopy

end RenderSync
