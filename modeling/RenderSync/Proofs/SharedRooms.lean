import RenderSync.Proofs.Rooms

/-!
# Several copies in one directory

Where more than one party makes copies in a directory, what is in it is a function of names:
`FileTree.Houses` says that the files in the directory are just those of `inside`, each with its
content and with a path that leads to it.  Making a copy sets one name and removing it clears that
name, and no other name is concerned (`FileTree.Houses.copySource_some`, `FileTree.Houses.remove`);
whether something was there under the name of a new copy makes no difference to that, it is simply
replaced.
-/

namespace RenderSync

/-- The text of a copy's path ends in its name, so that there is one name for a path. -/
theorem Path.join_inj {directory : Path} {name other : String} (hname : '/' ∉ name.toList)
    (hother : '/' ∉ other.toList) (h : directory.join ⟨name⟩ = directory.join ⟨other⟩) :
    name = other := by
  obtain ⟨front, hfront, -⟩ := text_join directory
  have htext : front ++ name.toList = front ++ other.toList := by
    rw [← hfront name hname, ← hfront other hother, h]
  exact String.toList_inj.mp (List.append_cancel_left htext)

namespace FileTree

variable {tree before after : FileTree} {directory copy : Path} {content : Content}
  {inside : String → Option Content}

/-! ## 1. One of several copies -/

/-- **A copy is in the directory** under a name, and the path of the copy leads there. -/
def Has (directory : Path) (name : String) (content : Content) (tree : FileTree) : Prop :=
  ∃ room mode, tree.room? directory = some room ∧ Path.IsName name ∧
    isTooLong (directory.join ⟨name⟩) = false ∧ tree.walk room name = some (room ++ [name]) ∧
    tree.get? (room ++ [name]) = some (.file mode content)

/-- The path of the copy leads to its place. -/
theorem Has.located {name : String} (hrooted : tree.IsRooted)
    (h : tree.Has directory name content) :
    ∃ room mode, tree.room? directory = some room ∧
      tree.locate? (directory.join ⟨name⟩) = some (room ++ [name]) ∧
      tree.locateLink? (directory.join ⟨name⟩) = some (room ++ [name]) ∧
      tree.get? (room ++ [name]) = some (.file mode content) := by
  obtain ⟨room, mode, hroom, hname, hshort, hstep, hfile⟩ := h
  have hfree : tree.linkAt? (room ++ [name]) = none := by rw [linkAt?, hfile]
  obtain ⟨-, -, hfollow⟩ := of_room? hrooted hroom
  exact ⟨room, mode, hroom,
    locate?_iff.mpr ⟨hshort, hfollow true name _ hname.toIsStep hstep hfree⟩,
    locateLink?_iff.mpr ⟨hshort, hfollow false name _ hname.toIsStep hstep hfree⟩, hfile⟩

/-- **The copy has its content.** -/
theorem Has.content? {name : String} (hrooted : tree.IsRooted)
    (h : tree.Has directory name content) :
    tree.content? (directory.join ⟨name⟩) = some content := by
  obtain ⟨room, mode, -, hplace, -, hfile⟩ := h.located hrooted
  rw [FileTree.content?, find?_of_place hplace (append_name_ne_nil room name), hfile]

/-- A copy stays where the ways are kept and nothing changes in its place. -/
theorem Has.of_keepsWays {name : String} (h : before.Has directory name content)
    (hways : before.KeepsWays after)
    (hsame : ∀ room, before.room? directory = some room →
      after.get? (room ++ [name]) = before.get? (room ++ [name])) :
    after.Has directory name content := by
  obtain ⟨room, mode, hroom, hname, hshort, hstep, hfile⟩ := h
  exact ⟨room, mode, hways.locate? hroom, hname, hshort, hways.walk hstep,
    (hsame room hroom).trans hfile⟩

/-! ## 2. All of them -/

/-- **These files are in the directory, and no others.** -/
structure Houses (directory : Path) (inside : String → Option Content) (tree : FileTree) :
    Prop where
  rooted : tree.IsRooted
  has : ∀ {name content}, inside name = some content → tree.Has directory name content
  clear : ∀ steps, steps ≠ [] → (∀ name, steps = [name] → inside name = none) →
    tree.below directory steps = none

/-- A name with something else in its place. -/
def changed (inside : String → Option Content) (name : String) (content : Option Content)
    (other : String) : Option Content :=
  if other = name then content else inside other

/-- Nothing is in a directory at first. -/
theorem Houses.of_isVacant (hrooted : tree.IsRooted) (hvacant : tree.IsVacant directory) :
    tree.Houses directory fun _ => none :=
  ⟨hrooted, fun h => absurd h (Option.some_ne_none _).symm,
    fun steps hsteps _ => hvacant steps hsteps⟩

/-- Others leave the copies alone. -/
theorem Houses.spared (h : before.Houses directory inside)
    (hspares : before.Spares directory after) : after.Houses directory inside := by
  have hrooted' := hspares.rooted h.rooted
  refine ⟨hrooted', fun {name content} hinside => ?_, fun steps hsteps hnames => ?_⟩
  · obtain ⟨room, mode, hroom, hname, hshort, hstep, hfile⟩ := h.has hinside
    have hroom' := hspares.room hroom
    refine ⟨room, mode, hroom', hname, hshort,
      walk_of_isDirectoryAt hstep (of_room? hrooted' hroom').1, ?_⟩
    rw [← below_of_room? hrooted' hroom', hspares.below _ (List.cons_ne_nil _ _),
      below_of_room? h.rooted hroom, hfile]
  · rw [hspares.below steps hsteps]
    exact h.clear steps hsteps hnames

/-- In the place of a copy is the file that is inside under its name, or nothing. -/
theorem Houses.get?_name (h : tree.Houses directory inside) {room : Place}
    (hroom : tree.room? directory = some room) (name : String) :
    (inside name = none ∧ tree.get? (room ++ [name]) = none) ∨
      ∃ kept old, inside name = some old ∧ tree.get? (room ++ [name]) = some (.file kept old) := by
  cases hinside : inside name with
  | none =>
    refine Or.inl ⟨rfl, ?_⟩
    rw [← below_of_room? h.rooted hroom]
    refine h.clear _ (List.cons_ne_nil _ _) fun other hother => ?_
    rwa [← (List.cons.inj hother).1]
  | some old =>
    obtain ⟨room', kept, hroom', -, -, -, hfile⟩ := h.has hinside
    obtain rfl := Option.some.inj (hroom.symm.trans hroom')
    exact Or.inr ⟨kept, old, rfl, hfile⟩

/-- **The path of a copy leads to its place**, whatever is there, if it leads anywhere. -/
theorem Houses.located (h : tree.Houses directory inside) {name : String} {place : Place}
    (hname : Path.IsName name) (hplace : tree.locate? (directory.join ⟨name⟩) = some place) :
    ∃ room, tree.room? directory = some room ∧ tree.walk room name = some (room ++ [name]) ∧
      place = room ++ [name] := by
  obtain ⟨room, next, hroom, hstep⟩ := room?_of_locate? h.rooted hname.toIsStep hplace
  obtain rfl := walk_name hname hstep
  have hfree : tree.linkAt? (room ++ [name]) = none := by
    obtain ⟨-, hnone⟩ | ⟨kept, old, -, hfile⟩ := h.get?_name hroom name
    · rw [linkAt?, hnone]
    · rw [linkAt?, hfile]
  have hfollow := (of_room? h.rooted hroom).2.2 true name _ hname.toIsStep hstep hfree
  exact ⟨room, hroom, hstep, Option.some.inj ((locate?_iff.mp hplace).2.symm.trans hfollow)⟩

/-- **A copy has the content that is inside under its name**, and none if nothing is. -/
theorem Houses.content? (h : tree.Houses directory inside) {name : String}
    (hname : Path.IsName name) : tree.content? (directory.join ⟨name⟩) = inside name := by
  cases hinside : inside name with
  | some content => exact (h.has hinside).content? h.rooted
  | none =>
    rw [FileTree.content?, FileTree.find?]
    cases hplace : tree.locate? (directory.join ⟨name⟩) with
    | none => rfl
    | some place =>
      obtain ⟨room, hroom, -, rfl⟩ := h.located hname hplace
      obtain ⟨-, hnothing⟩ | ⟨kept, old, hsome, -⟩ := h.get?_name hroom name
      · rw [Option.bind_some, entryAt?, if_neg (append_name_ne_nil room name), hnothing]
      · rw [hinside] at hsome
        cases hsome

/-! ## 3. Making and removing a copy -/

/-- **A copy that is given up is removed**, and no other. -/
theorem Houses.remove (h : before.Houses directory inside) {name : String}
    (hinside : inside name = some content) :
    ∃ after, before.remove (directory.join ⟨name⟩) = some after ∧
      after.Houses directory (changed inside name none) := by
  obtain ⟨room, mode, hroom, -, hplace, hfile⟩ := (h.has hinside).located h.rooted
  obtain ⟨hways, -⟩ := keepsWays_erase hfile (append_name_ne_nil room name)
  have hrooted' : (before.erase (room ++ [name])).IsRooted := (hways.link []).trans h.rooted
  refine ⟨_, remove_file hplace hfile, hrooted', fun {other kept} hkept => ?_,
    fun steps hsteps hnames => ?_⟩
  · have hother : other ≠ name := fun hsame => by simp [changed, hsame] at hkept
    rw [changed, if_neg hother] at hkept
    refine (h.has hkept).of_keepsWays hways fun room' hroom' => ?_
    obtain rfl := Option.some.inj (hroom.symm.trans hroom')
    rw [get?_erase, if_neg]
    simpa using hother
  · rw [below_of_room? hrooted' (hways.locate? hroom), get?_erase]
    split
    · rfl
    · next hother =>
      rw [← below_of_room? h.rooted hroom]
      refine h.clear steps hsteps fun single hsingle => ?_
      have hne : single ≠ name := fun hsame => hother (by rw [hsingle, hsame])
      have hnone := hnames single hsingle
      rwa [changed, if_neg hne] at hnone

/-- What a write does to a file that is there: it keeps the mode. -/
theorem writeContent_onto {mode kept : Nat} {path : Path} {place : Place} {old written : Content}
    (hplace : before.locate? path = some place) (hroot : place ≠ [])
    (hfile : before.get? place = some (.file kept old)) :
    before.writeContent mode path written =
      some ((before.put place (.file kept written)).stamp place) := by
  simp [writeContent, hplace, hroot, hfile]

/-- A file that is copied where a file is replaces it, with its mode. -/
theorem get?_copy_onto {source target : Path} {place : Place} {kept : Nat} {old : Content}
    (hcopied : before.copy source target = some after) (hplace : before.locate? target = some place)
    (hroot : place ≠ []) (hfile : before.get? place = some (.file kept old)) :
    before.KeepsWays after ∧ ∃ mode content, before.find? source = some (.file mode content) ∧
      ∀ other, after.get? other =
        if other = place then some (.file mode content) else before.get? other := by
  obtain ⟨entry, hentry, hcopied⟩ := Option.bind_eq_some_iff.mp hcopied
  cases entry with
  | directory | link | pipe | device => cases hcopied
  | file mode content =>
    let written : FileTree := (before.put place (.file kept content)).stamp place
    have hget : ∀ other, written.get? other =
        if other = place then some (.file kept content) else before.get? other :=
      fun other => get?_put before place other _
    have hways : before.KeepsWays written :=
      .stamp (.put (by simp [hfile]) (by simp [hfile]) rfl) place
    have hfound : written.find? target = some (.file kept content) := by
      rw [find?_of_place (hways.locate? hplace) hroot, hget, if_pos rfl]
    have hset : written.setMode target mode = some (written.put place (.file mode content)) := by
      simp [setMode, hways.locate? hplace, hfound, hroot, Entry.withMode]
    have hafter : some (written.put place (.file mode content)) = some after := by
      rw [← hset, ← hcopied]
      simp only [writeContent_onto hplace hroot hfile, Option.bind_eq_bind, Option.bind_some,
        written]
    obtain rfl := Option.some.inj hafter
    have hself : written.get? place = some (.file kept content) := by rw [hget, if_pos rfl]
    refine ⟨hways.trans (.put (by simp [hself]) (by simp [hself]) rfl), mode, content, hentry,
      fun other => ?_⟩
    rw [get?_put]
    split
    · rfl
    · next hother => rw [hget, if_neg hother]

/-- Making the directory changes nothing about the copies. -/
theorem Houses.ensureDirectory (h : tree.Houses directory inside) :
    (WorkingCopy.ensureDirectory directory tree).2.Houses directory inside := by
  have hgrows := Grows.ensureDirectory directory tree
  refine ⟨(hgrows.link []).trans h.rooted, fun {name content} hinside => ?_,
    fun steps hsteps hnames => ?_⟩
  · have hhas := h.has hinside
    obtain ⟨room, mode, hroom, -, -, -, hfile⟩ := hhas
    refine (h.has hinside).of_keepsWays hgrows.toKeepsWays fun room' hroom' => ?_
    obtain rfl := Option.some.inj (hroom.symm.trans hroom')
    rw [hfile, hgrows.entry hfile]
  · rw [below_ensureDirectory h.rooted]
    exact h.clear steps hsteps hnames

/-- **A copy that cannot be made changes nothing inside.** -/
theorem Houses.copySource_none {source : Path} (h : before.Houses directory inside)
    (hmade : WorkingCopy.copySource directory source before = (none, after)) :
    after.Houses directory inside := by
  obtain ⟨-, rfl | rfl⟩ | ⟨_, _, hcopy, -⟩ := WorkingCopy.copySource_cases hmade
  · exact h
  · exact h.ensureDirectory
  · cases hcopy

/-- **A file that is put in the place of a copy** is inside under its name; everything else stays
inside. -/
theorem Houses.replaced (h : before.Houses directory inside) {room : Place} {name : String}
    {mode : Nat} (hroom : before.room? directory = some room) (hname : Path.IsName name)
    (hshort : isTooLong (directory.join ⟨name⟩) = false)
    (hstep : before.walk room name = some (room ++ [name])) (hways : before.KeepsWays after)
    (hafter : ∀ other, after.get? other =
      if other = room ++ [name] then some (.file mode content) else before.get? other) :
    after.Houses directory (changed inside name (some content)) := by
  have hrooted' : after.IsRooted := (hways.link []).trans h.rooted
  have hroom' := hways.locate? hroom
  refine ⟨hrooted', fun {other kept} hkept => ?_, fun steps hsteps hnames => ?_⟩
  · by_cases hother : other = name
    · rw [changed, if_pos hother] at hkept
      obtain rfl := Option.some.inj hkept
      obtain rfl := hother
      exact ⟨room, mode, hroom', hname, hshort, hways.walk hstep, by rw [hafter, if_pos rfl]⟩
    · rw [changed, if_neg hother] at hkept
      refine (h.has hkept).of_keepsWays hways fun room' hthen => ?_
      obtain rfl := Option.some.inj (hroom.symm.trans hthen)
      rw [hafter, if_neg]
      simpa using hother
  · have hne : steps ≠ [name] := fun hsame => by simpa [changed] using hnames name hsame
    rw [below_of_room? hrooted' hroom', hafter, if_neg (by simpa using hne),
      ← below_of_room? h.rooted hroom]
    refine h.clear steps hsteps fun single hsingle => ?_
    have hnone := hnames single hsingle
    rwa [changed, if_neg fun hsame => hne (by rw [hsingle, hsame])] at hnone

/-- **A copy that is made** is inside under its name, with the content of the source, and replaces
what was there under that name. -/
theorem Houses.copySource_some {source : Path} (h : before.Houses directory inside)
    (hmade : WorkingCopy.copySource directory source before = (some copy, after)) :
    ∃ name content, WorkingCopy.nameFor? source = some name ∧ Path.IsName name ∧
      copy = directory.join ⟨name⟩ ∧ before.content? source = some content ∧
      after.Houses directory (changed inside name (some content)) := by
  obtain ⟨hnone, -⟩ | ⟨name, made, hcopy, hthere, hname, hready, hcopied⟩ :=
    WorkingCopy.copySource_cases hmade
  · cases hnone
  have hisName := WorkingCopy.isName_of_nameFor? hname hthere
  have hhouses := h.ensureDirectory
  rw [hready] at hhouses
  obtain ⟨place, hplace⟩ := located_of_copy hcopied
  obtain ⟨room, hroom, hstep, rfl⟩ := hhouses.located hisName hplace
  have hput : made.KeepsWays after ∧ ∃ mode content,
      made.find? source = some (.file mode content) ∧ ∀ other, after.get? other =
        if other = room ++ [name] then some (.file mode content) else made.get? other := by
    obtain ⟨-, hnone⟩ | ⟨kept, old, -, hfile⟩ := hhouses.get?_name hroom name
    · exact get?_copy hcopied hplace hnone
    · exact get?_copy_onto hcopied hplace (append_name_ne_nil room name) hfile
  obtain ⟨hways, mode, content, hsource, hafter⟩ := hput
  refine ⟨name, content, hname, hisName, Option.some.inj hcopy, ?_,
    hhouses.replaced hroom hisName (locate?_iff.mp hplace).1 hstep hways hafter⟩
  obtain ⟨entry, hentry⟩ := Option.isSome_iff_exists.mp hthere
  obtain rfl := Option.some.inj
    (((Grows.of_ensureDirectory hready).find? hentry).symm.trans hsource)
  rw [FileTree.content?, hentry]

end FileTree

end RenderSync
