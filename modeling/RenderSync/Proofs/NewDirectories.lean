import RenderSync.Proofs.Siblings

/-!
# Directories that are made for a path

In a whole tree every entry is in a directory (`IsWhole`), and making directories keeps it whole.
A path leads where its steps lead (`leads?_leading`), so whoever gets to a file comes through the
parent of its path (`IsAbove.located`).  A path may lead up again with `..`; where it does so only
from directories that are there (`ClimbsFromThere`), making the directories of its parent opens no
way to anything that was there: the parent leads to a place that is new, with nothing below it
(`isNew_of_layDirectories`).  What the path finds is therefore what it found before, which is
nothing (`IsAbove.find?_of_missing`, `IsAbove.find?_of_isNew`).  And wherever the path leads,
nothing but directories is made, and at most the mode of one changes (`KeepsOutside`).

Making directories may also stop on the way, and those that were made stay.  Whoever tries again
gets as far as that (`layDirectories_again`).
-/

namespace RenderSync

namespace FileTree

variable {tree before after : FileTree} {path parent : Path} {place : Place}

/-! ## 1. Whole trees -/

/-- **Every entry is in a directory**, and the root is no link. -/
structure IsWhole (tree : FileTree) : Prop where
  rooted : tree.IsRooted
  above : ∀ {place name}, (tree.get? (place ++ [name])).isSome = true →
    tree.isDirectoryAt place = true

/-- A directory other than the root is an entry. -/
theorem isSome_of_isDirectoryAt (hdirectory : tree.isDirectoryAt place = true)
    (hroot : place ≠ []) : (tree.get? place).isSome = true := by
  unfold isDirectoryAt at hdirectory
  rw [Bool.or_eq_true, decide_eq_true_eq, or_iff_right hroot] at hdirectory
  split at hdirectory
  · next mode hfound => rw [hfound, Option.isSome]
  · cases hdirectory

/-- What has something below it is a directory. -/
theorem IsWhole.of_below (h : tree.IsWhole) (place : Place) (names : List String) :
    names ≠ [] → (tree.get? (place ++ names)).isSome = true → tree.isDirectoryAt place = true := by
  induction names generalizing place with
  | nil => exact fun hnames => absurd rfl hnames
  | cons name rest ih =>
    intro _ hthere
    cases rest with
    | nil => exact h.above hthere
    | cons next rest =>
      have hmore : place ++ name :: next :: rest = (place ++ [name]) ++ next :: rest := by simp
      rw [hmore] at hthere
      have hbelow := ih (place ++ [name]) (List.cons_ne_nil _ _) hthere
      exact h.above (isSome_of_isDirectoryAt hbelow (by simp))

/-- What is above a directory is one. -/
theorem IsWhole.dropLast (h : tree.IsWhole) (hdirectory : tree.isDirectoryAt place = true) :
    tree.isDirectoryAt place.dropLast = true := by
  rcases List.eq_nil_or_concat place with rfl | ⟨front, name, rfl⟩
  · exact hdirectory
  · rw [List.concat_eq_append] at hdirectory ⊢
    rw [List.dropLast_concat]
    exact h.above (isSome_of_isDirectoryAt hdirectory (by simp))

/-- A tree stays whole where the ways are kept and what is new is in a directory. -/
theorem IsWhole.of_keepsWays (h : before.IsWhole) (hways : before.KeepsWays after)
    (hnew : ∀ {place name}, (after.get? (place ++ [name])).isSome = true →
      (before.get? (place ++ [name])).isSome = true ∨ before.isDirectoryAt place = true) :
    after.IsWhole := by
  refine ⟨(hways.link []).trans h.rooted, fun hthere => hways.directory ?_⟩
  rcases hnew hthere with hold | hdirectory
  · exact h.above hold
  · exact hdirectory

/-- What making a directory does. -/
theorem makeDirectory_cases (hmade : before.makeDirectory path = some after) :
    ∃ place, before.locateLink? (withoutEndSlash path) = some place ∧ place ≠ [] ∧
      before.get? place = none ∧ before.isDirectoryAt place.dropLast = true ∧
      after.get? place = some (.directory newDirectoryMode) ∧
      ∀ other, other ≠ place → after.get? other = before.get? other := by
  obtain ⟨place, hplace, hmade⟩ := Option.bind_eq_some_iff.mp hmade
  split at hmade
  · cases hmade
  next hfresh =>
  split at hmade
  · next hdirectory =>
    simp only [Bool.or_eq_true, decide_eq_true_eq, not_or, Bool.not_eq_true,
      Option.isSome_eq_false_iff, Option.isNone_iff_eq_none] at hfresh
    refine ⟨place, hplace, hfresh.1, hfresh.2, hdirectory, ?_, fun other hother => ?_⟩ <;>
      rw [← Option.some.inj hmade]
    · exact (get?_put before place place _).trans (if_pos rfl)
    · exact (get?_put before place other _).trans (if_neg hother)
  · cases hmade

/-- **A tree to which directories are added stays whole.** -/
theorem IsWhole.makeDirectory (h : before.IsWhole)
    (hmade : before.makeDirectory path = some after) : after.IsWhole := by
  obtain ⟨place, -, -, -, hdirectory, -, hothers⟩ := makeDirectory_cases hmade
  refine h.of_keepsWays (Grows.makeDirectory hmade).toKeepsWays fun {above name} hthere => ?_
  by_cases hplace : above ++ [name] = place
  · rw [← hplace, List.dropLast_concat] at hdirectory
    exact Or.inr hdirectory
  · rw [hothers _ hplace] at hthere
    exact Or.inl hthere

theorem IsWhole.lays (h : before.IsWhole) (hlays : before.Lays after) : after.IsWhole := by
  induction hlays with
  | none => exact h
  | one _ hmade ih => exact ih.makeDirectory hmade

/-! ## 2. The last step of a path -/

/-- The path can be used at all. -/
structure IsUsable (path : Path) : Prop where
  short : isTooLong path = false
  text : path.text ≠ ""
  nul : path.text.toList.contains '\x00' = false

/-- Where steps lead from where a path begins. -/
def leads? (tree : FileTree) (last : Bool) (path : Path) (steps : List String) : Option Place :=
  tree.walkThrough last (mostLinks + 1) (if path.isAbsolute then [] else tree.here) steps

theorem followUpTo_iff {last : Bool} :
    tree.followUpTo last path = some place ↔
      (path.text ≠ "" ∧ path.text.toList.contains '\x00' = false) ∧
        tree.leads? last path path.pieces = some place := by
  unfold followUpTo
  split
  · next hbad =>
    rw [Bool.or_eq_true, decide_eq_true_eq] at hbad
    refine iff_of_false nofun fun hgood => ?_
    rcases hbad with hbad | hbad
    · exact hgood.1.1 hbad
    · rw [hbad] at hgood
      exact absurd hgood.1.2 (by decide)
  · next hgood =>
    rw [Bool.or_eq_true, decide_eq_true_eq, not_or, Bool.not_eq_true] at hgood
    exact (and_iff_right hgood).symm

/-- **A path leads where its pieces lead**, if it can be used. -/
theorem locate?_iff_leads? :
    tree.locate? path = some place ↔
      IsUsable path ∧ tree.leads? true path path.pieces = some place := by
  rw [locate?_iff, followUpTo_iff]
  exact ⟨fun h => ⟨⟨h.1, h.2.1.1, h.2.1.2⟩, h.2.2⟩, fun h => ⟨h.1.1, ⟨h.1.2, h.1.3⟩, h.2⟩⟩

theorem locateLink?_iff_leads? :
    tree.locateLink? path = some place ↔
      IsUsable path ∧ tree.leads? false path path.pieces = some place := by
  rw [locateLink?_iff, followUpTo_iff]
  exact ⟨fun h => ⟨⟨h.1, h.2.1.1, h.2.1.2⟩, h.2.2⟩, fun h => ⟨h.1.1, ⟨h.1.2, h.1.3⟩, h.2⟩⟩

/-- What a step does: it stays, leads up, or leads down. -/
theorem walk_cases {next : Place} {piece : String} (h : tree.walk place piece = some next) :
    (Path.isStay piece = true ∧ next = place) ∨ (piece = ".." ∧ next = place.dropLast) ∨
      (Path.isStay piece = false ∧ piece ≠ ".." ∧ next = place ++ [piece]) := by
  rw [walk, isDirectoryAt_of_walk h, if_neg (by decide)] at h
  split at h
  · next hstay => exact Or.inl ⟨hstay, (Option.some.inj h).symm⟩
  next hstep =>
  split at h
  · next hup => exact Or.inr (Or.inl ⟨hup, (Option.some.inj h).symm⟩)
  next hdown =>
  split at h
  · cases h
  · exact Or.inr (Or.inr ⟨Bool.not_eq_true _ ▸ hstep, hdown, (Option.some.inj h).symm⟩)

/-- **What is no directory is named by a step that leads down.** -/
theorem IsWhole.last_step (h : tree.IsWhole) (hplace : tree.locateLink? path = some place)
    (hdirectory : tree.isDirectoryAt place = false) :
    ∃ steps name above, path.pieces = steps ++ [name] ∧ Path.isStay name = false ∧ name ≠ ".." ∧
      tree.leads? true path steps = some above ∧ tree.isDirectoryAt above = true ∧
      place = above ++ [name] := by
  obtain ⟨-, hleads⟩ := locateLink?_iff_leads?.mp hplace
  rcases List.eq_nil_or_concat path.pieces with hnil | ⟨steps, name, hpieces⟩
  · exact absurd (List.map_eq_nil_iff.mp hnil) (Text.splitAt_ne_nil _ _)
  rw [List.concat_eq_append] at hpieces
  rw [hpieces] at hleads
  obtain ⟨above, next, habove, hstep, hnext⟩ := walkThrough_of_concat _ hleads
  obtain rfl := hnext rfl
  have hthere := isDirectoryAt_of_walk hstep
  rcases walk_cases hstep with ⟨-, rfl⟩ | ⟨-, rfl⟩ | ⟨hdown, hup, hbelow⟩
  · exact absurd (hthere.symm.trans hdirectory) (by decide)
  · exact absurd ((h.dropLast hthere).symm.trans hdirectory) (by decide)
  · exact ⟨steps, name, above, hpieces, hdown, hup, habove, hthere, hbelow⟩

/-- Pieces that stay lead nowhere else. -/
theorem leads?_of_stays (hrooted : tree.IsRooted) {stays : List String}
    (hstays : ∀ piece ∈ stays, Path.isStay piece = true) : ∀ {steps : List String},
      tree.leads? true path (steps ++ stays) = some place →
        tree.leads? true path steps = some place := by
  induction stays with
  | nil =>
    intro steps h
    rwa [List.append_nil] at h
  | cons piece rest ih =>
    intro steps h
    rw [List.append_cons] at h
    have hall := ih (fun other hother => hstays other (List.mem_cons_of_mem _ hother)) h
    obtain ⟨above, next, habove, hstep, -⟩ := walkThrough_of_concat _ hall
    have hfree := hrooted.linkAt? (isDirectoryAt_of_walk hstep)
    rcases walk_cases hstep with ⟨-, rfl⟩ | ⟨rfl, -⟩ | ⟨hdown, -⟩
    · have hsame := walkThrough_concat true _ habove hstep hfree
      rw [leads?, ← hall, leads?, hsame]
      exact habove
    · exact absurd (hstays ".." List.mem_cons_self) (by decide)
    · exact absurd ((hstays piece List.mem_cons_self).symm.trans hdown) (by decide)

/-- From a directory they can be taken. -/
theorem leads?_append_stays (hrooted : tree.IsRooted) {stays : List String}
    (hstays : ∀ piece ∈ stays, Path.isStay piece = true)
    (hdirectory : tree.isDirectoryAt place = true) : ∀ {steps : List String},
      tree.leads? true path steps = some place →
        tree.leads? true path (steps ++ stays) = some place := by
  induction stays with
  | nil =>
    intro steps h
    rwa [List.append_nil]
  | cons piece rest ih =>
    intro steps h
    rw [List.append_cons]
    have hstay : piece = "" ∨ piece = "." := by
      simpa [Path.isStay] using hstays piece List.mem_cons_self
    exact ih (fun other hother => hstays other (List.mem_cons_of_mem _ hother))
      (walkThrough_concat true _ h (walk_stay hdirectory hstay) (hrooted.linkAt? hdirectory))

/-- **A path leads where its steps lead.** -/
theorem leads?_leading (hrooted : tree.IsRooted) {pieces : List String}
    (h : tree.leads? true path pieces = some place) :
    tree.leads? true path (Path.leading pieces) = some place := by
  obtain ⟨stays, hpieces, hstays⟩ := Path.append_of_leading pieces
  rw [hpieces] at h
  exact leads?_of_stays hrooted hstays h

theorem leads?_of_leading (hrooted : tree.IsRooted) {pieces : List String}
    (hdirectory : tree.isDirectoryAt place = true)
    (h : tree.leads? true path (Path.leading pieces) = some place) :
    tree.leads? true path pieces = some place := by
  obtain ⟨stays, hpieces, hstays⟩ := Path.append_of_leading pieces
  rw [hpieces]
  exact leads?_append_stays hrooted hstays hdirectory h

/-! ## 3. Places that are new -/

/-- **Where a path leads up, it does so from a directory that is there.** -/
def ClimbsFromThere (tree : FileTree) (path : Path) : Prop :=
  ∀ front back, path.pieces = front ++ ".." :: back →
    ∃ place, tree.leads? true path front = some place ∧ tree.isDirectoryAt place = true

/-- So does a path that does not lead up. -/
theorem climbsFromThere_of_notMem (h : ".." ∉ path.pieces) : tree.ClimbsFromThere path := by
  intro front back hpieces
  rw [hpieces] at h
  exact absurd (List.mem_append_right front List.mem_cons_self) h

/-- The path to a directory that is above a file. -/
structure IsAbove (parent path : Path) : Prop where
  spec : path.parent? = some parent
  text : parent.text ≠ ""

theorem IsAbove.isTooLong (h : IsAbove parent path) (hshort : isTooLong path = false) :
    isTooLong parent = false := by
  obtain ⟨-, -, -, -, -, rest, hrest⟩ := Path.parent?_spec h.spec h.text
  rw [FileTree.isTooLong, decide_eq_false_iff_not, Nat.not_lt, hrest, Utf8.size_append] at hshort
  rw [FileTree.isTooLong, decide_eq_false_iff_not, Nat.not_lt]
  exact Nat.le_trans (Nat.le_add_right _ _) hshort

theorem IsAbove.isUsable (h : IsAbove parent path) (husable : IsUsable path) :
    IsUsable parent := by
  obtain ⟨-, -, -, -, -, rest, hrest⟩ := Path.parent?_spec h.spec h.text
  have hnul := husable.nul
  rw [hrest, List.contains_append, Bool.or_eq_false_iff] at hnul
  exact ⟨h.isTooLong husable.short, h.text, hnul.1⟩

theorem IsAbove.isAbsolute (h : IsAbove parent path) : path.isAbsolute = parent.isAbsolute := by
  obtain ⟨-, -, -, -, -, rest, hrest⟩ := Path.parent?_spec h.spec h.text
  have hchars : parent.text.toList ≠ [] := fun hnil => h.text (String.toList_eq_nil_iff.mp hnil)
  rw [Path.isAbsolute, Path.isAbsolute, hrest, List.head?_append,
    List.head?_eq_some_head hchars, Option.some_or]

theorem IsAbove.leads? (h : IsAbove parent path) (tree : FileTree) (last : Bool)
    (steps : List String) : tree.leads? last path steps = tree.leads? last parent steps := by
  rw [FileTree.leads?, FileTree.leads?, h.isAbsolute]

/-- **Whoever takes the steps of a path comes through its parent**, and leads on from there. -/
theorem IsAbove.taken (h : IsAbove parent path) (hrooted : tree.IsRooted)
    (husable : IsUsable path) {pieces : List String}
    (hleading : Path.leading pieces = Path.leading path.pieces)
    (hleads : tree.leads? true path pieces = some place) :
    ∃ front last above next, Path.leading path.pieces = front ++ [last] ∧
      Path.isStay last = false ∧ tree.leads? true path front = some above ∧
      tree.isDirectoryAt above = true ∧ tree.locate? parent = some above ∧
      tree.walk above last = some next ∧ (tree.linkAt? next = none → next = place) := by
  obtain ⟨front, last, hpieces, hstep, hfront, -⟩ := Path.parent?_spec h.spec h.text
  have hsteps := leads?_leading hrooted hleads
  rw [hleading, hpieces] at hsteps
  obtain ⟨above, next, habove, hnext, -⟩ := walkThrough_of_concat _ hsteps
  have hdirectory := isDirectoryAt_of_walk hnext
  refine ⟨front, last, above, next, hpieces, hstep, habove, hdirectory, ?_, hnext, fun hfree => ?_⟩
  · have hleading := leads?_leading hrooted habove
    rw [hfront, h.leads?] at hleading
    exact locate?_iff_leads?.mpr
      ⟨h.isUsable husable, leads?_of_leading hrooted hdirectory hleading⟩
  · exact Option.some.inj ((walkThrough_concat true _ habove hnext hfree).symm.trans hsteps)

theorem IsAbove.located (h : IsAbove parent path) (hrooted : tree.IsRooted)
    (hplace : tree.locate? path = some place) :
    ∃ front last above next, Path.leading path.pieces = front ++ [last] ∧
      Path.isStay last = false ∧ tree.leads? true path front = some above ∧
      tree.isDirectoryAt above = true ∧ tree.locate? parent = some above ∧
      tree.walk above last = some next ∧ (tree.linkAt? next = none → next = place) := by
  obtain ⟨husable, hleads⟩ := locate?_iff_leads?.mp hplace
  exact h.taken hrooted husable rfl hleads

/-- So the parent is a directory then. -/
theorem IsAbove.isDirectory (h : IsAbove parent path) (hrooted : tree.IsRooted)
    (husable : IsUsable path) {pieces : List String}
    (hleading : Path.leading pieces = Path.leading path.pieces)
    (hleads : tree.leads? true path pieces = some place) : tree.isDirectory parent = true := by
  obtain ⟨-, -, above, -, -, -, -, hdirectory, hparent, -, -⟩ :=
    h.taken hrooted husable hleading hleads
  exact isDirectory_of_locate? hparent hdirectory

/-- A path that climbs from what is there has a parent that does. -/
theorem IsAbove.climbs (h : IsAbove parent path) (hclimbs : tree.ClimbsFromThere path) :
    tree.ClimbsFromThere parent := by
  intro front back hpieces
  obtain ⟨steps, last, hleading, -, hsteps, -⟩ := Path.parent?_spec h.spec h.text
  obtain ⟨back', hback⟩ := @Path.leading_of_append ".." (by decide) front back
  obtain ⟨stays, hstays, -⟩ := Path.append_of_leading steps
  obtain ⟨stays', hstays', -⟩ := Path.append_of_leading path.pieces
  have hall : path.pieces = front ++ ".." :: (back' ++ stays ++ [last] ++ stays') := by
    rw [hstays', hleading, hstays, hsteps, hpieces, hback]
    simp
  rw [← h.leads?]
  exact hclimbs front _ hall

/-- **A place is new**: nothing was there before, and nothing is below it after. -/
structure IsNew (before after : FileTree) (place : Place) : Prop where
  root : place ≠ []
  before : before.get? place = none
  below : ∀ names, names ≠ [] → after.get? (place ++ names) = none

/-- Nothing that was a directory is new. -/
theorem IsNew.isDirectoryAt (h : IsNew before after place) :
    before.isDirectoryAt place = false := by
  rw [FileTree.isDirectoryAt, decide_eq_false h.root, h.before]
  rfl

/-- What is below a new place is new. -/
theorem IsNew.below_append (h : IsNew before after place) (hgrows : before.Grows after)
    (name : String) : IsNew before after (place ++ [name]) := by
  refine ⟨by simp, ?_, fun names _ => ?_⟩
  · cases hold : before.get? (place ++ [name]) with
    | none => rfl
    | some entry =>
      have hkept := hgrows.entry hold
      rw [h.below [name] (List.cons_ne_nil _ _)] at hkept
      cases hkept
  · rw [List.append_assoc]
    exact h.below ([name] ++ names) (List.cons_ne_nil _ _)

/-- **Where the parent leads to a new place, the path leads to nothing below it.** -/
theorem IsAbove.beyond (h : IsAbove parent path) (hrooted : after.IsRooted)
    (hgrows : before.Grows after) (hclimbs : before.ClimbsFromThere path)
    (hnew : ∀ {place}, after.locate? parent = some place → IsNew before after place)
    (hplace : after.locate? path = some place) :
    ∃ above name, place = above ++ [name] ∧ IsNew before after above := by
  obtain ⟨front, last, above, next, hpieces, hstep, habove, -, hparent, hnext, hlast⟩ :=
    h.located hrooted hplace
  have hthere := hnew hparent
  rcases walk_cases hnext with ⟨hstay, -⟩ | ⟨rfl, -⟩ | ⟨-, -, rfl⟩
  · exact absurd (hstay.symm.trans hstep) (by decide)
  · -- a step up is taken from a directory that was there before
    obtain ⟨stays, hstays, -⟩ := Path.append_of_leading path.pieces
    rw [hpieces, List.append_assoc, List.singleton_append] at hstays
    obtain ⟨old, hold, hdirectory⟩ := hclimbs front stays hstays
    have hsame : after.leads? true path front = some old := by
      rw [FileTree.leads?, hgrows.here]
      exact hgrows.walkThrough true _ hold
    obtain rfl : above = old := Option.some.inj (habove.symm.trans hsame)
    exact absurd (hdirectory.symm.trans hthere.isDirectoryAt) (by decide)
  · refine ⟨above, last, (hlast ?_).symm, hthere⟩
    rw [linkAt?, hthere.below [last] (List.cons_ne_nil _ _)]

/-- **A directory that is made is new**, also if others were made for it before. -/
theorem isNew_of_makeDirectory {made : FileTree} (hwhole : made.IsWhole)
    (hgrows : before.Grows made) (hshort : isTooLong path = false) (htext : path.text ≠ "")
    (hmade : made.makeDirectory path = some after) (hplace : after.locate? path = some place) :
    IsNew before after place := by
  obtain ⟨new, hnamed, hroot, hnone, -, hentry, hothers⟩ := makeDirectory_cases hmade
  have hdirectory : after.isDirectoryAt new = true := by simp [isDirectoryAt, hentry]
  have hlocated := locate?_of_withoutEndSlash hshort htext
    ((Grows.makeDirectory hmade).toKeepsWays.locateLink? hnamed) hdirectory
    (linkAt?_of_isDirectoryAt hdirectory hroot)
  obtain rfl : place = new := Option.some.inj (hplace.symm.trans hlocated)
  refine ⟨hroot, ?_, fun names hnames => ?_⟩
  · cases hold : before.get? place with
    | none => rfl
    | some entry => exact absurd ((hgrows.entry hold).symm.trans hnone) (by simp)
  · rw [hothers _ (by simpa using hnames), ← Option.not_isSome_iff_eq_none]
    intro hthere
    have habove := isSome_of_isDirectoryAt (hwhole.of_below place names hnames hthere) hroot
    rw [hnone] at habove
    cases habove

/-- A path that cannot be made leads below its parent, if anywhere. -/
theorem LaysPath.isNew_below (hwhole : before.IsWhole) {done : Bool}
    (habove : before.LaysPath parent done after) (hparent : path.parent? = some parent)
    (hclimbs : before.ClimbsFromThere path) (hshort : isTooLong path = false)
    (hnew : isTooLong parent = false → before.ClimbsFromThere parent →
      after = before ∨ ∀ {place}, after.locate? parent = some place → IsNew before after place) :
    after = before ∨ ∀ {place}, after.locate? path = some place → IsNew before after place := by
  by_cases hempty : parent.text = ""
  · exact Or.inl (habove.eq_of_empty hempty)
  have hlays := habove.lays
  have hdown : IsAbove parent path := ⟨hparent, hempty⟩
  refine (hnew (hdown.isTooLong hshort) (hdown.climbs hclimbs)).imp_right fun hnew => ?_
  intro place hplace
  obtain ⟨above, name, rfl, hthere⟩ :=
    hdown.beyond (hwhole.lays hlays).rooted (.of_lays hlays) hclimbs hnew hplace
  exact hthere.below_append (.of_lays hlays) name

/-- **Making the directories of a path makes new ones**, whether it succeeds or not: unless the tree
is as before, the path leads to a new place, if it leads anywhere. -/
theorem LaysPath.isNew (hwhole : before.IsWhole) {done : Bool}
    (h : before.LaysPath path done after) (hshort : isTooLong path = false)
    (hclimbs : before.ClimbsFromThere path) :
    after = before ∨ ∀ {place}, after.locate? path = some place → IsNew before after place := by
  induction h with
  | empty | there | stuck => exact Or.inl rfl
  | made htext hone =>
    exact Or.inr fun hplace =>
      isNew_of_makeDirectory hwhole (.refl before) hshort htext hone hplace
  | failed _ hparent habove ih => exact habove.isNew_below hwhole hparent hclimbs hshort ih
  | last htext _ habove hone _ =>
    exact Or.inr fun hplace => isNew_of_makeDirectory (hwhole.lays habove.lays)
      (.of_lays habove.lays) hshort htext hone hplace
  | refused _ hparent habove _ _ ih => exact habove.isNew_below hwhole hparent hclimbs hshort ih

theorem isNew_of_layDirectories (hwhole : before.IsWhole)
    (hclimbs : before.ClimbsFromThere path) :
    (before.layDirectories path).2 = before ∨
      ∀ {place}, (before.layDirectories path).2.locate? path = some place →
        IsNew before (before.layDirectories path).2 place := by
  rw [layDirectories]
  split
  · exact Or.inl rfl
  · next hgood =>
    rw [Bool.or_eq_true, not_or, Bool.not_eq_true] at hgood
    exact (laysPath_layDirectoriesFuel _ path).isNew hwhole hgood.1 hclimbs

/-! ## 4. Directories that are made again -/

/-- Slashes at the end of a path are no steps. -/
theorem leading_withoutEndSlash (path : Path) :
    Path.leading (withoutEndSlash path).pieces = Path.leading path.pieces := by
  obtain ⟨count, hpieces⟩ := pieces_withoutEndSlash path
  rw [hpieces]
  clear hpieces
  induction count with
  | zero => rw [List.replicate_zero, List.append_nil]
  | succ count ih =>
    rw [List.replicate_succ', ← List.append_assoc, Path.leading_append_stay rfl]
    exact ih

/-- **Where a directory is made, nothing is**, and all steps of the path lead there. -/
theorem leads?_of_makeDirectory (htext : path.text ≠ "")
    (h : tree.makeDirectory path = some after) :
    ∃ place, place ≠ [] ∧ tree.get? place = none ∧
      tree.leads? true path (withoutEndSlash path).pieces = some place := by
  obtain ⟨place, hplace, hroot, hnone, -⟩ := makeDirectory_cases h
  obtain ⟨-, hleads⟩ := locateLink?_iff_leads?.mp hplace
  have hfree : tree.linkAt? place = none := by rw [linkAt?, hnone]
  rw [leads?, isAbsolute_withoutEndSlash htext] at hleads
  exact ⟨place, hroot, hnone, walkThrough_true hleads hfree⟩

/-- A directory that is there is not made. -/
theorem makeDirectory_of_isDirectory (hrooted : tree.IsRooted) (htext : path.text ≠ "")
    (h : tree.isDirectory path = true) : tree.makeDirectory path = none := by
  cases hmade : tree.makeDirectory path with
  | none => rfl
  | some made =>
    obtain ⟨place, hroot, hnone, hleads⟩ := leads?_of_makeDirectory htext hmade
    obtain ⟨reached, hreached, hfound⟩ :
        ∃ reached, tree.locate? path = some reached ∧ (tree.entryAt? reached).isSome = true := by
      rw [isDirectory, find?] at h
      cases hreached : tree.locate? path with
      | none => rw [hreached] at h; cases h
      | some reached =>
        rw [hreached, Option.bind_some] at h
        split at h
        · next mode hentry => exact ⟨reached, rfl, by rw [hentry, Option.isSome]⟩
        · cases h
    obtain ⟨count, hpieces⟩ := pieces_withoutEndSlash path
    obtain ⟨-, hwhole⟩ := locate?_iff_leads?.mp hreached
    rw [hpieces] at hwhole
    have hstays : ∀ piece ∈ List.replicate count "", Path.isStay piece = true := by
      intro piece hpiece
      rw [List.eq_of_mem_replicate hpiece]
      rfl
    have hsame := leads?_of_stays hrooted hstays hwhole
    obtain rfl : place = reached := Option.some.inj (hleads.symm.trans hsame)
    rw [entryAt?, if_neg hroot, hnone] at hfound
    cases hfound

/-- **What has no directory above it is none, and cannot be made one.** -/
theorem IsAbove.not_made (h : IsAbove parent path) (hrooted : tree.IsRooted)
    (husable : IsUsable path) (hmissing : tree.isDirectory parent = false) :
    tree.isDirectory path = false ∧ tree.makeDirectory path = none := by
  have hnowhere : ∀ {pieces place}, Path.leading pieces = Path.leading path.pieces →
      tree.leads? true path pieces ≠ some place := fun hleading hleads =>
    absurd ((h.isDirectory hrooted husable hleading hleads).symm.trans hmissing) (by decide)
  refine ⟨?_, ?_⟩
  · cases hplace : tree.locate? path with
    | none =>
      rw [FileTree.isDirectory, find?, hplace]
      rfl
    | some place => exact absurd (locate?_iff_leads?.mp hplace).2 (hnowhere rfl)
  · cases hmade : tree.makeDirectory path with
    | none => rfl
    | some made =>
      obtain ⟨place, -, -, hleads⟩ := leads?_of_makeDirectory husable.text hmade
      exact absurd hleads (hnowhere (leading_withoutEndSlash path))

/-- The parent of a path can be named if the path can. -/
theorem nameable_of_parent? (hparent : path.parent? = some parent)
    (hshort : isTooLong path = false) (hnul : path.text.toList.contains '\x00' = false) :
    isTooLong parent = false ∧ parent.text.toList.contains '\x00' = false := by
  by_cases hempty : parent.text = ""
  · rw [isTooLong, hempty]
    exact ⟨by decide, by decide⟩
  · have habove : IsAbove parent path := ⟨hparent, hempty⟩
    obtain ⟨-, -, -, -, -, rest, hrest⟩ := Path.parent?_spec hparent hempty
    rw [hrest, List.contains_append, Bool.or_eq_false_iff] at hnul
    exact ⟨habove.isTooLong hshort, hnul.1⟩

/-- **A directory that could not be made is not there**, and still cannot be made; or nothing was
made at all. -/
theorem LaysPath.not_made (hrooted : before.IsRooted) {done : Bool}
    (h : before.LaysPath path done after) (hfailed : done = false)
    (hshort : isTooLong path = false) (hnul : path.text.toList.contains '\x00' = false) :
    after = before ∨ after.isDirectory path = false ∧ after.makeDirectory path = none := by
  induction h with
  | empty | made | there | last => cases hfailed
  | stuck => exact Or.inl rfl
  | @failed path parent after htext hparent habove ih =>
    by_cases hempty : parent.text = ""
    · exact Or.inl (habove.eq_of_empty hempty)
    have hrooted' : after.IsRooted := ((Grows.of_lays habove.lays).link []).trans hrooted
    obtain ⟨hshort', hnul'⟩ := nameable_of_parent? hparent hshort hnul
    exact (ih rfl hshort' hnul').imp_right fun ⟨hmissing, _⟩ =>
      IsAbove.not_made ⟨hparent, hempty⟩ hrooted' ⟨hshort, htext, hnul⟩ hmissing
  | refused _ _ _ hnone hdone => exact Or.inr ⟨hdone.trans hfailed, hnone⟩

/-- Where nothing can be made, nothing is, also with what is above it made again. -/
theorem layDirectoriesFuel_of_not_made {fuel : Nat} {done : Bool} (htext : path.text ≠ "")
    (hmissing : tree.isDirectory path = false) (hnone : tree.makeDirectory path = none)
    (hparent : path.parent? = some parent)
    (hlaid : tree.layDirectoriesFuel fuel parent = (done, tree)) :
    tree.layDirectoriesFuel (fuel + 1) path = (false, tree) := by
  rw [layDirectoriesFuel, if_neg htext, hnone, hmissing, hparent]
  dsimp only
  rw [hlaid, if_neg Bool.false_ne_true]
  split
  · rfl
  · cases done with
    | false => rfl
    | true =>
      dsimp only
      rw [hnone, hmissing]

/-- **Making a directory and those above it again changes nothing**, whether it was made or not. -/
theorem layDirectoriesFuel_again (hrooted : before.IsRooted) {fuel : Nat} :
    ∀ {path : Path} {done : Bool} {after : FileTree}, isTooLong path = false →
      path.text.toList.contains '\x00' = false →
      before.layDirectoriesFuel fuel path = (done, after) →
      after.layDirectoriesFuel fuel path = (done, after) := by
  induction fuel with
  | zero =>
    intro path done after _ _ h
    obtain ⟨rfl, rfl⟩ := Prod.mk.inj h
    rfl
  | succ fuel ih =>
    intro path done after hshort hnul h
    have hcame := LaysPath.of_layDirectoriesFuel h
    have hrooted' : after.IsRooted := ((Grows.of_lays hcame.lays).link []).trans hrooted
    by_cases htext : path.text = ""
    · rw [layDirectoriesFuel, if_pos htext] at h ⊢
      rw [← (Prod.mk.inj h).1]
    cases done with
    | true =>
      have hdirectory := hcame.isDirectory hshort htext
      rw [layDirectoriesFuel, if_neg htext, makeDirectory_of_isDirectory hrooted' htext hdirectory,
        hdirectory]
      rfl
    | false =>
      rcases hcame.not_made hrooted rfl hshort hnul with rfl | ⟨hmissing, hnone⟩
      · exact h
      have hunchanged : before = after → after.layDirectoriesFuel (fuel + 1) path = (false, after) :=
        fun hsame => hsame ▸ h
      rw [layDirectoriesFuel, if_neg htext] at h
      split at h
      · cases h
      split at h
      · cases h
      split at h
      · exact hunchanged (Prod.mk.inj h).2
      split at h
      · exact hunchanged (Prod.mk.inj h).2
      next parent hparent =>
      obtain ⟨hshort', hnul'⟩ := nameable_of_parent? hparent hshort hnul
      split at h
      · next laid hlaid =>
        cases h
        exact layDirectoriesFuel_of_not_made htext hmissing hnone hparent (ih hshort' hnul' hlaid)
      · next laid hlaid =>
        split at h
        · cases h
        · obtain ⟨-, rfl⟩ := Prod.mk.inj h
          exact layDirectoriesFuel_of_not_made htext hmissing hnone hparent
            (ih hshort' hnul' hlaid)

/-- So a directory and those above it that could not all be made are not there. -/
theorem isDirectory_of_not_laid (hrooted : before.IsRooted)
    (h : before.layDirectories path = (false, after)) :
    after = before ∨ after.isDirectory path = false := by
  rw [layDirectories] at h
  split at h
  · exact Or.inl (Prod.mk.inj h).2.symm
  · next hgood =>
    rw [Bool.or_eq_true, not_or, Bool.not_eq_true, Bool.not_eq_true] at hgood
    exact ((LaysPath.of_layDirectoriesFuel h).not_made hrooted rfl hgood.1 hgood.2).imp_right
      And.left

theorem layDirectories_again (hrooted : before.IsRooted) {done : Bool}
    (h : before.layDirectories path = (done, after)) :
    after.layDirectories path = (done, after) := by
  rw [layDirectories] at h ⊢
  split at h
  · next hbad =>
    rw [if_pos hbad, ← (Prod.mk.inj h).1]
  · next hgood =>
    rw [if_neg hgood]
    rw [Bool.or_eq_true, not_or, Bool.not_eq_true, Bool.not_eq_true] at hgood
    exact layDirectoriesFuel_again hrooted hgood.1 hgood.2 h

/-! ## 5. What a path finds -/

/-- **Nothing is found behind a directory that is missing.** -/
theorem IsAbove.find?_of_missing (h : IsAbove parent path) (hrooted : tree.IsRooted)
    (hmissing : tree.contains parent = false) : tree.find? path = none := by
  rw [find?, Option.bind_eq_none_iff]
  intro place hplace
  obtain ⟨-, -, above, -, -, -, -, hdirectory, hparent, -, -⟩ := h.located hrooted hplace
  have hthere : tree.contains parent = true := by
    rw [contains, find?, hparent, Option.bind_some, entryAt?]
    split
    · rfl
    · next hroot => exact isSome_of_isDirectoryAt hdirectory hroot
  exact absurd (hthere.symm.trans hmissing) (by decide)

/-- **Nothing is found in a directory that is new.** -/
theorem IsAbove.find?_of_isNew (h : IsAbove parent path) (hrooted : after.IsRooted)
    (hgrows : before.Grows after) (hclimbs : before.ClimbsFromThere path)
    (hnew : ∀ {place}, after.locate? parent = some place → IsNew before after place) :
    after.find? path = none := by
  rw [find?, Option.bind_eq_none_iff]
  intro place hplace
  obtain ⟨above, name, rfl, hthere⟩ := h.beyond hrooted hgrows hclimbs hnew hplace
  rw [entryAt?, if_neg (by simp)]
  exact hthere.below [name] (List.cons_ne_nil _ _)

/-! ## 6. What is kept -/

/-- **What is in a place is kept**: nothing but a directory is made there, and nothing but the mode
of a directory changes. -/
def Kept (old new : Option Entry) : Prop :=
  new = old ∨ old.all Entry.isDirectory = true ∧ new.any Entry.isDirectory = true

theorem Kept.trans {old between new : Option Entry} (h : Kept old between)
    (h' : Kept between new) : Kept old new := by
  rcases h with rfl | ⟨hold, hbetween⟩
  · exact h'
  · rcases h' with rfl | ⟨-, hnew⟩
    · exact Or.inr ⟨hold, hbetween⟩
    · exact Or.inr ⟨hold, hnew⟩

/-- **Everything is kept outside of some places.** -/
def KeepsOutside (changed : Place → Prop) (before after : FileTree) : Prop :=
  ∀ place, ¬ changed place → Kept (before.get? place) (after.get? place)

theorem KeepsOutside.of_eq {changed : Place → Prop}
    (h : ∀ place, ¬ changed place → after.get? place = before.get? place) :
    KeepsOutside changed before after := fun place hplace => Or.inl (h place hplace)

theorem KeepsOutside.refl (changed : Place → Prop) (tree : FileTree) :
    KeepsOutside changed tree tree := .of_eq fun _ _ => rfl

theorem KeepsOutside.trans {changed changed' : Place → Prop} {last : FileTree}
    (h : KeepsOutside changed before after) (h' : KeepsOutside changed' after last)
    (hmore : ∀ place, changed place → changed' place) : KeepsOutside changed' before last :=
  fun place hplace => (h place (mt (hmore place) hplace)).trans (h' place hplace)

/-- Making a directory keeps everything. -/
theorem KeepsOutside.makeDirectory (hmade : before.makeDirectory path = some after) :
    KeepsOutside (fun _ => False) before after := by
  obtain ⟨new, -, -, hnone, -, hentry, hothers⟩ := makeDirectory_cases hmade
  intro place _
  by_cases hplace : place = new
  · rw [hplace, hnone, hentry]
    exact Or.inr ⟨rfl, rfl⟩
  · exact Or.inl (hothers place hplace)

theorem KeepsOutside.of_lays (h : before.Lays after) :
    KeepsOutside (fun _ => False) before after := by
  induction h with
  | none => exact .refl _ before
  | one _ hmade ih => exact ih.trans (.makeDirectory hmade) fun _ => id

/-- **No directory gets another mode.** -/
def KeepsModes (before after : FileTree) : Prop :=
  ∀ place mode, before.get? place = some (.directory mode) →
    after.get? place = some (.directory mode)

theorem KeepsModes.refl (tree : FileTree) : tree.KeepsModes tree := fun _ _ => id

theorem KeepsModes.trans {last : FileTree} (h : before.KeepsModes after)
    (h' : after.KeepsModes last) : before.KeepsModes last :=
  fun place mode hentry => h' place mode (h place mode hentry)

end FileTree

end RenderSync
