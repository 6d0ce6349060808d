import RenderSync.Proofs.Files

/-!
# Ways into a directory

A directory is named by a path, and what is in it is found by longer paths: with a slash between or
not, through links, and while it is missing not at all.  `FileTree.room?` is the place that such
paths pass through (`FileTree.room?_of_locate?`), and from which every name in the directory is one
step (`FileTree.of_room?`).  A directory that is made is there and need not be made again
(`WorkingCopy.ensureDirectory_again`), nor need one that has a place
(`WorkingCopy.ensureDirectory_of_room?`).

The root is a directory whatever the tree says of its place, so that a tree could call it a link as
well.  No tree that anybody made does, and `FileTree.IsRooted` says so.
-/

namespace RenderSync

/-! ## 1. Names in a directory -/

namespace Text

variable {separator : Char}

theorem splitAt_ne_nil (separator : Char) (text : List Char) : splitAt separator text ≠ [] := by
  cases text with
  | nil => exact List.cons_ne_nil _ _
  | cons c rest =>
    rw [splitAt]
    split
    · exact List.cons_ne_nil _ _
    · split <;> exact List.cons_ne_nil _ _

/-- What stands on both sides of a separator is split apart. -/
theorem splitAt_append (separator : Char) (front back : List Char) :
    splitAt separator (front ++ separator :: back) =
      splitAt separator front ++ splitAt separator back := by
  induction front with
  | nil =>
    rw [List.nil_append]
    exact if_pos rfl
  | cons c rest ih =>
    rw [List.cons_append, splitAt, splitAt, ih]
    split
    · rfl
    · cases hrest : splitAt separator rest with
      | nil => exact absurd hrest (splitAt_ne_nil separator rest)
      | cons piece pieces => rfl

/-- A text without separators is one piece. -/
theorem splitAt_of_notMem {text : List Char} (h : separator ∉ text) :
    splitAt separator text = [text] := by
  induction text with
  | nil => rfl
  | cons c rest ih =>
    obtain ⟨hc, hrest⟩ := not_or.mp (mt List.mem_cons.mpr h)
    rw [splitAt, if_neg (Ne.symm hc), ih hrest]

/-- A piece is without separators, and made of what the text is made of. -/
theorem of_mem_splitAt {text : List Char} :
    ∀ {piece : List Char}, piece ∈ splitAt separator text →
      separator ∉ piece ∧ ∀ c ∈ piece, c ∈ text := by
  induction text with
  | nil =>
    intro piece hpiece
    rw [List.mem_singleton.mp hpiece]
    exact ⟨List.not_mem_nil, nofun⟩
  | cons c rest ih =>
    intro piece hpiece
    rw [splitAt] at hpiece
    split at hpiece
    · rcases List.mem_cons.mp hpiece with rfl | hpiece
      · exact ⟨List.not_mem_nil, nofun⟩
      · exact ⟨(ih hpiece).1, fun d hd => List.mem_cons_of_mem c ((ih hpiece).2 d hd)⟩
    · next hc =>
      cases hrest : splitAt separator rest with
      | nil => exact absurd hrest (splitAt_ne_nil separator rest)
      | cons first others =>
        rw [hrest] at hpiece
        rcases List.mem_cons.mp hpiece with rfl | hpiece
        · obtain ⟨hfirst, hmem⟩ := ih (hrest ▸ List.mem_cons_self)
          refine ⟨mt List.mem_cons.mp (not_or.mpr ⟨Ne.symm hc, hfirst⟩), fun d hd => ?_⟩
          rcases List.mem_cons.mp hd with rfl | hd
          · exact List.mem_cons_self
          · exact List.mem_cons_of_mem c (hmem d hd)
        · have hothers := ih (hrest ▸ List.mem_cons_of_mem first hpiece)
          exact ⟨hothers.1, fun d hd => List.mem_cons_of_mem c (hothers.2 d hd)⟩

end Text

namespace Path

/-- A step of a path: a piece between slashes, and something that the system can read. -/
structure IsStep (step : String) : Prop where
  slash : '/' ∉ step.toList
  nul : '\x00' ∉ step.toList
  empty : step ≠ ""

theorem IsStep.stay : IsStep "." := ⟨by decide, by decide, by decide⟩

theorem not_isAbsolute {name : String} (hname : '/' ∉ name.toList) :
    (Path.mk name).isAbsolute = false := by
  unfold isAbsolute
  cases hchars : name.toList with
  | nil => rfl
  | cons c rest =>
    have hc : c ≠ '/' := fun h => hname (by rw [hchars, h]; exact List.mem_cons_self)
    simp [hc]

/-- **A path into a directory** is the path to it with one slash at the end, and the name; the empty
path leads here without one. -/
theorem text_join (directory : Path) :
    ∃ front, (∀ name, '/' ∉ name.toList →
        (directory.join ⟨name⟩).text.toList = front ++ name.toList) ∧
      ((directory.text = "" ∧ front = []) ∨
        directory.text ≠ "" ∧ ∃ body, front = body ++ ['/'] ∧
          (directory.text.toList = body ∨ directory.text.toList = front)) := by
  by_cases hempty : directory.text = ""
  · refine ⟨[], fun name hname => ?_, Or.inl ⟨hempty, rfl⟩⟩
    rw [join, not_isAbsolute hname, if_pos (by rw [hempty]; rfl)]
    rfl
  · have hjoin : ∀ name, '/' ∉ name.toList → directory.join ⟨name⟩ =
        if directory.text.toList.getLast? = some '/' then ⟨directory.text ++ name⟩
        else ⟨directory.text ++ "/" ++ name⟩ := by
      intro name hname
      rw [join, not_isAbsolute hname, Bool.false_or, if_neg (by simpa using hempty)]
    by_cases hslash : directory.text.toList.getLast? = some '/'
    · obtain ⟨body, hbody⟩ := List.getLast?_eq_some_iff.mp hslash
      refine ⟨directory.text.toList, fun name hname => ?_, Or.inr ⟨hempty, body, hbody, Or.inr rfl⟩⟩
      rw [hjoin name hname, if_pos hslash, String.toList_append]
    · refine ⟨directory.text.toList ++ ['/'], fun name hname => ?_,
        Or.inr ⟨hempty, directory.text.toList, rfl, Or.inl rfl⟩⟩
      rw [hjoin name hname, if_neg hslash, String.toList_append, String.toList_append]
      rfl

/-- **The last step of such a path is the name**; the steps before it are those of the path to the
directory, but for an empty one at its end. -/
theorem pieces_join (directory : Path) :
    ∃ steps isAbove, (∀ name, '/' ∉ name.toList →
        (directory.join ⟨name⟩).pieces = steps ++ [name] ∧
          (directory.join ⟨name⟩).isAbsolute = isAbove) ∧
      (directory.text = "" ∨ directory.isAbsolute = isAbove ∧
        (directory.pieces = steps ∨ directory.pieces = steps ++ [""])) := by
  obtain ⟨front, hfront, ⟨hempty, rfl⟩ | ⟨hempty, body, rfl, hbody⟩⟩ := text_join directory
  · refine ⟨[], false, fun name hname => ?_, Or.inl hempty⟩
    have hjoin : directory.join ⟨name⟩ = ⟨name⟩ := by
      rw [join, hempty, if_pos (by simp)]
    rw [hjoin, pieces, Text.splitAt_of_notMem hname, List.map_singleton, String.ofList_toList]
    exact ⟨rfl, not_isAbsolute hname⟩
  · refine ⟨(Text.splitAt '/' body).map String.ofList, directory.isAbsolute, fun name hname => ?_,
      Or.inr ⟨rfl, ?_⟩⟩
    · have hjoin := hfront name hname
      rw [List.append_assoc, List.singleton_append] at hjoin
      refine ⟨?_, ?_⟩
      · rw [pieces, hjoin, Text.splitAt_append, List.map_append, Text.splitAt_of_notMem hname,
          List.map_singleton, String.ofList_toList]
      · have hchars : directory.text.toList ≠ [] := fun h => hempty (String.toList_eq_nil_iff.mp h)
        rw [isAbsolute, isAbsolute, hjoin]
        rcases hbody with hbody | hbody
        · rw [hbody] at hchars ⊢
          rw [List.head?_append, List.head?_eq_some_head hchars, Option.some_or]
        · rw [hbody, List.head?_append, List.head?_append]
          rfl
    · rcases hbody with hbody | hbody
      · exact Or.inl (by rw [pieces, hbody])
      · exact Or.inr (by rw [pieces, hbody, Text.splitAt_append, List.map_append]; rfl)

end Path

namespace Utf8

theorem size_append (text other : List Char) : size (text ++ other) = size text + size other := by
  rw [size, encode, List.flatMap_append, List.length_append]
  rfl

/-- Every character takes an octet at least. -/
theorem length_le_size (text : List Char) : text.length ≤ size text := by
  induction text with
  | nil => exact Nat.le_refl _
  | cons c text ih =>
    have hone : 1 ≤ (encodeChar c).length := by
      unfold encodeChar
      dsimp only
      iterate 3
        split
        · exact Nat.succ_le_succ (Nat.zero_le _)
      exact Nat.succ_le_succ (Nat.zero_le _)
    rw [size, encode] at ih
    rw [size, encode, List.flatMap_cons, List.length_append, List.length_cons]
    omega

end Utf8

/-! ## 2. Ways into a directory -/

namespace FileTree

variable {tree : FileTree} {last : Bool}

/-- Steps with one step more. -/
theorem walkOn_concat (last : Bool) (steps : List String) (step : String) : ∀ place : Place,
    tree.walkOn last place (steps ++ [step]) =
      match tree.walkOn true place steps with
      | none => none
      | some (.link directory target rest) => some (.link directory target (rest ++ [step]))
      | some (.arrived place) => (tree.walk place step).bind fun next =>
        match (if last then tree.linkAt? next else none) with
        | some target => some (.link place target [])
        | none => some (.arrived next) := by
  induction steps with
  | nil =>
    intro place
    cases last <;> rfl
  | cons first steps ih =>
    intro place
    have hmore : ((steps ++ [step]).isEmpty && !last) = false := by simp
    rw [List.cons_append, walkOn, walkOn]
    cases hnext : tree.walk place first with
    | none => rfl
    | some next =>
      simp only [Option.bind_eq_bind, Option.bind_some, hmore, Bool.not_true, Bool.and_false,
        Bool.false_eq_true, if_false]
      cases hlink : tree.linkAt? next with
      | some target => rfl
      | none => exact ih next

/-- **Where one step more leads from a place**, if no link is there. -/
theorem walkThrough_concat (last : Bool) {steps : List String} {step : String} {next : Place}
    (fuel : Nat) :
    ∀ {place arrived : Place}, tree.walkThrough true fuel place steps = some arrived →
      tree.walk arrived step = some next → tree.linkAt? next = none →
      tree.walkThrough last fuel place (steps ++ [step]) = some next := by
  induction fuel generalizing steps with
  | zero => exact fun harrived => nomatch harrived
  | succ fuel ih =>
    intro place arrived harrived hstep hlink
    rw [walkThrough] at harrived ⊢
    rw [walkOn_concat]
    rcases hwalked : tree.walkOn true place steps with _ | ⟨place' | ⟨directory, target, rest⟩⟩ <;>
      rw [hwalked] at harrived
    · cases harrived
    · obtain rfl : place' = arrived := Option.some.inj harrived
      simp only [Option.bind_eq_bind, Option.bind_some, hstep, hlink]
      cases last <;> rfl
    · simp only [Option.bind_eq_bind, Option.bind_some] at harrived ⊢
      rw [← List.append_assoc]
      exact ih harrived hstep hlink

/-- **Whoever arrives has taken the last step from somewhere.** -/
theorem walkThrough_of_concat {steps : List String} {step : String} {reached : Place} (fuel : Nat) :
    ∀ {place : Place}, tree.walkThrough last fuel place (steps ++ [step]) = some reached →
      ∃ arrived next, tree.walkThrough true fuel place steps = some arrived ∧
        tree.walk arrived step = some next ∧ (last = false → next = reached) := by
  induction fuel generalizing steps with
  | zero => exact fun hreached => nomatch hreached
  | succ fuel ih =>
    intro place hreached
    rw [walkThrough] at hreached ⊢
    rw [walkOn_concat] at hreached
    rcases hwalked : tree.walkOn true place steps with _ | ⟨place' | ⟨directory, target, rest⟩⟩ <;>
      rw [hwalked] at hreached
    · cases hreached
    · cases hstep : tree.walk place' step with
      | none => simp [hstep] at hreached
      | some next =>
        refine ⟨place', next, rfl, hstep, fun hlast => ?_⟩
        subst hlast
        simpa [hstep] using hreached
    · simp only [Option.bind_eq_bind, Option.bind_some] at hreached ⊢
      rw [← List.append_assoc] at hreached
      exact ih hreached

/-- A directory has no link in its place. -/
theorem linkAt?_of_isDirectoryAt {place : Place} (h : tree.isDirectoryAt place = true)
    (hroot : place ≠ []) : tree.linkAt? place = none := by
  unfold isDirectoryAt at h
  unfold linkAt?
  rw [Bool.or_eq_true, decide_eq_true_eq, or_iff_right hroot] at h
  split at h
  · next mode hentry => rw [hentry]
  · cases h

/-- **Paths into a directory** differ in their last step only, wherever they are followed; and the
path to the directory itself takes the steps before it, with or without an empty one. -/
theorem followUpTo_join (directory : Path) :
    ∃ steps isAbove isBad,
      (∀ (tree : FileTree) last name, Path.IsStep name →
        tree.followUpTo last (directory.join ⟨name⟩) =
          if isBad = true then none
          else tree.walkThrough last (mostLinks + 1) (if isAbove = true then [] else tree.here)
            (steps ++ [name])) ∧
      (directory.text ≠ "" → ∃ behind, (behind = [] ∨ behind = [""]) ∧ ∀ tree : FileTree,
        tree.follow? directory =
          if isBad = true then none
          else tree.walkThrough true (mostLinks + 1) (if isAbove = true then [] else tree.here)
            (steps ++ behind)) := by
  obtain ⟨front, hfront, hdirectory⟩ := directory.text_join
  obtain ⟨steps, isAbove, hsteps, hpieces⟩ := directory.pieces_join
  refine ⟨steps, isAbove, front.contains '\x00', fun tree last name hname => ?_, fun hempty => ?_⟩
  · obtain ⟨hlast, habove⟩ := hsteps name hname.slash
    have hchars := hfront name hname.slash
    have hsome : (directory.join ⟨name⟩).text ≠ "" := by
      intro h
      rw [h] at hchars
      have hnone : front ++ name.toList = [] := hchars.symm
      exact hname.empty (String.toList_eq_nil_iff.mp (List.append_eq_nil_iff.mp hnone).2)
    have hnul : name.toList.contains '\x00' = false := by simpa using hname.nul
    rw [followUpTo, hchars, List.contains_append, hnul, Bool.or_false, hlast, habove]
    simp only [hsome, decide_false, Bool.false_or]
  · obtain ⟨habove, hpieces⟩ := hpieces.resolve_left hempty
    obtain ⟨-, body, rfl, hbody⟩ := hdirectory.resolve_left fun h => hempty h.1
    have hnul : directory.text.toList.contains '\x00' = (body ++ ['/']).contains '\x00' := by
      rcases hbody with hbody | hbody
      · rw [hbody, List.contains_append]
        exact (Bool.or_false _).symm
      · rw [hbody]
    have hsame : ∀ tree : FileTree, tree.follow? directory =
        if (body ++ ['/']).contains '\x00' = true then none
        else tree.walkThrough true (mostLinks + 1) (if isAbove = true then [] else tree.here)
          directory.pieces := by
      intro tree
      rw [follow?, followUpTo, hnul, habove]
      simp only [hempty, decide_false, Bool.false_or]
    rcases hpieces with hpieces | hpieces
    · exact ⟨[], Or.inl rfl, fun tree => by rw [hsame, hpieces, List.append_nil]⟩
    · exact ⟨[""], Or.inr rfl, fun tree => by rw [hsame, hpieces]⟩

/-- What leads into a directory and is not too long leaves room for the step that stays, and for the
path to the directory. -/
theorem isTooLong_join {directory : Path} {name : String} (hname : Path.IsStep name)
    (h : isTooLong (directory.join ⟨name⟩) = false) :
    isTooLong (directory.join ⟨"."⟩) = false ∧ isTooLong directory = false := by
  obtain ⟨front, hfront, hdirectory⟩ := directory.text_join
  have hone : 1 ≤ Utf8.size name.toList := by
    refine Nat.le_trans (List.length_pos_iff.mpr fun h => ?_) (Utf8.length_le_size name.toList)
    exact hname.empty (String.toList_eq_nil_iff.mp h)
  have hstay : Utf8.size ".".toList = 1 := by decide
  have hdirectory : Utf8.size directory.text.toList ≤ Utf8.size front := by
    rcases hdirectory with ⟨hempty, rfl⟩ | ⟨-, body, rfl, hbody | hbody⟩
    · rw [hempty]
      exact Nat.le_refl _
    · rw [hbody, Utf8.size_append]
      exact Nat.le_add_right _ _
    · exact Nat.le_of_eq (by rw [hbody])
  simp only [isTooLong, decide_eq_false_iff_not, Nat.not_lt] at h ⊢
  rw [hfront name hname.slash, Utf8.size_append] at h
  rw [hfront "." (by decide), Utf8.size_append, hstay]
  omega

/-- The place of a directory: where the step that stays leads in it. -/
def room? (tree : FileTree) (directory : Path) : Option Place :=
  tree.locate? (directory.join ⟨"."⟩)

/-- The root is no link. -/
def IsRooted (tree : FileTree) : Prop := tree.linkAt? [] = none

/-- A directory has no link in its place. -/
theorem IsRooted.linkAt? (h : tree.IsRooted) {place : Place}
    (hdirectory : tree.isDirectoryAt place = true) : tree.linkAt? place = none := by
  by_cases hroot : place = []
  · rw [hroot]
    exact h
  · exact linkAt?_of_isDirectoryAt hdirectory hroot

/-- A step is taken from a directory. -/
theorem isDirectoryAt_of_walk {place next : Place} {step : String}
    (h : tree.walk place step = some next) : tree.isDirectoryAt place = true := by
  cases hdirectory : tree.isDirectoryAt place with
  | true => rfl
  | false => simp [walk, hdirectory] at h

theorem walk_stay {place : Place} (h : tree.isDirectoryAt place = true) {step : String}
    (hstep : step = "" ∨ step = ".") : tree.walk place step = some place := by
  rcases hstep with rfl | rfl <;> simp [walk, h]

/-- **Whoever gets into a directory comes through its place.** -/
theorem room?_of_locate? (hrooted : tree.IsRooted) {directory : Path} {name : String}
    (hname : Path.IsStep name) {reached : Place}
    (h : tree.locate? (directory.join ⟨name⟩) = some reached) :
    ∃ room next, tree.room? directory = some room ∧ tree.walk room name = some next := by
  obtain ⟨steps, isAbove, isBad, hjoin, -⟩ := followUpTo_join directory
  obtain ⟨hshort, h⟩ := locate?_iff.mp h
  rw [hjoin tree true name hname] at h
  split at h
  · cases h
  next hgood =>
  obtain ⟨room, next, hroom, hstep, -⟩ := walkThrough_of_concat _ h
  have hdirectory := isDirectoryAt_of_walk hstep
  refine ⟨room, next, locate?_iff.mpr ⟨(isTooLong_join hname hshort).1, ?_⟩, hstep⟩
  rw [hjoin tree true "." .stay, if_neg hgood]
  exact walkThrough_concat true _ hroom (walk_stay hdirectory (Or.inr rfl))
    (hrooted.linkAt? hdirectory)

/-- **The place of a directory** is a directory; the path leads there, and in it every step leads on
that leads to no link. -/
theorem of_room? (hrooted : tree.IsRooted) {directory : Path} {room : Place}
    (hroom : tree.room? directory = some room) :
    tree.isDirectoryAt room = true ∧
      (directory.text ≠ "" → tree.locate? directory = some room) ∧
      ∀ last name next, Path.IsStep name → tree.walk room name = some next →
        tree.linkAt? next = none → tree.followUpTo last (directory.join ⟨name⟩) = some next := by
  obtain ⟨steps, isAbove, isBad, hjoin, hself⟩ := followUpTo_join directory
  obtain ⟨hshort, hroom⟩ := locate?_iff.mp hroom
  rw [hjoin tree true "." .stay] at hroom
  split at hroom
  · cases hroom
  next hgood =>
  obtain ⟨arrived, next, harrived, hstay, -⟩ := walkThrough_of_concat _ hroom
  have hdirectory := isDirectoryAt_of_walk hstay
  have hfree := hrooted.linkAt? hdirectory
  have hthere := walkThrough_concat true _ harrived (walk_stay hdirectory (Or.inr rfl)) hfree
  obtain rfl : arrived = room := Option.some.inj (hthere.symm.trans hroom)
  refine ⟨hdirectory, fun hempty => ?_, fun last name next hname hstep hlink => ?_⟩
  · obtain ⟨behind, hbehind, hfollow⟩ := hself hempty
    refine locate?_iff.mpr ⟨(isTooLong_join .stay hshort).2, ?_⟩
    rw [← follow?, hfollow, if_neg hgood]
    rcases hbehind with rfl | rfl
    · rwa [List.append_nil]
    · exact walkThrough_concat true _ harrived (walk_stay hdirectory (Or.inl rfl)) hfree
  · rw [hjoin tree last name hname, if_neg hgood]
    exact walkThrough_concat last _ harrived hstep hlink

/-! ## 3. Making a directory -/

/-- Only slashes at the end of a path are cut, and not all of a path. -/
theorem withoutEndSlash_spec (path : Path) :
    (∃ count, path.text.toList =
        (withoutEndSlash path).text.toList ++ List.replicate count '/') ∧
      (path.text ≠ "" → (withoutEndSlash path).text ≠ "") := by
  unfold withoutEndSlash
  split
  · exact ⟨⟨0, by rw [List.replicate_zero, List.append_nil]⟩, id⟩
  · next hcut =>
    refine ⟨⟨(path.text.toList.reverse.takeWhile fun c => decide (c = '/')).length, ?_⟩,
      fun _ h => ?_⟩
    · have hslashes : path.text.toList.reverse.takeWhile (fun c => decide (c = '/')) =
          List.replicate
            (path.text.toList.reverse.takeWhile fun c => decide (c = '/')).length '/' :=
        List.eq_replicate_iff.mpr ⟨rfl, fun c hc =>
          of_decide_eq_true (List.all_eq_true.mp List.all_takeWhile c hc)⟩
      have hparts := List.takeWhile_append_dropWhile (p := fun c => decide (c = '/'))
        (l := path.text.toList.reverse)
      rw [hslashes] at hparts
      rw [String.toList_ofList, ← List.reverse_replicate, ← List.reverse_append, hparts,
        List.reverse_reverse]
    · exact hcut (List.reverse_eq_nil_iff.mp (String.ofList_eq_empty_iff.mp h))

/-- **The same steps lead where the path without these slashes leads**, and then none away from
there. -/
theorem pieces_withoutEndSlash (path : Path) :
    ∃ count, path.pieces = (withoutEndSlash path).pieces ++ List.replicate count "" := by
  obtain ⟨⟨count, hchars⟩, -⟩ := withoutEndSlash_spec path
  refine ⟨count, ?_⟩
  have hall : ∀ text : List Char, (Text.splitAt '/' (text ++ List.replicate count '/')) =
      Text.splitAt '/' text ++ List.replicate count [] := by
    intro text
    clear hchars
    induction count with
    | zero => rw [List.replicate_zero, List.replicate_zero, List.append_nil, List.append_nil]
    | succ count ih =>
      rw [List.replicate_succ', ← List.append_assoc, Text.splitAt_append, ih, List.replicate_succ',
        List.append_assoc]
      rfl
  rw [Path.pieces, hchars, hall, List.map_append, List.map_replicate]
  rfl

/-- Where links at the end are not followed, following them changes nothing if there is none. -/
theorem walkThrough_true {steps : List String} {place reached : Place} {fuel : Nat}
    (h : tree.walkThrough false fuel place steps = some reached)
    (hfree : tree.linkAt? reached = none) :
    tree.walkThrough true fuel place steps = some reached := by
  rcases List.eq_nil_or_concat steps with rfl | ⟨front, step, rfl⟩
  · cases fuel with
    | zero => cases h
    | succ fuel => exact h
  · rw [List.concat_eq_append] at h ⊢
    obtain ⟨arrived, next, harrived, hstep, hnext⟩ := walkThrough_of_concat fuel h
    obtain rfl := hnext rfl
    exact walkThrough_concat true fuel harrived hstep hfree

/-- Empty steps lead nowhere else. -/
theorem walkThrough_stay {steps : List String} {place reached : Place} {fuel : Nat}
    (h : tree.walkThrough true fuel place steps = some reached)
    (hdirectory : tree.isDirectoryAt reached = true) (hfree : tree.linkAt? reached = none)
    (count : Nat) :
    tree.walkThrough true fuel place (steps ++ List.replicate count "") = some reached := by
  induction count with
  | zero => rwa [List.replicate_zero, List.append_nil]
  | succ count ih =>
    rw [List.replicate_succ', ← List.append_assoc]
    exact walkThrough_concat true fuel ih (walk_stay hdirectory (Or.inl rfl)) hfree

/-- They lead there from where the path begins. -/
theorem isAbsolute_withoutEndSlash {path : Path} (hempty : path.text ≠ "") :
    (withoutEndSlash path).isAbsolute = path.isAbsolute := by
  obtain ⟨⟨slashes, hchars⟩, hcut⟩ := withoutEndSlash_spec path
  have hbody : (withoutEndSlash path).text.toList ≠ [] := fun hnil =>
    hcut hempty (String.toList_eq_nil_iff.mp hnil)
  rw [Path.isAbsolute, Path.isAbsolute, hchars, List.head?_append,
    List.head?_eq_some_head hbody, Option.some_or]

/-- **A directory is where the path without these slashes leads.** -/
theorem locate?_of_withoutEndSlash {path : Path} {place : Place} (hshort : isTooLong path = false)
    (hempty : path.text ≠ "") (hplace : tree.locateLink? (withoutEndSlash path) = some place)
    (hdirectory : tree.isDirectoryAt place = true) (hfree : tree.linkAt? place = none) :
    tree.locate? path = some place := by
  obtain ⟨count, hpieces⟩ := pieces_withoutEndSlash path
  obtain ⟨⟨slashes, hchars⟩, -⟩ := withoutEndSlash_spec path
  obtain ⟨-, hplace⟩ := locateLink?_iff.mp hplace
  rw [followUpTo, isAbsolute_withoutEndSlash hempty] at hplace
  split at hplace
  · cases hplace
  next hgood =>
  have hnul : path.text.toList.contains '\x00' = false := by
    rw [Bool.or_eq_true, not_or] at hgood
    have hbody := Bool.not_eq_true _ ▸ hgood.2
    rw [hchars, List.contains_append, hbody, Bool.false_or]
    simp
  have hthere := walkThrough_true hplace hfree
  refine locate?_iff.mpr ⟨hshort, ?_⟩
  rw [followUpTo, hnul, hpieces]
  simp only [hempty, decide_false, Bool.or_self, Bool.false_eq_true, if_false]
  exact walkThrough_stay hthere hdirectory hfree count

/-- **A directory that is made is there**, slashes at the end of the path or not. -/
theorem isDirectory_of_makeDirectory {path : Path} {made : FileTree}
    (hshort : isTooLong path = false) (hempty : path.text ≠ "")
    (h : tree.makeDirectory path = some made) : made.isDirectory path = true := by
  have hways := (Grows.makeDirectory h).toKeepsWays
  obtain ⟨place, hplace, h⟩ := Option.bind_eq_some_iff.mp h
  split at h
  · cases h
  next hfresh =>
  split at h
  · obtain ⟨hroot, -⟩ : place ≠ [] ∧ _ := by simpa using hfresh
    have hmade : made.get? place = some (.directory newDirectoryMode) := by
      rw [← Option.some.inj h]
      exact (get?_put tree place place _).trans (if_pos rfl)
    have hdirectory : made.isDirectoryAt place = true := by simp [isDirectoryAt, hmade]
    have hlocated := locate?_of_withoutEndSlash hshort hempty (hways.locateLink? hplace) hdirectory
      (linkAt?_of_isDirectoryAt hdirectory hroot)
    rw [isDirectory, find?_of_place hlocated hroot, hmade]
  · cases h

/-- So is one that is made with those above it. -/
theorem LaysPath.isDirectory {path : Path} {made : FileTree} (h : tree.LaysPath path true made)
    (hshort : isTooLong path = false) (hempty : path.text ≠ "") :
    made.isDirectory path = true := by
  cases h with
  | empty htext => exact absurd htext hempty
  | made _ hone => exact isDirectory_of_makeDirectory hshort hempty hone
  | there _ hdirectory => exact hdirectory
  | last _ _ _ hone => exact isDirectory_of_makeDirectory hshort hempty hone
  | refused _ _ _ _ hdone => exact hdone

theorem isDirectory_of_layDirectories {path : Path} {made : FileTree} (hempty : path.text ≠ "")
    (h : tree.layDirectories path = (true, made)) : made.isDirectory path = true := by
  rw [layDirectories] at h
  split at h
  · cases h
  · next hgood =>
    rw [Bool.or_eq_true, not_or] at hgood
    exact (LaysPath.of_layDirectoriesFuel h).isDirectory (Bool.not_eq_true _ ▸ hgood.1) hempty

/-- A path that leads to a directory names one. -/
theorem isDirectory_of_locate? {path : Path} {place : Place}
    (hplace : tree.locate? path = some place) (hdirectory : tree.isDirectoryAt place = true) :
    tree.isDirectory path = true := by
  rw [isDirectory, find?, hplace, Option.bind_some, entryAt?]
  by_cases hroot : place = []
  · rw [if_pos hroot]
  · rw [if_neg hroot]
    rw [isDirectoryAt, decide_eq_false hroot, Bool.false_or] at hdirectory
    split at hdirectory
    · rfl
    · cases hdirectory

theorem contains_of_isDirectory {path : Path} (h : tree.isDirectory path = true) :
    tree.contains path = true := by
  unfold isDirectory at h
  split at h
  · next mode hfound => rw [contains, hfound, Option.isSome]
  · cases h

end FileTree

namespace WorkingCopy

open FileTree

variable {tree made : FileTree} {directory : Path}

/-- Nothing is made for the empty path, and nothing has to be. -/
theorem ensureDirectory_of_empty (h : directory.text = "") (tree : FileTree) :
    ensureDirectory directory tree = (true, tree) := by
  obtain rfl : directory = ⟨""⟩ := by cases directory; exact congrArg Path.mk h
  rfl

/-- What is there is not made. -/
theorem ensureDirectory_of_contains (h : tree.contains directory = true) :
    ensureDirectory directory tree = (true, tree) := if_pos h

/-- **A directory is made once.** -/
theorem ensureDirectory_again (h : ensureDirectory directory tree = (true, made)) :
    ensureDirectory directory made = (true, made) := by
  by_cases hempty : directory.text = ""
  · exact ensureDirectory_of_empty hempty made
  unfold ensureDirectory at h
  split at h
  · next hthere =>
    cases h
    exact ensureDirectory_of_contains hthere
  · exact ensureDirectory_of_contains
      (contains_of_isDirectory (isDirectory_of_layDirectories hempty h))

/-- The place of a directory is one that need not be made. -/
theorem ensureDirectory_of_room? (hrooted : tree.IsRooted) {room : Place}
    (h : tree.room? directory = some room) : ensureDirectory directory tree = (true, tree) := by
  by_cases hempty : directory.text = ""
  · exact ensureDirectory_of_empty hempty tree
  obtain ⟨hdirectory, hplace, -⟩ := of_room? hrooted h
  exact ensureDirectory_of_contains
    (contains_of_isDirectory (isDirectory_of_locate? (hplace hempty) hdirectory))

end WorkingCopy

end RenderSync
