import RenderSync.Proofs.Ways

/-!
# Parents and siblings

A path is the text between slashes, piece by piece.  The pieces at its end that stay where they are,
empty ones and `.`, do not count: the steps of a path are its pieces without them (`Path.leading`).
The parent of a path takes all of its steps but the last (`Path.parent?_spec`), and the file beside
it with another extension takes all of them with another name at the end
(`Path.pieces_withExtension`), which is never the old one (`Path.stem_append_ne`).
-/

namespace RenderSync

namespace Path

/-! ## 1. The steps of a path -/

/-- The pieces of a text. -/
def piecesOf (text : List Char) : List String := (Text.splitAt '/' text).map String.ofList

theorem pieces_eq (path : Path) : path.pieces = piecesOf path.text.toList := rfl

theorem piecesOf_append (front back : List Char) :
    piecesOf (front ++ '/' :: back) = piecesOf front ++ piecesOf back := by
  rw [piecesOf, Text.splitAt_append, List.map_append]
  rfl

theorem piecesOf_of_notMem {text : List Char} (h : '/' ∉ text) :
    piecesOf text = [String.ofList text] := by
  rw [piecesOf, Text.splitAt_of_notMem h]
  rfl

/-- The piece stays where it is. -/
def isStay (piece : String) : Bool := piece = "" || piece = "."

/-- The pieces without those at the end that stay where they are. -/
def leading (pieces : List String) : List String := (pieces.reverse.dropWhile isStay).reverse

theorem leading_append_stay {piece : String} (h : isStay piece = true) (pieces : List String) :
    leading (pieces ++ [piece]) = leading pieces := by
  rw [leading, List.reverse_append, List.reverse_singleton, List.singleton_append,
    List.dropWhile_cons_of_pos h]
  rfl

theorem leading_append_step {piece : String} (h : isStay piece = false) (pieces : List String) :
    leading (pieces ++ [piece]) = pieces ++ [piece] := by
  rw [leading, List.reverse_append, List.reverse_singleton, List.singleton_append,
    List.dropWhile_cons_of_neg (Bool.eq_false_iff.mp h), List.reverse_cons, List.reverse_reverse]

/-- Behind the steps there are only pieces that stay. -/
theorem append_of_leading (pieces : List String) :
    ∃ stays, pieces = leading pieces ++ stays ∧ ∀ piece ∈ stays, isStay piece = true := by
  refine ⟨(pieces.reverse.takeWhile isStay).reverse, ?_, fun piece hpiece => ?_⟩
  · rw [leading, ← List.reverse_append, List.takeWhile_append_dropWhile, List.reverse_reverse]
  · exact List.all_eq_true.mp List.all_takeWhile piece (List.mem_reverse.mp hpiece)

/-- What leads on is among the steps, with all that is in front of it. -/
theorem leading_of_append {piece : String} (h : isStay piece = false) (front back : List String) :
    ∃ back', leading (front ++ piece :: back) = front ++ piece :: back' := by
  have hreverse : (front ++ piece :: back).reverse = back.reverse ++ piece :: front.reverse := by
    rw [List.reverse_append, List.reverse_cons, List.append_assoc, List.singleton_append]
  rw [leading, hreverse, List.dropWhile_append]
  split
  · refine ⟨[], ?_⟩
    rw [List.dropWhile_cons_of_neg (Bool.eq_false_iff.mp h), List.reverse_cons,
      List.reverse_reverse]
  · refine ⟨(back.reverse.dropWhile isStay).reverse, ?_⟩
    rw [List.reverse_append, List.reverse_cons, List.reverse_reverse, List.append_assoc,
      List.singleton_append]

/-! ## 2. What is cut at the end -/

/-- Only the end of a text is cut (a text is written from its end here). -/
theorem append_trimmed (reversed : List Char) : ∃ cut, reversed = cut ++ trimmed reversed := by
  fun_induction trimmed reversed with
  | case1 => exact ⟨[], rfl⟩
  | case2 => exact ⟨[], rfl⟩
  | case3 rest hrest ih =>
    obtain ⟨cut, hcut⟩ := ih
    exact ⟨'/' :: cut, congrArg _ hcut⟩
  | case4 rest ih =>
    obtain ⟨cut, hcut⟩ := ih
    exact ⟨'.' :: cut, congrArg _ hcut⟩
  | case5 rest => exact ⟨[], rfl⟩

/-- **The steps remain.** -/
theorem leading_trimmed (reversed : List Char) :
    leading (piecesOf (trimmed reversed).reverse) = leading (piecesOf reversed.reverse) := by
  have hslash : ∀ text, leading (piecesOf (text ++ ['/'])) = leading (piecesOf text) := fun text =>
    (congrArg leading (piecesOf_append text [])).trans (leading_append_stay rfl _)
  fun_induction trimmed reversed with
  | case1 => rfl
  | case2 => rfl
  | case3 rest hrest ih =>
    rw [ih, List.reverse_cons, hslash]
  | case4 rest ih =>
    rw [ih, List.reverse_cons, hslash, List.reverse_cons, List.reverse_cons, List.append_assoc]
    exact ((congrArg leading (piecesOf_append rest.reverse ['.'])).trans
      (leading_append_stay rfl _)).symm
  | case5 rest => rfl

/-- What remains does not end with a slash, the root apart, or with a piece `.` behind one. -/
theorem trimmed_cases (reversed : List Char) :
    trimmed reversed = ['/'] ∨
      (∀ rest, trimmed reversed ≠ '/' :: rest) ∧ ∀ rest, trimmed reversed ≠ '.' :: '/' :: rest := by
  fun_induction trimmed reversed with
  | case1 => exact Or.inr ⟨nofun, nofun⟩
  | case2 => exact Or.inl rfl
  | case3 rest hrest ih => exact ih
  | case4 rest ih => exact ih
  | case5 rest hnil hroot hslash hdot =>
    refine Or.inr ⟨?_, ?_⟩
    · rintro rest' rfl
      exact hslash rest' rfl
    · rintro rest' rfl
      exact hdot rest' rfl

/-- A text ends with its last piece, behind a slash or not. -/
theorem ends (text : List Char) :
    ∃ above last, text = above ++ last ∧ '/' ∉ last ∧
      last.reverse = text.reverse.takeWhile (· ≠ '/') ∧
      above.reverse = text.reverse.dropWhile (· ≠ '/') ∧
      (above = [] ∨ ∃ front, above = front ++ ['/']) := by
  refine ⟨(text.reverse.dropWhile (· ≠ '/')).reverse, (text.reverse.takeWhile (· ≠ '/')).reverse,
    ?_, fun hslash => ?_, List.reverse_reverse _, List.reverse_reverse _, ?_⟩
  · rw [← List.reverse_append, List.takeWhile_append_dropWhile, List.reverse_reverse]
  · have hno := List.all_eq_true.mp List.all_takeWhile '/' (List.mem_reverse.mp hslash)
    simp at hno
  · have hhead := List.head?_dropWhile_not (· ≠ '/') text.reverse
    cases hrest : text.reverse.dropWhile (· ≠ '/') with
    | nil => exact Or.inl rfl
    | cons c front =>
      rw [hrest] at hhead
      obtain rfl : c = '/' := by simpa using hhead
      exact Or.inr ⟨front.reverse, List.reverse_cons⟩

/-- Behind a slash, the last piece is a piece of its own. -/
theorem piecesOf_ends {front last : List Char} (hlast : '/' ∉ last) :
    piecesOf (front ++ ['/'] ++ last) = piecesOf front ++ [String.ofList last] := by
  rw [List.append_assoc, List.singleton_append, piecesOf_append, piecesOf_of_notMem hlast]

/-! ## 3. The parent -/

theorem filterMap_step?_of_stays {pieces : List String}
    (h : ∀ piece ∈ pieces, isStay piece = true) : pieces.filterMap step? = [] := by
  refine List.filterMap_eq_nil_iff.mpr fun piece hpiece => ?_
  have hstay := h piece hpiece
  rw [isStay, Bool.or_eq_true, decide_eq_true_eq, decide_eq_true_eq] at hstay
  rw [step?, if_pos (by simpa using hstay)]

/-- The root has no parent, however it is written. -/
theorem parent?_of_root {path : Path} (h : trimmed path.text.toList.reverse = ['/']) :
    path.parent? = none := by
  obtain ⟨cut, hcut⟩ := append_trimmed path.text.toList.reverse
  have htext : path.text.toList = [] ++ '/' :: cut.reverse := by
    rw [h] at hcut
    rw [← List.reverse_reverse path.text.toList, hcut, List.reverse_append]
    rfl
  have hpieces : path.pieces = "" :: piecesOf cut.reverse := by
    rw [pieces_eq, htext, piecesOf_append]
    rfl
  have hsteps := leading_trimmed path.text.toList.reverse
  rw [h, List.reverse_reverse] at hsteps
  obtain ⟨stays, hall, hstays⟩ := append_of_leading path.pieces
  have hnone : leading path.pieces = [] := hsteps.symm.trans (by decide)
  rw [hnone, List.nil_append] at hall
  have hrest : (piecesOf cut.reverse).filterMap step? = [] :=
    filterMap_step?_of_stays fun piece hpiece =>
      hstays piece (hall ▸ hpieces ▸ List.mem_cons_of_mem _ hpiece)
  have hcomponents : path.components = [.root] ∨ path.components = [] := by
    unfold components
    rw [hpieces]
    split
    · next rest heq =>
      rw [(List.cons.inj heq).2, List.filterMap_cons] at hrest
      exact Or.inl (congrArg _ hrest)
    · next rest _ heq =>
      rw [(List.cons.inj heq).2] at hrest
      split
      · exact Or.inr rfl
      · exact Or.inl (congrArg _ hrest)
    · next heq => exact absurd (List.cons.inj heq).1 (by decide)
    · next _ hother _ => exact absurd rfl (hother _)
  rw [parent?]
  rcases hcomponents with hroot | hnil
  · rw [hroot]
    rfl
  · rw [hnil]
    rfl

/-- **The parent of a path takes its steps but the last**, and its text is the beginning of that of
the path.  The parent of a single step is the empty path, and not meant here. -/
theorem parent?_spec {path parent : Path} (h : path.parent? = some parent)
    (hempty : parent.text ≠ "") :
    ∃ front last, leading path.pieces = front ++ [last] ∧ isStay last = false ∧
      leading front = leading parent.pieces ∧
      ∃ rest, path.text.toList = parent.text.toList ++ rest := by
  have hroot : trimmed path.text.toList.reverse ≠ ['/'] := fun hroot =>
    Option.some_ne_none parent (h.symm.trans (parent?_of_root hroot))
  obtain ⟨cut, hcut⟩ := append_trimmed path.text.toList.reverse
  have hcases := (trimmed_cases path.text.toList.reverse).resolve_left hroot
  have hsteps := leading_trimmed path.text.toList.reverse
  rw [List.reverse_reverse, ← pieces_eq] at hsteps
  unfold parent? at h
  split at h
  · cases h
  · cases h
  generalize trimmed path.text.toList.reverse = body at h hcut hcases hsteps
  obtain ⟨above, last, hbody, hslash, -, habove, hform⟩ := ends body.reverse
  rw [List.reverse_reverse] at habove
  have hparent : parent.text.toList = (trimmed above.reverse).reverse := by
    rw [← Option.some.inj h, String.toList_ofList, ← habove]
  rcases hform with rfl | ⟨front, rfl⟩
  · exact absurd (String.toList_eq_nil_iff.mp hparent) hempty
  have hreverse : body = last.reverse ++ '/' :: front.reverse := by
    rw [← List.reverse_reverse body, hbody]
    simp
  -- what is left of the text ends neither with a slash nor with a piece that stays
  have hstep : isStay (String.ofList last) = false := by
    rw [isStay, Bool.or_eq_false_iff, decide_eq_false_iff_not, decide_eq_false_iff_not]
    refine ⟨fun hnil => ?_, fun hdot => ?_⟩
    · rw [String.ofList_eq_empty_iff.mp hnil] at hreverse
      exact hcases.1 _ hreverse
    · have hlast : last = ['.'] := String.toList_ofList.symm.trans (congrArg String.toList hdot)
      rw [hlast] at hreverse
      exact hcases.2 _ hreverse
  refine ⟨piecesOf front, String.ofList last, ?_, hstep, ?_, ?_⟩
  · rw [← hsteps, hbody, piecesOf_ends hslash]
    exact leading_append_step hstep _
  · have hfront := leading_trimmed (front ++ ['/']).reverse
    rw [List.reverse_reverse, ← hparent] at hfront
    exact ((congrArg leading (piecesOf_append front [])).trans
      (leading_append_stay rfl _)).symm.trans hfront.symm
  · obtain ⟨cut', hcut'⟩ := append_trimmed (front ++ ['/']).reverse
    have habove : front ++ ['/'] = parent.text.toList ++ cut'.reverse := by
      rw [hparent, ← List.reverse_append, ← hcut', List.reverse_reverse]
    refine ⟨cut'.reverse ++ (last ++ cut.reverse), ?_⟩
    rw [← List.append_assoc, ← habove, ← List.append_assoc, ← hbody, ← List.reverse_append, ← hcut,
      List.reverse_reverse]

/-! ## 4. A sibling -/

/-- A last piece that leads down is the last component, and so the name of the path. -/
theorem getLast?_components {path : Path} {steps : List String} {name : String}
    (hpieces : path.pieces = steps ++ [name]) (hstay : isStay name = false) (hup : name ≠ "..") :
    path.components.getLast? = some (.name name) := by
  rw [isStay, Bool.or_eq_false_iff, decide_eq_false_iff_not, decide_eq_false_iff_not] at hstay
  have hstep : step? name = some (.name name) := by
    rw [step?, if_neg (by simpa using hstay), if_neg hup]
  have hlast : path.pieces.getLast? = some name := by
    rw [hpieces, List.getLast?_append]
    rfl
  have hrest : ∀ {pieces : List String}, pieces.getLast? = some name →
      (pieces.filterMap step?).getLast? = some (.name name) := by
    intro pieces hpieces
    obtain ⟨front, rfl⟩ := List.getLast?_eq_some_iff.mp hpieces
    simp [hstep]
  -- a piece in front that is no name is not the last one
  have htail : ∀ {first : String} {rest : List String}, first ≠ name →
      (first :: rest).getLast? = some name → rest.getLast? = some name := by
    intro first rest hfirst hall
    cases hend : rest.getLast? with
    | none =>
      rw [List.getLast?_eq_none_iff.mp hend] at hall
      exact absurd (Option.some.inj hall) hfirst
    | some last =>
      rw [List.getLast?_cons, hend] at hall
      exact hall
  unfold components
  split
  · next rest heq =>
    rw [heq] at hlast
    have hname := hrest (htail (Ne.symm hstay.1) (htail (Ne.symm hstay.1) hlast))
    rw [List.getLast?_cons, hname]
    rfl
  · next rest _ heq =>
    rw [heq] at hlast
    have hname := hrest (htail (Ne.symm hstay.1) hlast)
    split
    · next hnil =>
      rw [hnil] at hname
      cases hname
    · rw [List.getLast?_cons, hname]
      rfl
  · next rest heq =>
    rw [heq] at hlast
    rw [List.getLast?_cons, hrest (htail (Ne.symm hstay.2) hlast)]
    rfl
  · exact hrest hlast

theorem fileName?_of_pieces {path : Path} {steps : List String} {name : String}
    (hpieces : path.pieces = steps ++ [name]) (hstay : isStay name = false) (hup : name ≠ "..") :
    path.fileName? = some name := by
  rw [fileName?, getLast?_components hpieces hstay hup]

/-- A stem is the beginning of its name. -/
theorem stem_prefix (name : String) : ∃ rest, name.toList = (stem name).toList ++ rest := by
  have hparts := List.takeWhile_append_dropWhile (p := fun c => decide (c ≠ '.'))
    (l := name.toList.reverse)
  unfold stem
  split
  · exact ⟨[], (List.append_nil _).symm⟩
  · exact ⟨[], (List.append_nil _).symm⟩
  · next rest _ hrest =>
    have hname := congrArg List.reverse hparts
    rw [hrest, List.reverse_reverse, List.reverse_append, List.reverse_cons, List.append_assoc,
      List.singleton_append] at hname
    exact ⟨_, by rw [String.toList_ofList]; exact hname.symm⟩
  · exact ⟨[], (List.append_nil _).symm⟩

/-- **A sibling has another name**, since a stem is never as long as the name that it makes. -/
theorem stem_append_ne (name : String) : stem name ++ "." ++ "yaml.tmp" ≠ name := by
  intro hsame
  have hlonger : ∀ text : String, (text ++ "." ++ "yaml.tmp").length = text.length + 9 := by
    intro text
    rw [String.length_append, String.length_append]
    rfl
  unfold stem at hsame
  split at hsame
  · exact absurd (congrArg String.length hsame) (by rw [hlonger]; omega)
  · exact absurd (congrArg String.length hsame) (by rw [hlonger]; omega)
  · next rest _ hrest =>
    have hname : name.toList.reverse = ['p', 'm', 't'] ++ '.' :: ("lmay.".toList ++ rest) := by
      rw [← hsame, String.toList_append, String.toList_append, String.toList_ofList]
      simp
    rw [hname, List.dropWhile_append, if_pos (by decide)] at hrest
    have htail := congrArg List.length (List.cons.inj hrest).2
    rw [List.length_append] at htail
    have hfive : "lmay.".toList.length = 5 := by decide
    omega
  · exact absurd (congrArg String.length hsame) (by rw [hlonger]; omega)

/-- Nothing is cut from a text that ends with a piece that leads on. -/
theorem trimmed_of_isStay {reversed last : List Char}
    (hlast : last.reverse = reversed.takeWhile (· ≠ '/'))
    (hstep : isStay (String.ofList last) = false) : trimmed reversed = reversed := by
  rw [isStay, Bool.or_eq_false_iff, decide_eq_false_iff_not, decide_eq_false_iff_not] at hstep
  fun_cases trimmed reversed with
  | case1 => rfl
  | case2 => rfl
  | case3 rest hrest =>
    have hnil : last.reverse = [] := hlast
    exact absurd (congrArg String.ofList (List.reverse_eq_nil_iff.mp hnil)) hstep.1
  | case4 rest =>
    have hdot : last.reverse = ['.'] := hlast
    have hlast : last = ['.'] := by rw [← List.reverse_reverse last, hdot]; rfl
    exact absurd (congrArg String.ofList hlast) hstep.2
  | case5 rest => rfl

/-- Nothing is cut from a path whose last piece leads on. -/
theorem trimmed_of_pieces {path : Path} {steps : List String} {name : String}
    (hpieces : path.pieces = steps ++ [name]) (hstay : isStay name = false) :
    ∃ above, path.text.toList = above ++ name.toList ∧ '/' ∉ name.toList ∧
      trimmed path.text.toList.reverse = path.text.toList.reverse ∧
      path.text.toList.reverse.dropWhile (· ≠ '/') = above.reverse ∧
      ∀ {other : List Char}, '/' ∉ other →
        piecesOf (above ++ other) = steps ++ [String.ofList other] := by
  obtain ⟨above, last, htext, hslash, hlast, habove, hform⟩ := ends path.text.toList
  obtain ⟨front, hfront, hall⟩ : ∃ front, front ++ [String.ofList last] = path.pieces ∧
      ∀ {other : List Char}, '/' ∉ other → piecesOf (above ++ other) =
        front ++ [String.ofList other] := by
    rw [pieces_eq, htext]
    rcases hform with rfl | ⟨body, rfl⟩
    · exact ⟨[], (piecesOf_of_notMem hslash).symm, fun hother => piecesOf_of_notMem hother⟩
    · exact ⟨piecesOf body, (piecesOf_ends hslash).symm, fun hother => piecesOf_ends hother⟩
  obtain ⟨rfl, hname⟩ := List.append_inj' (hfront.trans hpieces) rfl
  obtain rfl : String.ofList last = name := (List.cons.inj hname).1
  refine ⟨above, ?_, ?_, trimmed_of_isStay hlast hstay, habove.symm, hall⟩
  · rw [String.toList_ofList]
    exact htext
  · rw [String.toList_ofList]
    exact hslash

/-- **A sibling of a path takes the same steps up to its name**, and from the same place. -/
theorem pieces_withExtension {path : Path} {steps : List String} {name extension : String}
    (hpieces : path.pieces = steps ++ [name]) (hstay : isStay name = false) (hup : name ≠ "..")
    (hextension : '/' ∉ extension.toList) :
    (path.withExtension extension).pieces = steps ++ [stem name ++ "." ++ extension] ∧
      (path.withExtension extension).isAbsolute = path.isAbsolute := by
  obtain ⟨above, htext, hslash, hwhole, habove, hall⟩ := trimmed_of_pieces hpieces hstay
  have hnew : '/' ∉ (stem name ++ "." ++ extension).toList := by
    obtain ⟨rest, hrest⟩ := stem_prefix name
    rw [hrest] at hslash
    simp only [String.toList_append, List.mem_append, not_or] at hslash ⊢
    exact ⟨⟨hslash.1, by decide⟩, hextension⟩
  have hsibling : (path.withExtension extension).text.toList =
      above ++ (stem name ++ "." ++ extension).toList := by
    rw [withExtension, fileName?_of_pieces hpieces hstay hup]
    dsimp only
    rw [hwhole, habove, List.reverse_reverse]
    simp only [String.toList_append, String.toList_ofList, List.append_assoc]
  refine ⟨?_, ?_⟩
  · rw [pieces_eq, hsibling, hall hnew, String.ofList_toList]
  · rw [isAbsolute, isAbsolute, hsibling, htext]
    have hhead : ∀ {text : List Char}, '/' ∉ text → text.head? ≠ some '/' :=
      fun htext hhead => htext (List.mem_of_head? hhead)
    cases above with
    | nil => simp only [List.nil_append, hhead hnew, hhead hslash]
    | cons c above => rfl

/-- **The parent of a path into a directory is the directory**, if its path ends with a piece that
leads on. -/
theorem parent?_join {directory : Path} {steps : List String} {last name : String}
    (hdirectory : directory.pieces = steps ++ [last]) (hlast : isStay last = false)
    (hname : '/' ∉ name.toList) (hstay : isStay name = false) (hup : name ≠ "..") :
    (directory.join ⟨name⟩).parent? = some directory := by
  have hopen : ∀ front, directory.pieces ≠ front ++ [""] := by
    intro front hpieces
    obtain ⟨-, hempty⟩ := List.append_inj' (hdirectory.symm.trans hpieces) rfl
    rw [(List.cons.inj hempty).1] at hlast
    exact absurd hlast (by decide)
  have htext : (directory.join ⟨name⟩).text.toList =
      directory.text.toList ++ ['/'] ++ name.toList := by
    obtain ⟨front, hfront, ⟨hempty, rfl⟩ | ⟨-, body, rfl, hbody | hbody⟩⟩ := directory.text_join
    · exact absurd (by rw [pieces_eq, hempty]; rfl) (hopen [])
    · rw [hfront name hname, hbody]
    · refine absurd ?_ (hopen (piecesOf body))
      rw [pieces_eq, hbody]
      exact piecesOf_append body []
  have hpieces : (directory.join ⟨name⟩).pieces = directory.pieces ++ [name] := by
    rw [pieces_eq, htext, piecesOf_ends hname, String.ofList_toList, pieces_eq]
  obtain ⟨above, habove, hslash, hwhole, hcut, -⟩ := trimmed_of_pieces hpieces hstay
  obtain rfl : directory.text.toList ++ ['/'] = above :=
    List.append_cancel_right (htext.symm.trans habove)
  obtain ⟨-, -, -, hself, -⟩ := trimmed_of_pieces hdirectory hlast
  have hmore : trimmed ('/' :: directory.text.toList.reverse) = directory.text.toList.reverse := by
    cases hreverse : directory.text.toList.reverse with
    | nil =>
      refine absurd ?_ (hopen [])
      rw [pieces_eq, List.reverse_eq_nil_iff.mp hreverse]
      rfl
    | cons c rest =>
      rw [hreverse] at hself
      rw [trimmed.eq_def]
      exact hself
  rw [parent?, getLast?_components hpieces hstay hup]
  dsimp only
  rw [hwhole, hcut, List.reverse_append, List.reverse_singleton, List.singleton_append, hmore,
    List.reverse_reverse, String.ofList_toList]

end Path

end RenderSync
