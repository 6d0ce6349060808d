import RenderSync.Yaml.Written

/-!
# Walking through a written text

The readers of scalars move a cursor over words, over the blanks and breaks between them, and stop
where the next token begins.  Of a cursor they only look at what is ahead and at the column, so
the lemmas here say where it *stands*, and nothing of octets and lines.

A written text has blanks, and of the five breaks the three that read as themselves: `\n`, U+2028
and U+2029.  Of a run of them `Gap.read` keeps what `Gap.passAll` says.  `pieces` is the induction
that the readers follow: a text is a word, or a word, a gap and a text that starts with a word.
-/

namespace RenderSync.Yaml

/-! ## 1. Words and gaps -/

/-- Not the start of a gap: the end of the text, or a character that is neither blank nor break. -/
def Stops (rest : List Char) : Prop := ∀ c ∈ rest.head?, isBlank c = false ∧ isBreak c = false

@[simp] theorem stops_cons {c : Char} {rest : List Char} :
    Stops (c :: rest) ↔ isBlank c = false ∧ isBreak c = false := by simp [Stops]

/-- The only blank that needs no escape. -/
theorem eq_blank_of_isPrintable {c : Char} (h : isPrintable c = true) (hc : isBlank c = true) :
    c = ' ' := by
  simp only [isBlank, Bool.or_eq_true, decide_eq_true_eq] at hc
  rcases hc with rfl | rfl
  · rfl
  · exact absurd h (by decide)

theorem blanks_succ (n : Nat) : blanks (n + 1) = ' ' :: blanks n := rfl

theorem blanks_succ' (n : Nat) : blanks (n + 1) = blanks n ++ [' '] := List.replicate_succ'

/-- What needs no escape may stand in a text. -/
theorem isAllowed_of_isPrintable {c : Char} (h : isPrintable c = true) : isAllowed c = true := by
  simp only [isPrintable, Bool.or_eq_true, Bool.and_eq_true, beq_iff_eq, decide_eq_true_eq] at h
  simp only [isAllowed, Bool.or_eq_true, Bool.and_eq_true, beq_iff_eq, decide_eq_true_eq]
  omega

theorem allowed_blanks (n : Nat) : ∀ c ∈ blanks n, isAllowed c = true := fun c hc => by
  rw [List.eq_of_mem_replicate hc]
  decide

/-- A gap of blanks only. -/
theorem exists_blanks {run : List Char} (hne : run ≠ []) (h : ∀ c ∈ run, c = ' ') :
    ∃ n, run = blanks (n + 1) := by
  obtain ⟨n, hn⟩ := Nat.exists_eq_succ_of_ne_zero fun h => hne (List.length_eq_zero_iff.mp h)
  exact ⟨n, List.eq_replicate_iff.mpr ⟨hn, h⟩⟩

/-- **Induction over words and gaps.**  A text has no separator at all, or it is a word without
one, a gap of nothing else, and a text that starts with none. -/
theorem pieces (sep : Char → Bool) {motive : List Char → Prop}
    (word : ∀ word, (∀ c ∈ word, sep c = false) → motive word)
    (gap : ∀ word run text, (∀ c ∈ word, sep c = false) → run ≠ [] → (∀ c ∈ run, sep c = true) →
      (∀ c ∈ text.head?, sep c = false) → motive text → motive (word ++ run ++ text))
    (text : List Char) : motive text := by
  have split (p : Char → Bool) (text : List Char) :
      text = text.takeWhile p ++ text.dropWhile p := List.takeWhile_append_dropWhile.symm
  generalize hn : text.length = n
  induction n using Nat.strongRecOn generalizing text with
  | ind n ih =>
    have hword : ∀ c ∈ text.takeWhile (fun c => !sep c), sep c = false := fun c hc => by
      simpa using List.all_eq_true.mp List.all_takeWhile c hc
    cases hrest : text.dropWhile (fun c => !sep c) with
    | nil =>
      have := split (fun c => !sep c) text
      rw [hrest, List.append_nil] at this
      exact this ▸ word _ hword
    | cons c rest =>
      have hc : sep c = true := by
        have := List.head?_dropWhile_not (fun c => !sep c) text
        simpa [hrest] using this
      have hrun : (c :: rest).takeWhile sep ≠ [] := by simp [hc]
      have hlength := congrArg List.length (split sep (c :: rest))
      have htext := congrArg List.length (split (fun c => !sep c) text)
      have hpos := List.length_pos_iff.mpr hrun
      rw [List.length_append] at hlength htext
      rw [hrest] at htext
      rw [split (fun c => !sep c) text, hrest, split sep (c :: rest), ← List.append_assoc]
      refine gap _ _ _ hword hrun (List.all_eq_true.mp List.all_takeWhile) ?_
        (ih _ (by omega) _ rfl)
      intro d hd
      have := List.head?_dropWhile_not sep (c :: rest)
      rw [Option.mem_def] at hd
      simpa [hd] using this

/-! ## 2. Where a cursor stands -/

namespace Cursor

variable {at_ : Cursor} {seen rest : List Char} {c : Char} {column : Nat}

/-- What is ahead of a cursor, and its column. -/
structure Stands (at_ : Cursor) (rest : List Char) (column : Nat) : Prop where
  rest_eq : at_.rest = rest
  column_eq : at_.column = column

theorem Stands.skipMany (h : at_.Stands (seen ++ rest) column) :
    (at_.skipMany seen.length).Stands rest (column + seen.length) where
  rest_eq := by simp [Cursor.skipMany, h.rest_eq]
  column_eq := by simp [Cursor.skipMany, h.column_eq]

theorem Stands.skip (h : at_.Stands (c :: rest) column) : at_.skip.Stands rest (column + 1) :=
  Stands.skipMany (show at_.Stands ([c] ++ rest) column from h)

theorem Stands.sees (h : at_.Stands (c :: rest) column) (other : Char) :
    at_.sees other = decide (c = other) := by simp [Cursor.sees, h.rest_eq]

@[simp] theorem skipMany_zero (at_ : Cursor) : at_.skipMany 0 = at_ := by simp [skipMany]

/-- One character and then `n` are `n + 1`. -/
theorem skipMany_skip (at_ : Cursor) (n : Nat) : at_.skip.skipMany n = at_.skipMany (n + 1) := by
  obtain ⟨rest, index, line, column⟩ := at_
  cases rest <;> simp [skip, skipMany, Nat.add_comm, Nat.add_left_comm]

theorem skipMany_skipMany (at_ : Cursor) (m n : Nat) :
    (at_.skipMany m).skipMany n = at_.skipMany (m + n) := by
  induction m generalizing at_ with
  | zero => simp
  | succ m ih => rw [← skipMany_skip, ih, skipMany_skip, Nat.add_right_comm]

/-- A character has at most four octets. -/
theorem index_skipMany_le (at_ : Cursor) (n : Nat) :
    (at_.skipMany n).index ≤ at_.index + 4 * n := by
  induction n generalizing at_ with
  | zero => simp
  | succ n ih =>
    have hone : at_.skip.index ≤ at_.index + 4 := by
      obtain ⟨rest, index, line, column⟩ := at_
      cases rest with
      | nil => simp [skip, skipMany]
      | cons c rest => simpa [skip, skipMany] using Char.utf8Size_le_four c
    have := ih at_.skip
    rw [skipMany_skip] at this
    omega

/-- A break that a written text may hold is read as itself. -/
theorem Stands.line? (h : at_.Stands (c :: rest) column) (hc : isPrintable c = true)
    (hbreak : isBreak c = true) : ∃ next, at_.line? = ([c], next) ∧ next.Stands rest 0 := by
  obtain ⟨ahead, index, line, place⟩ := at_
  obtain ⟨rfl, rfl⟩ := h
  simp only [isBreak, Bool.or_eq_true, decide_eq_true_eq] at hbreak
  rcases hbreak with (((rfl | rfl) | rfl) | rfl) | rfl
  · exact ⟨_, rfl, rfl, rfl⟩
  · exact absurd hc (by decide)
  · exact absurd hc (by decide)
  · exact ⟨_, rfl, rfl, rfl⟩
  · exact ⟨_, rfl, rfl, rfl⟩

/-- Marks between documents stand in the first column. -/
theorem Stands.seesMark (h : at_.Stands rest column) (hc : 0 < column) (mark : Char) :
    at_.seesMark mark = false := by
  obtain ⟨ahead, index, line, place⟩ := at_
  obtain ⟨rfl, rfl⟩ := h
  cases place with
  | zero => exact absurd hc (Nat.lt_irrefl 0)
  | succ place => rfl

theorem Stands.seesMark_of_ne (h : at_.Stands (c :: rest) column) {mark : Char} (hc : c ≠ mark) :
    at_.seesMark mark = false := by
  obtain ⟨ahead, index, line, place⟩ := at_
  obtain ⟨rfl, rfl⟩ := h
  unfold Cursor.seesMark
  split
  · next heq =>
    obtain ⟨rfl, -⟩ := List.cons_eq_cons.mp heq
    simp [hc]
  · rfl

theorem Stands.seesDocumentMark (h : at_.Stands rest column) (hc : 0 < column) :
    at_.seesDocumentMark = false := by simp [Cursor.seesDocumentMark, h.seesMark hc]

end Cursor

/-! ## 3. Gaps -/

namespace Gap

/-- A gap, and a blank or break more. -/
def pass (gap : Gap) (c : Char) : Gap :=
  if isBlank c then if gap.broken then gap else { gap with blanks := gap.blanks ++ [c] }
  else if gap.broken then { gap with laterBreaks := gap.laterBreaks ++ [c] }
  else ⟨[], true, [c], gap.laterBreaks⟩

/-- A gap, and a run of blanks and breaks more. -/
def passAll (gap : Gap) (run : List Char) : Gap := run.foldl pass gap

/-- The column behind a run of blanks and breaks. -/
def columnBehind (column : Nat) (run : List Char) : Nat :=
  run.foldl (fun column c => if isBlank c then column + 1 else 0) column

/-- The characters of gaps in a written text: no tabs, and breaks that read as themselves. -/
def Plain (c : Char) : Prop := c = ' ' ∨ isPrintable c = true ∧ isBreak c = true

theorem isBlank_of_isBreak {c : Char} (h : isBreak c = true) : isBlank c = false := by
  simp only [isBreak, Bool.or_eq_true, decide_eq_true_eq] at h
  rcases h with (((rfl | rfl) | rfl) | rfl) | rfl <;> rfl

/-- Enough fuel reads all of a gap's run. -/
theorem read_fuel {tabColumn : Nat} {run rest : List Char} (hrun : ∀ c ∈ run, Plain c)
    (hrest : Stops rest) {fuel : Nat} (hfuel : run.length < fuel) (gap : Gap) {at_ : Cursor}
    {column : Nat} (h : at_.Stands (run ++ rest) column) :
    ∃ next, read tabColumn fuel gap at_ = some (gap.passAll run, next) ∧
      next.Stands rest (columnBehind column run) := by
  induction run generalizing fuel gap at_ column with
  | nil =>
    obtain ⟨fuel, rfl⟩ := Nat.exists_eq_succ_of_ne_zero (Nat.ne_zero_of_lt hfuel)
    refine ⟨at_, ?_, h⟩
    cases rest with
    | nil => simp [read, h.rest_eq, passAll]
    | cons c rest =>
      obtain ⟨hblank, hbreak⟩ := stops_cons.mp hrest
      simp [read, h.rest_eq, passAll, hblank, hbreak]
  | cons c run ih =>
    obtain ⟨fuel, rfl⟩ := Nat.exists_eq_succ_of_ne_zero (Nat.ne_zero_of_lt hfuel)
    have hrun' : ∀ c ∈ run, Plain c := fun d hd => hrun d (by simp [hd])
    have hfuel' : run.length < fuel := by simpa using hfuel
    rcases hrun c (by simp) with rfl | ⟨hprint, hbreak⟩
    · obtain ⟨next, hread, hnext⟩ := ih hrun' hfuel' (gap.pass ' ') h.skip
      refine ⟨next, ?_, hnext⟩
      rw [read]
      simpa [h.rest_eq, isBlank, pass, passAll] using hread
    · have hblank := isBlank_of_isBreak hbreak
      obtain ⟨behind, hline, hbehind⟩ := h.line? hprint hbreak
      obtain ⟨next, hread, hnext⟩ := ih hrun' hfuel' (gap.pass c) hbehind
      refine ⟨next, ?_, ?_⟩
      · rw [read]
        simpa [h.rest_eq, hline, hblank, hbreak, pass, passAll] using hread
      · simpa [columnBehind, hblank] using hnext

/-- **Reading a gap** takes all of its run and stops behind it. -/
theorem read_run (tabColumn : Nat) {run rest : List Char} (hrun : ∀ c ∈ run, Plain c)
    (hrest : Stops rest) (gap : Gap) {at_ : Cursor} {column : Nat}
    (h : at_.Stands (run ++ rest) column) :
    ∃ next, read tabColumn (at_.rest.length + 1) gap at_ = some (gap.passAll run, next) ∧
      next.Stands rest (columnBehind column run) :=
  read_fuel hrun hrest (by rw [h.rest_eq, List.length_append]; omega) gap h

@[simp] theorem passAll_nil (gap : Gap) : gap.passAll [] = gap := rfl

theorem passAll_append (gap : Gap) (run other : List Char) :
    gap.passAll (run ++ other) = (gap.passAll run).passAll other := List.foldl_append

/-- Blanks behind a break are indentation. -/
theorem passAll_blanks {gap : Gap} (h : gap.broken = true) (n : Nat) :
    gap.passAll (Yaml.blanks n) = gap := by
  induction n with
  | zero => rfl
  | succ n ih => simpa [passAll, Yaml.blanks, List.replicate_succ, pass, isBlank, h] using ih

/-- A run of blanks stands for itself. -/
theorem text_passAll_blanks (n : Nat) : (none.passAll (Yaml.blanks n)).text = Yaml.blanks n := by
  have (gap : Gap) (h : gap.broken = false) :
      gap.passAll (Yaml.blanks n) = { gap with blanks := gap.blanks ++ Yaml.blanks n } := by
    induction n generalizing gap with
    | zero => simp [passAll, Yaml.blanks]
    | succ n ih =>
      have := ih (gap.pass ' ') (by simp [pass, isBlank, h])
      simpa [passAll, Yaml.blanks, List.replicate_succ, pass, isBlank, h] using this
  rw [this none rfl]
  simp [text, none]

/-- Breaks behind a break are later ones. -/
theorem passAll_laterBreaks (gap : Gap) (h : gap.broken = true) {run : List Char}
    (hrun : ∀ c ∈ run, isBreak c = true) :
    gap.passAll run = { gap with laterBreaks := gap.laterBreaks ++ run } := by
  induction run generalizing gap with
  | nil => simp
  | cons c run ih =>
    have hblank := isBlank_of_isBreak (hrun c (by simp))
    have hc : gap.pass c = { gap with laterBreaks := gap.laterBreaks ++ [c] } := by
      simp [pass, hblank, h]
    have hrun' : ∀ d ∈ run, isBreak d = true := fun d hd => hrun d (by simp [hd])
    simpa [passAll, hc] using ih (gap.pass c) (by simp [hc, h]) hrun'

/-- The first of a run of breaks is the first, and the others are the later ones. -/
theorem passAll_breaks {c : Char} {run : List Char} (h : ∀ d ∈ c :: run, isBreak d = true) :
    none.passAll (c :: run) = ⟨[], true, [c], run⟩ := by
  have hblank := isBlank_of_isBreak (h c (by simp))
  have hc : none.pass c = ⟨[], true, [c], []⟩ := by simp [pass, none, hblank]
  have hrun : ∀ d ∈ run, isBreak d = true := fun d hd => h d (by simp [hd])
  simpa [passAll, hc] using passAll_laterBreaks (none.pass c) (by simp [hc]) hrun

@[simp] theorem columnBehind_append (column : Nat) (run other : List Char) :
    columnBehind column (run ++ other) = columnBehind (columnBehind column run) other :=
  List.foldl_append

@[simp] theorem columnBehind_blanks (column n : Nat) :
    columnBehind column (Yaml.blanks n) = column + n := by
  induction n generalizing column with
  | zero => rfl
  | succ n ih =>
    have := ih (column + 1)
    simp only [columnBehind, Yaml.blanks, List.replicate_succ, List.foldl_cons] at this ⊢
    simpa [isBlank, Nat.add_comm, Nat.add_left_comm] using this

/-- A break ends the line. -/
theorem columnBehind_break (column : Nat) {c : Char} (h : isBreak c = true) (run : List Char) :
    columnBehind column (c :: run) = columnBehind 0 run := by
  simp [columnBehind, isBlank_of_isBreak h]

theorem plain_blanks (n : Nat) : ∀ c ∈ Yaml.blanks n, Plain c :=
  fun _ hc => .inl (List.eq_of_mem_replicate hc)

/-- The break behind a line, and the blanks of the next. -/
theorem plain_newLine (n : Nat) : ∀ c ∈ '\n' :: Yaml.blanks n, Plain c := by
  intro c hc
  rcases List.mem_cons.mp hc with rfl | hc
  · exact .inr ⟨by decide, by decide⟩
  · exact plain_blanks n c hc

theorem broken_newLine (n : Nat) : (none.passAll ('\n' :: Yaml.blanks n)).broken = true := by
  rw [← List.singleton_append, passAll_append, passAll_blanks rfl]
  rfl

theorem columnBehind_newLine (column n : Nat) :
    columnBehind column ('\n' :: Yaml.blanks n) = n := by
  rw [columnBehind_break column (by decide), columnBehind_blanks, Nat.zero_add]

end Gap

end RenderSync.Yaml
