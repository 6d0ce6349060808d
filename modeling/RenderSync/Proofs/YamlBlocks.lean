import RenderSync.Proofs.YamlCursor

/-!
# Literal blocks read back

A literal block keeps its lines.  The reader takes the breaks in front of a line apart from the
line, so that what is left over at the end is the run of breaks behind the last line; what the
header says of the breaks at the end decides how much of that run belongs to the text.  The run
is the text's own, but for the one break that ends a text without any.
-/

namespace RenderSync.Yaml

/-! ## 1. The header -/

/-- What becomes of the breaks at the end of a text. -/
def chompingOf (text : List Char) : Chomping :=
  match text.reverse with
  | [] => .strip
  | c :: rest =>
    if !isBreak c then .strip
    else
      match rest with
      | [] => .keep
      | d :: _ => if isBreak d then .keep else .clip

/-- How a header says it. -/
def Chomping.mark : Chomping → List Char
  | .strip => ['-']
  | .clip => []
  | .keep => ['+']

/-- The first line does not show the indentation. -/
def hidesIndent (text : List Char) : Bool := text.head?.any fun c => c = ' ' || isBreak c

theorem literalHeader_eq (text : List Char) :
    literalHeader text =
      (if hidesIndent text then ['2'] else []) ++ (chompingOf text).mark := by
  unfold literalHeader chompingOf hidesIndent
  cases text.reverse with
  | nil => rfl
  | cons c rest =>
    cases hc : isBreak c with
    | false => simp [hc, Chomping.mark]
    | true =>
      cases rest with
      | nil => simp [hc, Chomping.mark]
      | cons d rest => cases hd : isBreak d <;> simp [hc, hd, Chomping.mark]

/-- The header is read as it was written. -/
theorem readBlockHeader_literal (text rest : List Char) {at_ : Cursor} {column : Nat}
    (h : at_.Stands (literalHeader text ++ '\n' :: rest) column) :
    ∃ next, readBlockHeader at_ =
        some (⟨chompingOf text, if hidesIndent text then some 2 else none⟩, next) ∧
      next.rest = '\n' :: rest := by
  obtain ⟨ahead, index, line, place⟩ := at_
  obtain ⟨rfl, rfl⟩ := h
  rw [literalHeader_eq]
  cases hidesIndent text <;> cases chompingOf text <;> exact ⟨_, rfl, rfl⟩

/-! ## 2. Breaks and indentation -/

/-- Passing over the blanks in front of a line, and over no more of them than there is room. -/
theorem stands_behindBlanks (n room : Nat) {rest : List Char}
    (h : n = room ∨ n < room ∧ ∀ c ∈ rest.head?, c ≠ ' ') {at_ : Cursor}
    (hat : at_.Stands (blanks n ++ rest) 0) :
    (at_.skipMany ((at_.rest.takeWhile (· = ' ')).take room).length).Stands rest n := by
  have hlength : (blanks n).length = n := List.length_replicate
  have hall : (blanks n ++ rest).takeWhile (· = ' ') = blanks n ++ rest.takeWhile (· = ' ') := by
    rw [List.takeWhile_append_of_pos]
    intro c hc
    simp [List.eq_of_mem_replicate hc]
  have htake : ((at_.rest.takeWhile (· = ' ')).take room).length = (blanks n).length := by
    rw [hat.rest_eq, hall]
    rcases h with rfl | ⟨hlt, hstops⟩
    · rw [List.take_append_of_le_length (Nat.le_of_eq hlength.symm), List.length_take, hlength,
        Nat.min_self]
    · have : rest.takeWhile (· = ' ') = [] := by
        cases rest with
        | nil => rfl
        | cons c rest => simp [hstops c rfl]
      rw [this, List.append_nil, List.take_of_length_le (by omega)]
  rw [htake]
  have := hat.skipMany
  rw [hlength, Nat.zero_add] at this
  rwa [hlength]

section Breaks

variable {indent n : Nat} {rest : List Char}

/-- What follows a run of breaks: the line of a block, or what is indented less and starts with
no gap. -/
def Follows (indent n : Nat) (rest : List Char) : Prop :=
  (∀ c ∈ rest.head?, isBreak c = false) ∧ (n = indent ∨ n < indent ∧ Stops rest)

/-- No tab takes the place of the indentation that a line still lacks. -/
theorem Follows.sees_tab (h : Follows indent n rest) {at_ : Cursor} {column : Nat}
    (hat : at_.Stands rest column) : (decide (n < indent) && at_.sees '\t') = false := by
  obtain ⟨-, rfl | ⟨-, hstops⟩⟩ := h
  · simp
  · cases rest with
    | nil => simp [Cursor.sees, hat.rest_eq]
    | cons c rest =>
      have : c ≠ '\t' := by
        rintro rfl
        exact absurd (stops_cons.mp hstops).1 (by decide)
      simp [hat.sees, this]

/-- Enough fuel reads all breaks in front of a line. -/
theorem readBlockBreaks_fuel (hindent : 0 < indent) (hrest : Follows indent n rest)
    {run : List Char} (hrun : ∀ c ∈ run, isPrintable c = true ∧ isBreak c = true) {fuel : Nat}
    (hfuel : run.length < fuel) (deepest : Nat) (breaks : List Char) {at_ : Cursor}
    (h : at_.Stands (run ++ (blanks n ++ rest)) 0) :
    ∃ deepest' next, readBlockBreaks indent fuel deepest breaks at_ =
      some (deepest', breaks ++ run, next) ∧ next.Stands rest n := by
  have hroom (at_ : Cursor) (h : at_.column = 0) :
      (if indent = 0 then at_.rest.length else indent - at_.column) = indent := by
    rw [if_neg (by omega), h, Nat.sub_zero]
  induction run generalizing fuel deepest breaks at_ with
  | nil =>
    obtain ⟨fuel, rfl⟩ := Nat.exists_eq_succ_of_ne_zero (Nat.ne_zero_of_lt hfuel)
    have hblank : n = indent ∨ n < indent ∧ ∀ c ∈ rest.head?, c ≠ ' ' :=
      hrest.2.imp_right fun ⟨hn, hstops⟩ => ⟨hn, fun c hc heq => by
        simpa [heq, isBlank] using (hstops c hc).1⟩
    have hnext := stands_behindBlanks n indent hblank h
    rw [readBlockBreaks, hroom at_ h.column_eq]
    generalize at_.skipMany ((at_.rest.takeWhile (· = ' ')).take indent).length = next at hnext
    refine ⟨max deepest n, next, ?_, hnext⟩
    simp only [hnext.column_eq, hnext.rest_eq, hrest.sees_tab hnext, Nat.ne_of_gt hindent,
      decide_false, Bool.false_or, Bool.false_eq_true, if_false, List.append_nil]
    cases rest with
    | nil => rfl
    | cons c rest => simp [hrest.1 c rfl]
  | cons c run ih =>
    obtain ⟨fuel, rfl⟩ := Nat.exists_eq_succ_of_ne_zero (Nat.ne_zero_of_lt hfuel)
    obtain ⟨hprint, hbreak⟩ := hrun c (by simp)
    have hblank : ∀ d ∈ (c :: run ++ (blanks n ++ rest)).head?, d ≠ ' ' := by
      rintro d hd rfl
      obtain rfl : c = ' ' := by simpa using hd
      exact absurd hbreak (by decide)
    have hnext := stands_behindBlanks 0 indent (.inr ⟨hindent, hblank⟩) h
    rw [readBlockBreaks, hroom at_ h.column_eq]
    generalize at_.skipMany ((at_.rest.takeWhile (· = ' ')).take indent).length = next at hnext
    have htab : next.sees '\t' = false := by
      have : c ≠ '\t' := by
        rintro rfl
        exact absurd hbreak (by decide)
      simp [hnext.sees, this]
    obtain ⟨behind, hline, hbehind⟩ := hnext.line? hprint hbreak
    obtain ⟨deepest', last, hread, hlast⟩ := ih (fun d hd => hrun d (by simp [hd]))
      (by simpa using hfuel) (max deepest next.column) (breaks ++ [c]) hbehind
    refine ⟨deepest', last, ?_, hlast⟩
    simp only [hnext.rest_eq, List.cons_append, htab, Bool.and_false, Bool.false_eq_true, if_false,
      hbreak, if_true, hline, hread, List.append_assoc]
    rfl

/-- **The breaks in front of a line** are kept apart from it. -/
theorem readBlockBreaks_run (hindent : 0 < indent) (hrest : Follows indent n rest)
    {run : List Char} (hrun : ∀ c ∈ run, isPrintable c = true ∧ isBreak c = true) {at_ : Cursor}
    (h : at_.Stands (run ++ (blanks n ++ rest)) 0) :
    ∃ deepest next, readBlockBreaks indent (at_.rest.length + 1) 0 [] at_ =
      some (deepest, run, next) ∧ next.Stands rest n :=
  readBlockBreaks_fuel hindent hrest hrun (by rw [h.rest_eq, List.length_append]; omega) 0 [] h

/-- Looking for the indentation of a first line that starts with none of its own. -/
theorem readBlockBreaks_first {c : Char} (hc : isBlank c = false ∧ isBreak c = false)
    (fuel : Nat) {at_ : Cursor} (h : at_.Stands (blanks n ++ c :: rest) 0) :
    ∃ next, readBlockBreaks 0 (fuel + 1) 0 [] at_ = some (n, [], next) ∧
      next.Stands (c :: rest) n := by
  have hblank : ∀ d ∈ (c :: rest).head?, d ≠ ' ' := by
    rintro d hd rfl
    obtain rfl : c = ' ' := by simpa using hd
    exact absurd hc.1 (by decide)
  have hroom : n < (blanks n ++ c :: rest).length := by
    simp [blanks]
  have hnext := stands_behindBlanks n at_.rest.length (.inr ⟨h.rest_eq ▸ hroom, hblank⟩) h
  rw [readBlockBreaks]
  simp only [if_true]
  generalize at_.skipMany ((at_.rest.takeWhile (· = ' ')).take at_.rest.length).length = next at *
  have htab : next.sees '\t' = false := by
    have : c ≠ '\t' := by
      rintro rfl
      exact absurd hc.1 (by decide)
    simp [hnext.sees, this]
  refine ⟨next, ?_, hnext⟩
  simp [hnext.rest_eq, hnext.column_eq, htab, hc.2]

end Breaks

/-! ## 3. Lines -/

/-- The break behind the last line, if the text has none of its own. -/
def closing (text : List Char) : List Char := if text.getLast?.any isBreak then [] else ['\n']

theorem closing_append (front : List Char) {text : List Char} (h : text ≠ []) :
    closing (front ++ text) = closing text := by
  simp [closing, List.getLast?_append, List.getLast?_eq_some_getLast h]

theorem closing_line {text : List Char} (hne : text ≠ []) (h : ∀ c ∈ text, isBreak c = false) :
    closing text = ['\n'] := by
  simp [closing, List.getLast?_eq_some_getLast hne, h _ (List.getLast_mem hne)]

theorem closing_breaks {run : List Char} (hne : run ≠ []) (h : ∀ c ∈ run, isBreak c = true) :
    closing run = [] := by
  simp [closing, List.getLast?_eq_some_getLast hne, h _ (List.getLast_mem hne)]

/-- A line is written as it is. -/
theorem literalBody_word (indent : Nat) {word : List Char} (hword : ∀ c ∈ word, isBreak c = false)
    (rest : List Char) :
    literalBody indent false (word ++ rest) = word ++ literalBody indent false rest := by
  induction word with
  | nil => rfl
  | cons c word ih =>
    have := ih fun d hd => hword d (by simp [hd])
    simp [literalBody, hword c (by simp), this]

/-- Breaks are written as they are, and the next line is indented. -/
theorem literalBody_breaks (indent : Nat) {run text : List Char}
    (hrun : ∀ c ∈ run, isBreak c = true) (htext : ∀ c ∈ text.head?, isBreak c = false)
    (lineStart : Bool) (hstart : run = [] → lineStart = true) :
    literalBody indent lineStart (run ++ text) =
      run ++ (if text = [] then [] else blanks indent ++ literalBody indent false text) := by
  induction run generalizing lineStart with
  | nil =>
    obtain rfl := hstart rfl
    cases text with
    | nil => simp [literalBody]
    | cons c text => simp [literalBody, htext c rfl]
  | cons c run ih =>
    have := ih (fun d hd => hrun d (by simp [hd])) true fun _ => rfl
    simp [literalBody, hrun c (by simp), this]

theorem le_length_literalBody (indent : Nat) (lineStart : Bool) (text : List Char) :
    text.length ≤ (literalBody indent lineStart text).length := by
  induction text generalizing lineStart with
  | nil => simp
  | cons c text ih =>
    have := ih true
    have := ih false
    rw [literalBody]
    split <;> simp <;> omega

/-- What is indented less ends a block. -/
theorem readBlockLines_end {indent n : Nat} (hn : n ≠ indent) {rest : List Char} {at_ : Cursor}
    (h : at_.Stands rest n) (fuel : Nat) (seen lead breaks : List Char) (blankLead : Bool) :
    readBlockLines true indent (fuel + 1) seen lead breaks blankLead at_ =
      some (seen, lead, breaks, at_) := by
  rw [readBlockLines]
  cases rest with
  | nil => simp [h.rest_eq]
  | cons c rest => simp [h.rest_eq, h.column_eq, hn]

/-- One line of a block, and the breaks behind it. -/
theorem readBlockLines_line {indent n : Nat} (hindent : 0 < indent) {word run rest : List Char}
    {c : Char} (hne : word ≠ []) (hword : ∀ d ∈ word, isBreak d = false)
    (hrun : ∀ d ∈ c :: run, isPrintable d = true ∧ isBreak d = true)
    (hrest : Follows indent n rest) {at_ : Cursor}
    (h : at_.Stands (word ++ (c :: run ++ (blanks n ++ rest))) indent) :
    ∃ next blank, next.Stands rest n ∧ ∀ fuel seen lead breaks blankLead,
      readBlockLines true indent (fuel + 1) seen lead breaks blankLead at_ =
        readBlockLines true indent fuel (seen ++ (lead ++ breaks) ++ word) [c] run blank next := by
  obtain ⟨hprint, hbreak⟩ := hrun c (by simp)
  obtain ⟨behind, hline, hbehind⟩ := h.skipMany.line? hprint hbreak
  obtain ⟨deepest, next, hread, hnext⟩ := readBlockBreaks_run hindent hrest
    (fun d hd => hrun d (by simp [hd])) hbehind
  obtain ⟨d, word, rfl⟩ := List.exists_cons_of_ne_nil hne
  have htake : (d :: word ++ (c :: run ++ (blanks n ++ rest))).takeWhile (fun c => !isBreak c) =
      d :: word := by
    rw [List.takeWhile_append_of_pos (fun e he => by simp [hword e he])]
    simp [hbreak]
  refine ⟨next, isBlank d, hnext, fun fuel seen lead breaks blankLead => ?_⟩
  rw [readBlockLines]
  simp only [h.rest_eq, List.cons_append] at htake ⊢
  simp only [h.column_eq, htake, hline, hread]
  simp

/-- **All lines of a block.**  What is read and the breaks left over are the text with its last
line closed. -/
theorem readBlockLines_text {indent behind : Nat} (hbehind : behind < indent) {rest : List Char}
    (hrest : Stops rest) {text : List Char} (hprint : ∀ c ∈ text, isPrintable c = true)
    (hne : text ≠ []) (hfirst : ∀ c ∈ text.head?, isBreak c = false) {fuel : Nat}
    (hfuel : text.length < fuel) (seen lead breaks : List Char) (blankLead : Bool) {at_ : Cursor}
    (h : at_.Stands
      (literalBody indent false text ++ (closing text ++ (blanks behind ++ rest))) indent) :
    ∃ lines c run next, readBlockLines true indent fuel seen lead breaks blankLead at_ =
        some (lines, [c], run, next) ∧ next.Stands rest behind ∧
      lines ++ c :: run = seen ++ (lead ++ breaks) ++ (text ++ closing text) ∧
      ∀ d ∈ c :: run, isBreak d = true := by
  have hindent : 0 < indent := by omega
  have hless : Follows indent behind rest := ⟨fun c hc => (hrest c hc).2, .inr ⟨hbehind, hrest⟩⟩
  induction text using pieces isBreak generalizing fuel seen lead breaks blankLead at_ with
  | word word hword =>
    obtain ⟨fuel, rfl⟩ := Nat.exists_eq_succ_of_ne_zero (Nat.ne_zero_of_lt hfuel)
    have hbody := literalBody_word indent hword []
    rw [List.append_nil, literalBody, List.append_nil] at hbody
    rw [hbody, closing_line hne hword] at h
    have hlast : ∀ d ∈ ['\n'], isPrintable d = true ∧ isBreak d = true :=
      List.forall_mem_singleton.mpr ⟨by decide, by decide⟩
    obtain ⟨next, blank, hnext, hread⟩ := readBlockLines_line hindent hne hword hlast hless h
    have hmore : 0 < fuel := by
      have := List.length_pos_iff.mpr hne
      omega
    obtain ⟨fuel, rfl⟩ := Nat.exists_eq_succ_of_ne_zero (Nat.ne_of_gt hmore)
    refine ⟨seen ++ (lead ++ breaks) ++ word, '\n', [], next, ?_, hnext, ?_,
      fun d hd => (hlast d hd).2⟩
    · rw [hread, readBlockLines_end (by omega) hnext]
    · rw [closing_line hne hword, List.append_assoc]
  | gap word run text hword hgap hrun hstart ih =>
    obtain ⟨fuel, rfl⟩ := Nat.exists_eq_succ_of_ne_zero (Nat.ne_zero_of_lt hfuel)
    obtain ⟨c, run, rfl⟩ := List.exists_cons_of_ne_nil hgap
    have hword' : word ≠ [] := by
      rintro rfl
      simpa [hrun c (by simp)] using hfirst c rfl
    have hruns : ∀ d ∈ c :: run, isPrintable d = true ∧ isBreak d = true := fun d hd =>
      ⟨hprint d (List.mem_append_left _ (List.mem_append_right _ hd)), hrun d hd⟩
    have hbody := literalBody_word indent hword (c :: run ++ text)
    rw [literalBody_breaks indent hrun hstart false (by simp), ← List.append_assoc word] at hbody
    rw [List.length_append, List.length_append, List.length_cons] at hfuel
    rw [hbody] at h
    cases text with
    | nil =>
      have hmore : fuel ≠ 0 := by
        have := List.length_pos_iff.mpr hword'
        omega
      obtain ⟨fuel, rfl⟩ := Nat.exists_eq_succ_of_ne_zero hmore
      rw [List.append_nil, closing_append word hgap, closing_breaks hgap hrun] at h ⊢
      obtain ⟨next, blank, hnext, hread⟩ := readBlockLines_line hindent hword' hword hruns hless
        (by simpa using h)
      refine ⟨seen ++ (lead ++ breaks) ++ word, c, run, next, ?_, hnext, by simp, hrun⟩
      rw [hread, readBlockLines_end (by omega) hnext]
    | cons d text =>
      have hline : Follows indent indent (literalBody indent false (d :: text) ++
          (closing (d :: text) ++ (blanks behind ++ rest))) :=
        ⟨by simp [literalBody, hstart d rfl], .inl rfl⟩
      have hshort : (d :: text).length < fuel := by omega
      rw [closing_append _ (List.cons_ne_nil d text)] at h ⊢
      obtain ⟨next, blank, hnext, hread⟩ := readBlockLines_line hindent hword' hword hruns hline
        (by simpa using h)
      obtain ⟨lines, e, more, last, hlast, hstands, heq, hbreaks⟩ := ih
        (fun e he => hprint e (List.mem_append_right _ he)) (List.cons_ne_nil d text) hstart
        hshort (seen ++ (lead ++ breaks) ++ word) [c] run blank hnext
      refine ⟨lines, e, more, last, ?_, hstands, ?_, hbreaks⟩
      · rw [hread, hlast]
      · rw [heq]
        simp

/-! ## 4. Blocks -/

/-- What a text keeps of the lines read and the breaks left over behind them. -/
def Chomping.text : Chomping → (lines lead breaks : List Char) → List Char
  | .strip, lines, _, _ => lines
  | .clip, lines, lead, _ => lines ++ lead
  | .keep, lines, lead, breaks => lines ++ lead ++ breaks

/-- The last break of a text stands alone if the character before it is none. -/
theorem eq_nil_of_breaks {lines run front : List Char} {c d e : Char}
    (hrun : ∀ b ∈ c :: run, isBreak b = true) (hd : isBreak d = false)
    (h : lines ++ c :: run = front ++ [d, e]) : run = [] := by
  have hrev : run.reverse ++ c :: lines.reverse = e :: d :: front.reverse := by
    simpa using congrArg List.reverse h
  cases hlast : run.reverse with
  | nil => simpa using hlast
  | cons b more =>
    have hmem : ∀ x ∈ b :: more ++ [c], isBreak x = true := fun x hx => by
      rw [← hlast] at hx
      exact hrun x (by simpa [or_comm] using hx)
    rw [hlast] at hrev
    cases more with
    | nil =>
      obtain ⟨-, rfl, -⟩ : b = e ∧ c = d ∧ _ := by simpa using hrev
      simp [hmem c (by simp)] at hd
    | cons x more =>
      obtain ⟨-, rfl, -⟩ : b = e ∧ x = d ∧ _ := by simpa using hrev
      simp [hmem x (by simp)] at hd

/-- A text of breaks only keeps them all. -/
theorem chompingOf_breaks {text : List Char} (hne : text ≠ [])
    (h : ∀ c ∈ text, isBreak c = true) : chompingOf text = .keep := by
  have hrev : ∀ c ∈ text.reverse, isBreak c = true := fun c hc => h c (List.mem_reverse.mp hc)
  unfold chompingOf
  cases hcases : text.reverse with
  | nil => exact absurd (List.reverse_eq_nil_iff.mp hcases) hne
  | cons c rest =>
    rw [hcases] at hrev
    cases rest with
    | nil => simp [hrev c (by simp)]
    | cons d rest => simp [hrev c (by simp), hrev d (by simp)]

/-- **The header keeps the breaks that are the text's own.** -/
theorem chompingOf_text {text lines run : List Char} {c : Char} (hne : text ≠ [])
    (h : lines ++ c :: run = text ++ closing text) (hrun : ∀ b ∈ c :: run, isBreak b = true) :
    (chompingOf text).text lines [c] run = text := by
  obtain rfl | ⟨front, d, rfl⟩ := List.eq_nil_or_concat text
  · exact absurd rfl hne
  rw [List.concat_eq_append] at h ⊢
  have hlast : closing (front ++ [d]) = closing [d] := closing_append front (List.cons_ne_nil d [])
  rw [hlast] at h
  cases hd : isBreak d with
  | false =>
    have hstrip : chompingOf (front ++ [d]) = .strip := by simp [chompingOf, hd]
    rw [closing_line (List.cons_ne_nil d []) (by simpa using hd)] at h
    obtain rfl := eq_nil_of_breaks hrun hd (by simpa using h)
    rw [hstrip]
    exact (List.append_inj' h rfl).1
  | true =>
    rw [closing_breaks (List.cons_ne_nil d []) (by simpa using hd), List.append_nil] at h
    obtain rfl | ⟨front, e, rfl⟩ := List.eq_nil_or_concat front
    · simp only [List.nil_append] at h
      have hkeep : chompingOf ([] ++ [d]) = .keep := by simp [chompingOf, hd]
      rw [hkeep, ← h]
      simp [Chomping.text]
    rw [List.concat_eq_append] at h ⊢
    cases he : isBreak e with
    | true =>
      have hkeep : chompingOf (front ++ [e] ++ [d]) = .keep := by simp [chompingOf, hd, he]
      rw [hkeep, ← h]
      simp [Chomping.text]
    | false =>
      have hclip : chompingOf (front ++ [e] ++ [d]) = .clip := by simp [chompingOf, hd, he]
      obtain rfl := eq_nil_of_breaks hrun he (by simpa using h)
      rw [hclip]
      exact h

/-- Behind its header a block is read by its lines. -/
theorem readBlock_header (outer : Nat) {text rest : List Char} {at_ : Cursor} {column : Nat}
    (h : at_.Stands (literalHeader text ++ '\n' :: rest) column) :
    ∃ start, start.Stands rest 0 ∧
      ∀ deepest breaks next lines lead more last,
        readBlockBreaks (if hidesIndent text then outer + 2 else 0) (start.rest.length + 1) 0 []
          start = some (deepest, breaks, next) →
        readBlockLines true
          (if hidesIndent text then outer + 2 else max (max deepest (outer + 1)) 1)
          (next.rest.length + 1) [] [] breaks false next = some (lines, lead, more, last) →
        readBlock true outer at_ = some ((chompingOf text).text lines lead more, last) := by
  obtain ⟨head, hread, hhead⟩ := readBlockHeader_literal text rest h
  have hstands : head.Stands ('\n' :: rest) head.column := ⟨hhead, rfl⟩
  have hblank : head.skipWhile isBlank = head := by simp [Cursor.skipWhile, hhead, isBlank]
  obtain ⟨start, hline, hstart⟩ := hstands.line? (by decide) (by decide)
  refine ⟨start, hstart, fun deepest breaks next lines lead more last hbreaks hlines => ?_⟩
  have hcomment : head.sees '#' = false := by simp [hstands.sees]
  have hend : isLineEnd head.rest = true := by simp [hhead, isLineEnd, isBreak]
  have houter : ((outer : Int) + 1).toNat = outer + 1 := by omega
  have hknown : ¬ outer + 2 = 0 := by omega
  cases hhides : hidesIndent text with
  | false =>
    simp only [hhides, Bool.false_eq_true, if_false] at hread hbreaks hlines
    simp only [readBlock, hread, hblank, hcomment, hend, hline, hbreaks, houter, hlines,
      Option.bind_eq_bind, Option.bind_some, Bool.false_eq_true, if_false, if_true,
      Bool.not_true]
    cases chompingOf text <;> rfl
  | true =>
    simp only [hhides, if_true] at hread hbreaks hlines
    simp only [readBlock, hread, hblank, hcomment, hend, hline, hbreaks, hlines,
      Option.bind_eq_bind, Option.bind_some, Bool.false_eq_true, if_false, if_true,
      Bool.not_true, Int.toNat_natCast, Int.natCast_nonneg, hknown]
    cases chompingOf text <;> rfl

/-- Before the first line: its breaks are kept apart and its indentation is known. -/
theorem readBlockBreaks_start {outer : Nat} {run lines ahead : List Char} {c : Char}
    (hprint : ∀ d ∈ run ++ c :: lines, isPrintable d = true)
    (hrun : ∀ d ∈ run, isBreak d = true) (hc : isBreak c = false) {start : Cursor}
    (h : start.Stands (run ++ (blanks (outer + 2) ++ c :: ahead)) 0) :
    ∃ deepest next, readBlockBreaks (if hidesIndent (run ++ c :: lines) then outer + 2 else 0)
        (start.rest.length + 1) 0 [] start = some (deepest, run, next) ∧
      (if hidesIndent (run ++ c :: lines) then outer + 2
        else max (max deepest (outer + 1)) 1) = outer + 2 ∧
      next.Stands (c :: ahead) (outer + 2) := by
  cases hhides : hidesIndent (run ++ c :: lines) with
  | true =>
    have hline : Follows (outer + 2) (outer + 2) (c :: ahead) := ⟨by simp [hc], .inl rfl⟩
    obtain ⟨deepest, next, hread, hnext⟩ := readBlockBreaks_run (by omega) hline
      (fun d hd => ⟨hprint d (List.mem_append_left _ hd), hrun d hd⟩) h
    exact ⟨deepest, next, hread, rfl, hnext⟩
  | false =>
    cases run with
    | cons d run => simp [hidesIndent, hrun d (by simp)] at hhides
    | nil =>
      have hblank : isBlank c = false := Bool.eq_false_iff.mpr fun heq => by
        simp [hidesIndent, eq_blank_of_isPrintable (hprint c (by simp)) heq] at hhides
      obtain ⟨next, hread, hnext⟩ := readBlockBreaks_first ⟨hblank, hc⟩ start.rest.length h
      exact ⟨outer + 2, next, hread, by simp, hnext⟩

/-- The breaks that a text starts with, and its lines. -/
theorem exists_leading_breaks (text : List Char) : ∃ run lines, text = run ++ lines ∧
    (∀ c ∈ run, isBreak c = true) ∧ ∀ c ∈ lines.head?, isBreak c = false := by
  refine ⟨text.takeWhile isBreak, text.dropWhile isBreak,
    List.takeWhile_append_dropWhile.symm, List.all_eq_true.mp List.all_takeWhile, ?_⟩
  intro c hc
  have := List.head?_dropWhile_not isBreak text
  rw [Option.mem_def] at hc
  simpa [hc] using this

/-- **What is a literal block is read back.** -/
theorem readBlock_literal {outer behind : Nat} (hbehind : behind < outer + 2) {rest : List Char}
    (hrest : Stops rest) {text : List Char} (hprint : ∀ c ∈ text, isPrintable c = true)
    (hne : text ≠ []) {at_ : Cursor} {column : Nat}
    (h : at_.Stands (literalHeader text ++ '\n' :: (literalBody (outer + 2) true text ++
      (closing text ++ (blanks behind ++ rest)))) column) :
    ∃ next, readBlock true outer at_ = some (text, next) ∧ next.Stands rest behind := by
  obtain ⟨start, hstart, hread⟩ := readBlock_header outer h
  obtain ⟨run, lines, rfl, hrun, hfirst⟩ := exists_leading_breaks text
  rw [literalBody_breaks (outer + 2) hrun hfirst true fun _ => rfl] at hstart
  cases lines with
  | nil =>
    -- breaks only: they all stand in front of a line that is not there
    rw [List.append_nil] at *
    have hhides : hidesIndent run = true := by
      obtain ⟨c, run, rfl⟩ := List.exists_cons_of_ne_nil hne
      simp [hidesIndent, hrun c (by simp)]
    have hless : Follows (outer + 2) behind rest :=
      ⟨fun c hc => (hrest c hc).2, .inr ⟨hbehind, hrest⟩⟩
    simp only [closing_breaks hne hrun, if_true, List.nil_append, List.append_nil] at hstart
    obtain ⟨deepest, next, hbreaks, hnext⟩ := readBlockBreaks_run (by omega) hless
      (fun c hc => ⟨hprint c hc, hrun c hc⟩) hstart
    have hdeep : behind ≠ outer + 2 := by omega
    refine ⟨next, ?_, hnext⟩
    rw [hread deepest run next [] [] run next (by rw [hhides]; exact hbreaks)
      (by rw [hhides]; exact readBlockLines_end hdeep hnext _ _ _ _ _), chompingOf_breaks hne hrun]
    rfl
  | cons c lines =>
    have hc := hfirst c rfl
    have hbody : literalBody (outer + 2) false (c :: lines) =
        c :: literalBody (outer + 2) false lines := by simp [literalBody, hc]
    have hahead := List.cons_ne_nil c lines
    rw [if_neg hahead, closing_append run hahead, hbody] at hstart
    obtain ⟨deepest, next, hbreaks, hindent, hnext⟩ :=
      readBlockBreaks_start hprint hrun hc (by simpa using hstart)
    rw [← List.cons_append, ← hbody] at hnext
    have hfuel : (c :: lines).length < next.rest.length + 1 := by
      have := le_length_literalBody (outer + 2) false (c :: lines)
      rw [hnext.rest_eq, List.length_append]
      omega
    obtain ⟨read, lead, more, last, hlines, hlast, hsame, hmore⟩ :=
      readBlockLines_text hbehind hrest (fun d hd => hprint d (List.mem_append_right _ hd)) hahead
        hfirst hfuel [] [] run false hnext
    refine ⟨last, ?_, hlast⟩
    rw [hread deepest run next read [lead] more last hbreaks (by rw [hindent]; exact hlines)]
    rw [chompingOf_text hne ?_ hmore]
    rw [hsame, closing_append run hahead]
    simp

/-! ## 5. What is written -/

theorem allowed_literalHeader (text : List Char) :
    ∀ c ∈ literalHeader text, isAllowed c = true := by
  rw [literalHeader_eq]
  cases hidesIndent text <;> cases chompingOf text <;> exact List.all_eq_true.mp (by decide)

theorem allowed_literalBody (indent : Nat) (lineStart : Bool) {text : List Char}
    (h : ∀ c ∈ text, isAllowed c = true) :
    ∀ c ∈ literalBody indent lineStart text, isAllowed c = true := by
  induction text generalizing lineStart with
  | nil => simp [literalBody]
  | cons d text ih =>
    have hd := h d (by simp)
    have hmore (lineStart : Bool) := ih lineStart fun c hc => h c (by simp [hc])
    intro c hc
    rw [literalBody] at hc
    split at hc
    · rcases List.mem_cons.mp hc with rfl | hc
      · exact hd
      · exact hmore true c hc
    · rcases List.mem_append.mp hc with hc | hc
      · split at hc
        · exact allowed_blanks indent c hc
        · simp at hc
      · rcases List.mem_cons.mp hc with rfl | hc
        · exact hd
        · exact hmore false c hc

theorem allowed_closing (text : List Char) : ∀ c ∈ closing text, isAllowed c = true := by
  unfold closing
  split <;> exact List.all_eq_true.mp (by decide)

end RenderSync.Yaml
