import RenderSync.Proofs.YamlCursor

/-!
# Plain scalars read back

A plain scalar is read word by word, and the gap in front of a word is joined to the text when the
word is there.  What `Look.plain` asks of a text says just that its words are words for the reader
too: none is a comment, no colon within the text stands alone, and no blank is at an end.
-/

namespace RenderSync.Yaml

/-! ## 1. Words -/

/-- A word of a plain scalar: it is no comment, and no colon separates it from what follows. -/
structure PlainWord (word : List Char) : Prop where
  nonempty : word ≠ []
  solid : ∀ c ∈ word, isBlank c = false ∧ isBreak c = false
  no_comment : word.head? ≠ some '#'
  no_colon : word.getLast? ≠ some ':'

/-- What ends a word: a gap, a separating colon or the end of the text. -/
def EndsWord : List Char → Prop
  | [] => True
  | c :: rest => isBlank c = true ∨ isBreak c = true ∨ c = ':' ∧ isSeparated rest = true

/-- A colon within a word does not separate it. -/
theorem isSeparated_word {word tail : List Char} (hne : word ≠ [])
    (hsolid : ∀ c ∈ word, isBlank c = false ∧ isBreak c = false) :
    isSeparated (word ++ tail) = false := by
  obtain ⟨c, word, rfl⟩ := List.exists_cons_of_ne_nil hne
  simp [isSeparated, hsolid c (by simp)]

/-- Enough fuel reads a word as a whole. -/
theorem readPlainWord_fuel {word tail : List Char}
    (hsolid : ∀ c ∈ word, isBlank c = false ∧ isBreak c = false)
    (hcolon : word.getLast? ≠ some ':') (htail : EndsWord tail) {fuel : Nat}
    (hfuel : word.length < fuel) (seen : List Char) {at_ : Cursor} {column : Nat}
    (h : at_.Stands (word ++ tail) column) :
    readPlainWord false fuel seen at_ =
      some (seen.reverse ++ word, at_.skipMany word.length) := by
  induction word generalizing fuel seen at_ column with
  | nil =>
    obtain ⟨fuel, rfl⟩ := Nat.exists_eq_succ_of_ne_zero (Nat.ne_zero_of_lt hfuel)
    cases tail with
    | nil => simp [readPlainWord, h.rest_eq]
    | cons c tail =>
      rcases htail with hblank | hbreak | ⟨rfl, hseparated⟩
      · simp [readPlainWord, h.rest_eq, hblank]
      · simp [readPlainWord, h.rest_eq, hbreak]
      · simp [readPlainWord, h.rest_eq, hseparated]
  | cons c word ih =>
    obtain ⟨fuel, rfl⟩ := Nat.exists_eq_succ_of_ne_zero (Nat.ne_zero_of_lt hfuel)
    obtain ⟨hblank, hbreak⟩ := hsolid c (by simp)
    have hsolid' : ∀ d ∈ word, isBlank d = false ∧ isBreak d = false :=
      fun d hd => hsolid d (by simp [hd])
    have hcolon' : word.getLast? ≠ some ':' := by
      cases word with
      | nil => simp
      | cons d word => simpa using hcolon
    have hinner : (decide (c = ':') && isSeparated (word ++ tail)) = false := by
      by_cases hc : c = ':'
      · have hne : word ≠ [] := by rintro rfl; simp [hc] at hcolon
        simp [isSeparated_word hne hsolid']
      · simp [hc]
    have hread := ih hsolid' hcolon' (by simpa using hfuel) (c :: seen) h.skip
    rw [readPlainWord]
    simp only [h.rest_eq, List.cons_append, hblank, hbreak, Bool.or_self, Bool.false_eq_true,
      if_false, Bool.false_and, hinner, hread, Cursor.skipMany_skip]
    simp

/-- A word is read as a whole. -/
theorem readPlainWord_word {word tail : List Char} (hword : PlainWord word)
    (htail : EndsWord tail) {at_ : Cursor} {column : Nat} (h : at_.Stands (word ++ tail) column) :
    readPlainWord false (at_.rest.length + 1) [] at_ = some (word, at_.skipMany word.length) :=
  readPlainWord_fuel hword.solid hword.no_colon htail
    (by rw [h.rest_eq, List.length_append]; omega) [] h

/-- One word and the gap behind it: the scalar goes on if the gap leaves enough indentation. -/
theorem readPlain_word (indent fuel : Nat) {word run rest : List Char} (hword : PlainWord word)
    (hne : run ≠ []) (hrun : ∀ c ∈ run, Gap.Plain c) (hrest : Stops rest) {at_ : Cursor}
    {column : Nat} (hcolumn : 0 < column) (h : at_.Stands (word ++ (run ++ rest)) column) :
    ∃ next, next.Stands rest (Gap.columnBehind (column + word.length) run) ∧
      ∀ seen gap, readPlain false indent (fuel + 1) seen gap at_ =
        if next.column < indent then
          some (seen ++ gap.text ++ word, (Gap.none.passAll run).broken, next)
        else
          readPlain false indent fuel (seen ++ gap.text ++ word) (Gap.none.passAll run) next := by
  obtain ⟨c, run, rfl⟩ := List.exists_cons_of_ne_nil hne
  have hgap : (isBlank c || isBreak c) = true := by
    rcases hrun c (by simp) with rfl | ⟨-, hbreak⟩
    · rfl
    · simp [hbreak]
  have htail : EndsWord (c :: run ++ rest) := by
    rcases Bool.or_eq_true_iff.mp hgap with hblank | hbreak
    · exact .inl hblank
    · exact .inr (.inl hbreak)
  have hbehind := h.skipMany
  obtain ⟨next, hskip, hnext⟩ := Gap.read_run indent hrun hrest Gap.none hbehind
  have hcomment : at_.sees '#' = false := by
    obtain ⟨d, word, rfl⟩ := List.exists_cons_of_ne_nil hword.nonempty
    simpa [h.sees] using hword.no_comment
  refine ⟨next, hnext, fun seen gap => ?_⟩
  rw [hbehind.rest_eq, List.cons_append] at hskip
  rw [readPlain, h.seesDocumentMark hcolumn, hcomment]
  simp only [Bool.or_self, Bool.false_eq_true, if_false, readPlainWord_word hword htail h,
    Option.bind_eq_bind, Option.bind_some, hword.nonempty, hbehind.rest_eq, List.cons_append,
    hgap, Bool.not_true, hskip]
  simp

/-! ## 2. Texts -/

/-- A text whose words, read one after the other, are all of it. -/
structure Unmarked (text : List Char) : Prop where
  flat : ∀ c ∈ text, isBreak c = false ∧ (isBlank c = true → c = ' ')
  tight : text.getLast? ≠ some ' '
  colon : ∀ front back, text = front ++ ':' :: back → isSeparated back = false
  hash : ∀ front back, text ≠ front ++ ' ' :: '#' :: back

theorem Unmarked.suffix {front text : List Char} (h : Unmarked (front ++ text)) :
    Unmarked text where
  flat := fun c hc => h.flat c (by simp [hc])
  tight := fun hlast => h.tight (by simp [List.getLast?_append, hlast])
  colon := fun left right heq => h.colon (front ++ left) right (by simp [heq])
  hash := fun left right heq => h.hash (front ++ left) right (by simp [heq])

/-- A word that such a text starts with. -/
theorem Unmarked.word {word tail : List Char} (h : Unmarked (word ++ tail)) (hne : word ≠ [])
    (hword : ∀ c ∈ word, c ≠ ' ') (hhead : word.head? ≠ some '#')
    (htail : isSeparated tail = true) : PlainWord word where
  nonempty := hne
  solid := fun c hc => by
    obtain ⟨hbreak, hblank⟩ := h.flat c (by simp [hc])
    exact ⟨Bool.eq_false_iff.mpr fun heq => hword c hc (hblank heq), hbreak⟩
  no_comment := hhead
  no_colon := fun hlast => by
    obtain ⟨front, rfl⟩ := List.getLast?_eq_some_iff.mp hlast
    have := h.colon front tail (by simp)
    rw [htail] at this
    exact absurd this (by decide)

/-- **A plain scalar is read to its end** when what follows its line is indented less. -/
theorem readPlain_unmarked {indent behind : Nat} (hbehind : behind < indent) {rest : List Char}
    (hrest : Stops rest) {text : List Char} (h : Unmarked text) (hne : text ≠ [])
    (hblank : text.head? ≠ some ' ') (hhash : text.head? ≠ some '#') {fuel : Nat}
    (hfuel : text.length < fuel) (seen : List Char) (gap : Gap) {at_ : Cursor} {column : Nat}
    (hcolumn : indent ≤ column)
    (hat : at_.Stands (text ++ ('\n' :: blanks behind ++ rest)) column) :
    ∃ next, readPlain false indent fuel seen gap at_ =
        some (seen ++ gap.text ++ text, true, next) ∧ next.Stands rest behind := by
  induction text using pieces (fun c => c = ' ') generalizing fuel seen gap at_ column with
  | word word hword =>
    obtain ⟨fuel, rfl⟩ := Nat.exists_eq_succ_of_ne_zero (Nat.ne_zero_of_lt hfuel)
    rw [← List.append_nil word] at h
    have hplain := h.word hne (by simpa using hword) hhash rfl
    obtain ⟨next, hnext, hread⟩ := readPlain_word indent fuel hplain (by simp)
      (Gap.plain_newLine behind) hrest (by omega) hat
    rw [Gap.columnBehind_newLine] at hnext
    refine ⟨next, ?_, hnext⟩
    rw [hread, if_pos (by rw [hnext.column_eq]; exact hbehind)]
    simp [Gap.broken_newLine]
  | gap word run text hword hgap hrun hfirst ih =>
    obtain ⟨fuel, rfl⟩ := Nat.exists_eq_succ_of_ne_zero (Nat.ne_zero_of_lt hfuel)
    obtain ⟨n, rfl⟩ := exists_blanks hgap (by simpa using hrun)
    -- neither the word nor the text behind the gap is empty: no blank is at an end
    have hword' : word ≠ [] := by rintro rfl; simp [blanks_succ] at hblank
    have htext : text ≠ [] := by
      rintro rfl
      exact h.tight (by simp [blanks_succ'])
    have hcomment : text.head? ≠ some '#' := by
      intro hhead
      obtain ⟨text, rfl⟩ := List.head?_eq_some_iff.mp hhead
      exact h.hash (word ++ blanks n) text (by simp [blanks_succ'])
    have hplain : PlainWord word := by
      rw [List.append_assoc] at h
      refine h.word hword' (by simpa using hword) ?_ rfl
      obtain ⟨c, word, rfl⟩ := List.exists_cons_of_ne_nil hword'
      simpa using hhash
    have hstops : Stops (text ++ ('\n' :: blanks behind ++ rest)) := by
      obtain ⟨c, text, rfl⟩ := List.exists_cons_of_ne_nil htext
      obtain ⟨hbreak, hblank⟩ := h.flat c (by simp)
      refine stops_cons.mpr ⟨Bool.eq_false_iff.mpr fun heq => ?_, hbreak⟩
      simpa [hblank heq] using hfirst c rfl
    rw [List.append_assoc, List.append_assoc] at hat
    obtain ⟨next, hnext, hread⟩ := readPlain_word indent fuel hplain (by simp [blanks_succ])
      (Gap.plain_blanks _) hstops (by omega) hat
    have hdeep : ¬ next.column < indent := by
      rw [hnext.column_eq, Gap.columnBehind_blanks]
      omega
    rw [hnext.column_eq] at hdeep
    have hshort : text.length < fuel := by
      have := List.length_pos_iff.mpr hword'
      rw [List.length_append, List.length_append] at hfuel
      omega
    obtain ⟨last, hlast, hstands⟩ := ih h.suffix htext
      (fun hhead => by simpa using hfirst ' ' hhead) hcomment hshort (seen ++ gap.text ++ word)
      (Gap.none.passAll (blanks (n + 1))) (by omega) hnext
    refine ⟨last, ?_, hstands⟩
    rw [hread, hnext.column_eq, if_neg hdeep, hlast, Gap.text_passAll_blanks]
    simp

/-- A text that may stand plain as the value of a field. -/
structure PlainText (text : List Char) : Prop extends Unmarked text where
  starts : ∃ c rest, text = c :: rest ∧ c ≠ ' ' ∧ startsAsMark c rest = false

/-- A colon behind the first character is not separated. -/
theorem endsEarly_colon {previous : Char} {text front back : List Char}
    (h : endsEarly previous text = false) (heq : text = front ++ ':' :: back) :
    isSeparated back = false := by
  induction front generalizing previous text with
  | nil =>
    subst heq
    simp only [List.nil_append, endsEarly, Bool.or_eq_false_iff] at h
    simpa using h.1.1
  | cons c front ih =>
    subst heq
    simp only [List.cons_append, endsEarly, Bool.or_eq_false_iff] at h
    exact ih h.2 rfl

/-- No hash stands behind a blank. -/
theorem endsEarly_hash {previous : Char} {text front back : List Char}
    (h : endsEarly previous text = false) :
    previous :: text ≠ front ++ ' ' :: '#' :: back := by
  induction front generalizing previous text with
  | nil =>
    intro heq
    obtain ⟨rfl, rfl⟩ := List.cons_eq_cons.mp heq
    simp [endsEarly, isBlank] at h
  | cons c front ih =>
    intro heq
    have htext : text = front ++ ' ' :: '#' :: back := (List.cons_eq_cons.mp heq).2
    cases text with
    | nil => simp at htext
    | cons d text =>
      simp only [endsEarly, Bool.or_eq_false_iff] at h
      exact ih h.2 htext

/-- A string that looks plain is. -/
theorem plainText_of_plain {text : List Char} (h : (Look.mk text).plain = true) :
    PlainText text := by
  obtain ⟨⟨⟨⟨⟨⟨hne, hends⟩, -⟩, -⟩, hspecial⟩, hlines⟩, hmarked⟩ := by
    simpa only [Look.plain, Bool.and_eq_true, Bool.not_eq_true'] using h
  obtain ⟨c, rest, rfl⟩ := List.exists_cons_of_ne_nil (l := text) (by simpa using hne)
  obtain ⟨hstart, hearly⟩ : startsAsMark c rest = false ∧ endsEarly c rest = false := by
    simp only [Look.marked, Bool.or_eq_false_iff] at hmarked
    exact hmarked.2
  have hprint : ∀ d ∈ c :: rest, isPrintable d = true := by
    simpa [Look.special] using hspecial
  have hline : ∀ d ∈ c :: rest, isBreak d = false := by
    simpa [Look.multiline] using hlines
  simp only [Look.looseEnds, Bool.or_eq_false_iff] at hends
  exact {
    flat := fun d hd => ⟨hline d hd, eq_blank_of_isPrintable (hprint d hd)⟩
    tight := fun hlast => by simp [hlast] at hends
    colon := fun front back heq => by
      cases front with
      | nil =>
        obtain ⟨rfl, rfl⟩ := List.cons_eq_cons.mp heq
        simp [startsAsMark] at hstart
        exact hstart
      | cons d front =>
        obtain ⟨rfl, rfl⟩ := List.cons_eq_cons.mp heq
        exact endsEarly_colon hearly rfl
    hash := fun front back => endsEarly_hash hearly
    starts := ⟨c, rest, rfl, fun hc => by simp [hc] at hends, hstart⟩ }

/-- A character of names is no blank, no break and, but for the hyphen, no mark. -/
theorem isWord_char {c : Char} (h : isWord c = true) : isBlank c = false ∧ isBreak c = false := by
  constructor <;> rw [Bool.eq_false_iff] <;> intro heq
  · simp only [isBlank, Bool.or_eq_true, decide_eq_true_eq] at heq
    rcases heq with rfl | rfl <;> exact absurd h (by decide)
  · simp only [isBreak, Bool.or_eq_true, decide_eq_true_eq] at heq
    rcases heq with (((rfl | rfl) | rfl) | rfl) | rfl <;> exact absurd h (by decide)

theorem startsAsMark_of_isWord {c : Char} (hc : c ≠ '-') (h : isWord c = true)
    (rest : List Char) : startsAsMark c rest = false := by
  rw [Bool.eq_false_iff]
  intro heq
  simp only [startsAsMark, Bool.or_eq_true, Bool.and_eq_true, decide_eq_true_eq,
    List.contains_eq_mem] at heq
  rcases heq with (hmem | rfl) | ⟨(rfl | rfl) | rfl, -⟩
  · have hnone : ("#,[]\x7b\x7d&*!|>'\"%@".toList.all fun m => !isWord m) = true := by decide
    have := List.all_eq_true.mp hnone c hmem
    simp [h] at this
  all_goals first | exact hc rfl | exact absurd h (by decide)

/-- A word of letters and digits may stand plain. -/
theorem plainText_of_isWord {c : Char} {rest : List Char} (hc : c ≠ '-')
    (h : ∀ d ∈ c :: rest, isWord d = true) : PlainText (c :: rest) := by
  have hnot (d : Char) (hd : isWord d = false) : d ∉ c :: rest := fun hmem => by
    simp [h d hmem] at hd
  exact {
    flat := fun d hd => ⟨(isWord_char (h d hd)).2, fun hblank => by
      simp [(isWord_char (h d hd)).1] at hblank⟩
    tight := fun hlast => hnot ' ' (by decide) (List.mem_of_getLast? hlast)
    colon := fun front back heq => absurd (by simp [heq]) (hnot ':' (by decide))
    hash := fun front back heq => absurd (by simp [heq]) (hnot ' ' (by decide))
    starts := ⟨c, rest, rfl, fun heq => absurd (by simp [heq]) (hnot ' ' (by decide)),
      startsAsMark_of_isWord hc (h c (by simp)) rest⟩ }

/-- **A plain value is read as it stands.** -/
theorem readPlain_text {indent behind : Nat} (hbehind : behind < indent) {text rest : List Char}
    (h : PlainText text) (hrest : Stops rest) {at_ : Cursor} {column : Nat}
    (hcolumn : indent ≤ column)
    (hat : at_.Stands (text ++ ('\n' :: blanks behind ++ rest)) column) :
    ∃ next, readPlain false indent (at_.rest.length + 1) [] Gap.none at_ =
        some (text, true, next) ∧ next.Stands rest behind := by
  obtain ⟨c, back, rfl, hblank, hmark⟩ := h.starts
  have hhash : c ≠ '#' := by
    rintro rfl
    exact absurd hmark (by simp [startsAsMark])
  obtain ⟨next, hread, hnext⟩ := readPlain_unmarked hbehind hrest h.toUnmarked (by simp)
    (by simpa using hblank) (by simpa using hhash)
    (show (c :: back).length < at_.rest.length + 1 by
      rw [hat.rest_eq, List.length_append]; omega) [] Gap.none
    hcolumn hat
  exact ⟨next, by simpa [Gap.text, Gap.none] using hread, hnext⟩

/-- A name in front of a colon is read up to it. -/
theorem readPlain_name (indent fuel : Nat) {name more : List Char} (h : PlainWord name)
    (hmore : isSeparated more = true) {at_ : Cursor} {column : Nat}
    (hmark : at_.seesDocumentMark = false) (hat : at_.Stands (name ++ ':' :: more) column) :
    readPlain false indent (fuel + 1) [] Gap.none at_ =
      some (name, false, at_.skipMany name.length) := by
  have hcomment : at_.sees '#' = false := by
    obtain ⟨c, name, rfl⟩ := List.exists_cons_of_ne_nil h.nonempty
    simpa [hat.sees] using h.no_comment
  have hcolon : (isBlank ':' || isBreak ':') = false := rfl
  have htail : EndsWord (':' :: more) := .inr (.inr ⟨rfl, hmore⟩)
  rw [readPlain, hmark, hcomment]
  simp only [Bool.or_self, Bool.false_eq_true, if_false,
    readPlainWord_word h htail hat, Option.bind_eq_bind, Option.bind_some,
    h.nonempty, hat.skipMany.rest_eq, hcolon, Bool.not_false, if_true]
  rfl

end RenderSync.Yaml
