import RenderSync.Proofs.YamlCursor
import RenderSync.Text.Digits

/-!
# Quoted scalars read back

Between quotes a text is read word by word as well, and only the characters of words are written
in a form of their own: a single quote twice, and between double quotes escapes.  Single quotes
keep a gap if it has blanks only or breaks only, and behind breaks the next line is indented;
double quotes escape breaks, so that their gaps are blanks.
-/

/-! ## 1. Numbers read back

`toNat?` folds over digits from the front; `ofNat` and `hex` put the last digit at the end.  So a
fold over a number's digits and one more is one more step of the fold. -/

namespace RenderSync.Digits

/-- One digit more. -/
def step (base : Nat) (sum : Option Nat) (c : Char) : Option Nat := do
  let n ← sum
  let d ← value? c
  if d < base then some (n * base + d) else none

theorem toNat?_eq (base : Nat) {digits : List Char} (h : digits ≠ []) :
    toNat? base digits = digits.foldl (step base) (some 0) := by
  cases digits with
  | nil => exact absurd rfl h
  | cons c rest => rfl

theorem step_some {base n d : Nat} {c : Char} (hc : value? c = some d) (hd : d < base) :
    step base (some n) c = some (n * base + d) := by simp [step, hc, hd]

theorem value?_digitChar : ∀ d < 16, value? (digitChar d) = some d := by decide

/-- Decimal digits are digits. -/
theorem isDecimal_digitChar : ∀ d < 10, isDecimal (digitChar d) = true := by decide

theorem isDecimal_ofNat (n : Nat) : ∀ c ∈ ofNat n, isDecimal c = true := by
  induction n using ofNat.induct with
  | case1 n hlast =>
    rw [ofNat, if_pos hlast]
    simpa using isDecimal_digitChar n hlast
  | case2 n hmore ih =>
    rw [ofNat, if_neg hmore]
    intro c hc
    rcases List.mem_append.mp hc with hc | hc
    · exact ih c hc
    · rw [List.mem_singleton.mp hc]
      exact isDecimal_digitChar _ (Nat.mod_lt _ (by decide))

theorem ofNat_ne_nil (n : Nat) : ofNat n ≠ [] := by
  rw [ofNat]
  split <;> simp

/-- The first digit is zero for zero only. -/
theorem head?_ofNat {n : Nat} (h : (ofNat n).head? = some '0') : n = 0 := by
  induction n using ofNat.induct with
  | case1 n hlast =>
    have : ∀ d < 10, digitChar d = '0' → d = 0 := by decide
    rw [ofNat, if_pos hlast] at h
    exact this n hlast (by simpa using h)
  | case2 n hmore ih =>
    obtain ⟨c, rest, hrest⟩ := List.exists_cons_of_ne_nil (ofNat_ne_nil (n / 10))
    rw [ofNat, if_neg hmore] at h
    have := ih (by simpa [hrest] using h)
    omega

theorem foldl_ofNat (n : Nat) : (ofNat n).foldl (step 10) (some 0) = some n := by
  induction n using ofNat.induct with
  | case1 n hlast =>
    rw [ofNat, if_pos hlast, List.foldl_cons, List.foldl_nil,
      step_some (value?_digitChar n (by omega)) hlast]
    simp
  | case2 n hmore ih =>
    have hlast : n % 10 < 10 := Nat.mod_lt _ (by decide)
    rw [ofNat, if_neg hmore, List.foldl_append, ih, List.foldl_cons, List.foldl_nil,
      step_some (value?_digitChar _ (by omega)) hlast, Nat.mul_comm, Nat.div_add_mod]

/-- **A number is read back from its decimal digits.** -/
theorem toNat?_ofNat (n : Nat) : toNat? 10 (ofNat n) = some n := by
  rw [toNat?_eq 10 (ofNat_ne_nil n), foldl_ofNat]

/-- The capital of a hexadecimal digit. -/
def upperDigit (c : Char) : Char := if 'a' ≤ c ∧ c ≤ 'f' then Char.ofNat (c.toNat - 32) else c

theorem value?_upperDigit : ∀ d < 16, value? (upperDigit (digitChar d)) = some d := by decide

theorem length_hex (width n : Nat) : (hex width n).length = width := by
  induction width generalizing n with
  | zero => rfl
  | succ width ih => rw [hex, List.length_append, ih]; rfl

theorem foldl_upperHex (width n : Nat) :
    ((hex width n).map upperDigit).foldl (step 16) (some 0) = some (n % Nat.pow 16 width) := by
  induction width generalizing n with
  | zero => exact congrArg some (Nat.mod_one n).symm
  | succ width ih =>
    have hlast : n % 16 < 16 := Nat.mod_lt _ (by decide)
    have hpow : Nat.pow 16 (width + 1) = 16 * Nat.pow 16 width := Nat.mul_comm _ _
    rw [hex, List.map_append, List.foldl_append, ih, List.map_cons, List.map_nil,
      List.foldl_cons, List.foldl_nil, step_some (value?_upperDigit _ hlast) hlast, hpow,
      Nat.mod_mul, Nat.add_comm, Nat.mul_comm]

/-- **A number is read back from enough hexadecimal digits**, capitals here. -/
theorem toNat?_upperHex {width n : Nat} (hn : n < Nat.pow 16 width) (hwidth : 0 < width) :
    toNat? 16 ((hex width n).map upperDigit) = some n := by
  have hne : (hex width n).map upperDigit ≠ [] := by
    rw [ne_eq, ← List.length_eq_zero_iff, List.length_map, length_hex]
    omega
  rw [toNat?_eq 16 hne, foldl_upperHex, Nat.mod_eq_of_lt hn]

end RenderSync.Digits

namespace RenderSync.Yaml

/-! ## 2. Words -/

/-- The mark around a quoted scalar. -/
def quoteOf (single : Bool) : Char := if single then '\'' else '"'

/-- What ends a word between quotes: a gap, the closing quote or the end of the text. -/
def EndsQuoted (single : Bool) : List Char → Prop
  | [] => True
  | c :: rest =>
    isBlank c = true ∨ isBreak c = true ∨
      c = quoteOf single ∧ rest.head? ≠ some (quoteOf single)

/-- Between quotes of a kind, `written` is read as the character `c` of a word. -/
structure StandsFor (single : Bool) (written : List Char) (c : Char) : Prop where
  nonempty : written ≠ []
  read : ∀ fuel seen at_ tail column, at_.Stands (written ++ tail) column →
    readQuotedWord single (fuel + 1) seen at_ =
      readQuotedWord single fuel (c :: seen) (at_.skipMany written.length)

section Word

variable {single : Bool} {write : Char → List Char} {word tail : List Char} {at_ : Cursor}
  {column : Nat}

/-- Enough fuel reads a word between quotes as a whole. -/
theorem readQuotedWord_fuel (hword : ∀ c ∈ word, StandsFor single (write c) c)
    (htail : EndsQuoted single tail) {fuel : Nat} (hfuel : word.length < fuel) (seen : List Char)
    (h : at_.Stands (word.flatMap write ++ tail) column) :
    readQuotedWord single fuel seen at_ =
      some (seen.reverse ++ word, false, at_.skipMany (word.flatMap write).length) := by
  induction word generalizing fuel seen at_ column with
  | nil =>
    obtain ⟨fuel, rfl⟩ := Nat.exists_eq_succ_of_ne_zero (Nat.ne_zero_of_lt hfuel)
    cases tail with
    | nil => simp [readQuotedWord, h.rest_eq]
    | cons c tail =>
      rcases htail with hblank | hbreak | ⟨rfl, hquote⟩
      · simp [readQuotedWord, h.rest_eq, hblank]
      · simp [readQuotedWord, h.rest_eq, hbreak]
      · cases single <;> simp_all [readQuotedWord, h.rest_eq, quoteOf]
  | cons c word ih =>
    obtain ⟨fuel, rfl⟩ := Nat.exists_eq_succ_of_ne_zero (Nat.ne_zero_of_lt hfuel)
    rw [List.flatMap_cons, List.append_assoc] at h
    rw [(hword c (by simp)).read fuel seen at_ _ column h,
      ih (fun d hd => hword d (by simp [hd])) (by simpa using hfuel) (c :: seen) h.skipMany,
      Cursor.skipMany_skipMany]
    simp

/-- A word between quotes is read as a whole. -/
theorem readQuotedWord_word (hword : ∀ c ∈ word, StandsFor single (write c) c)
    (htail : EndsQuoted single tail) (h : at_.Stands (word.flatMap write ++ tail) column) :
    readQuotedWord single (at_.rest.length + 1) [] at_ =
      some (word, false, at_.skipMany (word.flatMap write).length) := by
  have hlength : word.length ≤ (word.flatMap write).length := by
    clear h
    induction word with
    | nil => simp
    | cons c word ih =>
      have := ih fun d hd => hword d (by simp [hd])
      have := List.length_pos_iff.mpr (hword c (by simp)).nonempty
      simp only [List.flatMap_cons, List.length_append, List.length_cons] at *
      omega
  exact readQuotedWord_fuel hword htail (by rw [h.rest_eq, List.length_append]; omega) [] h

/-- The last word of a quoted scalar. -/
theorem readQuoted_last (hcolumn : 0 < column)
    (hword : ∀ c ∈ word, StandsFor single (write c) c) {rest : List Char}
    (hrest : rest.head? ≠ some (quoteOf single))
    (h : at_.Stands (word.flatMap write ++ quoteOf single :: rest) column) (fuel : Nat)
    (seen : List Char) :
    ∃ next, readQuoted single (fuel + 1) seen at_ = some (seen ++ word, next) ∧
      next.rest = rest := by
  have htail : EndsQuoted single (quoteOf single :: rest) := .inr (.inr ⟨rfl, hrest⟩)
  have hnext := h.skipMany
  have hquote : (at_.skipMany (word.flatMap write).length).sees
      (if single = true then '\'' else '"') = true := by
    rw [hnext.sees]
    exact decide_eq_true rfl
  refine ⟨_, ?_, hnext.skip.rest_eq⟩
  rw [readQuoted, h.seesDocumentMark hcolumn]
  simp only [Bool.false_eq_true, if_false, readQuotedWord_word hword htail h,
    Option.bind_eq_bind, Option.bind_some, hquote, if_true]

/-- A word of a quoted scalar and the gap behind it. -/
theorem readQuoted_word (hcolumn : 0 < column)
    (hword : ∀ c ∈ word, StandsFor single (write c) c) {run rest : List Char} (hne : run ≠ [])
    (hrun : ∀ c ∈ run, Gap.Plain c) (hrest : Stops rest)
    (h : at_.Stands (word.flatMap write ++ (run ++ rest)) column) :
    ∃ next, next.Stands rest
        (Gap.columnBehind (column + (word.flatMap write).length) run) ∧
      ∀ fuel seen, readQuoted single (fuel + 1) seen at_ =
        readQuoted single fuel (seen ++ word ++ (Gap.none.passAll run).text) next := by
  obtain ⟨next, hskip, hnext⟩ := Gap.read_run 0 hrun hrest Gap.none h.skipMany
  obtain ⟨c, run, rfl⟩ := List.exists_cons_of_ne_nil hne
  have htail : EndsQuoted single (c :: run ++ rest) := by
    rcases hrun c (by simp) with rfl | ⟨-, hbreak⟩
    · exact .inl rfl
    · exact .inr (.inl hbreak)
  have hbehind := h.skipMany
  have hquote : (at_.skipMany (word.flatMap write).length).sees
      (if single = true then '\'' else '"') = false := by
    have : c ≠ quoteOf single := by
      rintro rfl
      rcases hrun (quoteOf single) (by simp) with h | ⟨-, h⟩ <;> cases single <;>
        exact absurd h (by decide)
    rw [hbehind.sees]
    exact decide_eq_false this
  refine ⟨next, hnext, fun fuel seen => ?_⟩
  rw [readQuoted, h.seesDocumentMark hcolumn]
  simp only [Bool.false_eq_true, if_false, readQuotedWord_word hword htail h,
    Option.bind_eq_bind, Option.bind_some, hquote]
  rw [if_neg (by rw [hbehind.rest_eq]; exact List.cons_ne_nil _ _), hskip]
  rfl

end Word

/-! ## 3. Quoted once -/

/-- A character between single quotes. -/
def singleChar (c : Char) : List Char := if c = '\'' then ['\'', '\''] else [c]

/-- A quote stands there twice, and any other character once. -/
theorem standsFor_single {c : Char} (hblank : isBlank c = false) (hbreak : isBreak c = false) :
    StandsFor true (singleChar c) c where
  nonempty := by unfold singleChar; split <;> simp
  read := fun fuel seen at_ tail column h => by
    rw [readQuotedWord]
    by_cases hc : c = '\''
    · subst hc
      simp [h.rest_eq, singleChar, isBlank, isBreak]
    · simp [singleChar, hc] at h
      simp [h.rest_eq, singleChar, hblank, hbreak, hc, Cursor.skip]

/-- A text on which nothing next to each other is lost: blanks and breaks do not meet. -/
structure Unspaced (text : List Char) : Prop where
  printable : ∀ c ∈ text, isPrintable c = true
  flat : '\n' ∉ text
  before : ∀ front c back, text = front ++ ' ' :: c :: back → isBreak c = false
  behind : ∀ front c back, text = front ++ c :: ' ' :: back → isBreak c = false

theorem Unspaced.part {front text back : List Char} (h : Unspaced (front ++ text ++ back)) :
    Unspaced text where
  printable := fun c hc => h.printable c (by simp [hc])
  flat := fun hc => h.flat (by simp [hc])
  before := fun left c right heq => h.before (front ++ left) c (right ++ back) (by simp [heq])
  behind := fun left c right heq => h.behind (front ++ left) c (right ++ back) (by simp [heq])

/-- A gap has blanks only or breaks only. -/
theorem Unspaced.gap {run : List Char} (h : Unspaced run)
    (hrun : ∀ c ∈ run, (isBlank c || isBreak c) = true) :
    (∀ c ∈ run, c = ' ') ∨ ∀ c ∈ run, isBreak c = true := by
  induction run with
  | nil => simp
  | cons c run ih =>
    have hc : c = ' ' ∨ isBreak c = true :=
      (Bool.or_eq_true_iff.mp (hrun c (by simp))).imp_left
        (eq_blank_of_isPrintable (h.printable c (by simp)))
    have hpart : Unspaced ([c] ++ run ++ []) := by simpa using h
    have hmore := ih hpart.part fun d hd => hrun d (by simp [hd])
    cases run with
    | nil => simpa using hc
    | cons d run =>
      rcases hc with rfl | hc <;> rcases hmore with hmore | hmore
      · exact .inl (by simpa using hmore)
      · have := h.before [] d run rfl
        simp [hmore d (by simp)] at this
      · have := h.behind [] c run (by simp [hmore d (by simp)])
        simp [hc] at this
      · exact .inr (by simpa [hc] using hmore)

/-- If there is no such pair, two characters next to each other are none. -/
theorem hasPair_false {p q : Char → Bool} {text front back : List Char} {a b : Char}
    (h : hasPair p q text = false) (heq : text = front ++ a :: b :: back) :
    (p a && q b) = false := by
  subst heq
  induction front with
  | nil => exact (Bool.or_eq_false_iff.mp h).1
  | cons c front ih =>
    refine ih ?_
    cases front <;> exact (Bool.or_eq_false_iff.mp h).2

/-- A string without `\n` that may be quoted once. -/
theorem unspaced_of_singleQuoted {text : List Char} (h : (Look.mk text).singleQuoted = true)
    (hflat : '\n' ∉ text) : Unspaced text := by
  obtain ⟨⟨hbehind, hbefore⟩, hspecial⟩ := by
    simpa only [Look.singleQuoted, Bool.and_eq_true, Bool.not_eq_true'] using h
  exact {
    printable := by simpa [Look.special] using hspecial
    flat := hflat
    before := fun front c back heq => by simpa using hasPair_false hbefore heq
    behind := fun front c back heq => by simpa using hasPair_false hbehind heq }

/-- A word is written character by character. -/
theorem singleBody_word (indent : Nat) {word : List Char} (hword : ∀ c ∈ word, isBreak c = false)
    (rest : List Char) :
    singleBody indent false (word ++ rest) =
      word.flatMap singleChar ++ singleBody indent false rest := by
  induction word with
  | nil => rfl
  | cons c word ih =>
    have := ih fun d hd => hword d (by simp [hd])
    simp [singleBody, hword c (by simp), this, singleChar]

/-- Behind breaks the next line is indented. -/
theorem singleBody_breaks (indent : Nat) {run text : List Char} (hne : run ≠ [])
    (hrun : ∀ c ∈ run, isBreak c = true ∧ c ≠ '\n')
    (htext : ∀ c ∈ text.head?, c ≠ ' ' ∧ isBreak c = false) (inBreaks : Bool) :
    singleBody indent inBreaks (run ++ text) =
      run ++ (blanks indent ++ singleBody indent false text) := by
  induction run generalizing inBreaks with
  | nil => exact absurd rfl hne
  | cons c run ih =>
    obtain ⟨hbreak, hc⟩ := hrun c (by simp)
    cases run with
    | cons d run =>
      have := ih (by simp) (fun e he => hrun e (by simp [he])) true
      simp only [List.cons_append] at this ⊢
      rw [singleBody, this]
      simp [hbreak, hc]
    | nil =>
      cases text with
      | nil => simp [singleBody, hbreak, hc]
      | cons d text =>
        obtain ⟨hd, hdbreak⟩ := htext d rfl
        simp [singleBody, hbreak, hc, hd, hdbreak]

/-- A gap is written so that reading it gives the gap. -/
theorem singleBody_gap {indent : Nat} (hindent : 0 < indent) {run text : List Char}
    (h : Unspaced run) (hne : run ≠ []) (hrun : ∀ c ∈ run, (isBlank c || isBreak c) = true)
    (htext : ∀ c ∈ text.head?, (isBlank c || isBreak c) = false) :
    ∃ written, singleBody indent false (run ++ text) =
        written ++ singleBody indent false text ∧ written ≠ [] ∧
      (∀ c ∈ written, Gap.Plain c) ∧ (Gap.none.passAll written).text = run ∧
      ∀ column, 0 < column → 0 < Gap.columnBehind column written := by
  rcases h.gap hrun with hblank | hbreak
  · obtain ⟨n, rfl⟩ := exists_blanks hne hblank
    have hsame : (blanks (n + 1)).flatMap singleChar = blanks (n + 1) := by
      simp [blanks, List.flatMap_replicate, singleChar]
    refine ⟨blanks (n + 1), ?_, hne, Gap.plain_blanks _, Gap.text_passAll_blanks _, ?_⟩
    · rw [singleBody_word indent (fun c hc => by simp [hblank c hc, isBreak]), hsame]
    · intro column hcolumn
      rw [Gap.columnBehind_blanks]
      omega
  · obtain ⟨c, run, rfl⟩ := List.exists_cons_of_ne_nil hne
    have hflat : ∀ d ∈ c :: run, isBreak d = true ∧ d ≠ '\n' := fun d hd =>
      ⟨hbreak d hd, fun heq => h.flat (heq ▸ hd)⟩
    have hhead : ∀ d ∈ text.head?, d ≠ ' ' ∧ isBreak d = false := fun d hd =>
      ⟨fun heq => by simpa [heq, isBlank] using htext d hd,
        (Bool.or_eq_false_iff.mp (htext d hd)).2⟩
    refine ⟨c :: run ++ blanks indent, ?_, by simp, ?_, ?_, ?_⟩
    · rw [singleBody_breaks indent hne hflat hhead, List.append_assoc]
    · intro d hd
      rcases List.mem_append.mp hd with hd | hd
      · exact .inr ⟨h.printable d hd, hbreak d hd⟩
      · exact Gap.plain_blanks _ d hd
    · have hc := (hflat c (by simp)).2
      rw [Gap.passAll_append, Gap.passAll_breaks hbreak, Gap.passAll_blanks rfl]
      simp [Gap.text, hc]
    · intro column _
      rw [Gap.columnBehind_append, Gap.columnBehind_blanks]
      omega

/-- Behind a gap stands a word or the closing quote. -/
theorem stops_singleBody (indent : Nat) {text rest : List Char}
    (htext : ∀ c ∈ text.head?, (isBlank c || isBreak c) = false) :
    Stops (singleBody indent false text ++ '\'' :: rest) := by
  cases text with
  | nil => simp [singleBody, isBlank, isBreak]
  | cons c text =>
    obtain ⟨hblank, hbreak⟩ := Bool.or_eq_false_iff.mp (htext c rfl)
    by_cases hc : c = '\''
    · subst hc
      simp [singleBody, isBlank, isBreak]
    · simp [singleBody, hblank, hbreak, hc]

/-- **What is quoted once is read back.** -/
theorem readQuoted_single {indent : Nat} (hindent : 0 < indent) {rest : List Char}
    (hrest : rest.head? ≠ some '\'') {text : List Char} (h : Unspaced text) {fuel : Nat}
    (hfuel : text.length < fuel) (seen : List Char) {at_ : Cursor} {column : Nat}
    (hcolumn : 0 < column)
    (hat : at_.Stands (singleBody indent false text ++ '\'' :: rest) column) :
    ∃ next, readQuoted true fuel seen at_ = some (seen ++ text, next) ∧ next.rest = rest := by
  induction text using pieces (fun c => isBlank c || isBreak c)
    generalizing fuel seen at_ column with
  | word word hword =>
    obtain ⟨fuel, rfl⟩ := Nat.exists_eq_succ_of_ne_zero (Nat.ne_zero_of_lt hfuel)
    have hsolid : ∀ c ∈ word, isBlank c = false ∧ isBreak c = false := fun c hc =>
      Bool.or_eq_false_iff.mp (hword c hc)
    have hbody := singleBody_word indent (fun c hc => (hsolid c hc).2) []
    simp only [List.append_nil, singleBody, Bool.false_eq_true, if_false] at hbody
    rw [hbody] at hat
    exact readQuoted_last hcolumn
      (fun c hc => standsFor_single (hsolid c hc).1 (hsolid c hc).2) hrest hat fuel seen
  | gap word run text hword hne hrun hfirst ih =>
    obtain ⟨fuel, rfl⟩ := Nat.exists_eq_succ_of_ne_zero (Nat.ne_zero_of_lt hfuel)
    have hsolid : ∀ c ∈ word, isBlank c = false ∧ isBreak c = false := fun c hc =>
      Bool.or_eq_false_iff.mp (hword c hc)
    obtain ⟨written, hbody, hwritten, hplain, hgap, hbehind⟩ :=
      singleBody_gap hindent h.part hne hrun hfirst
    rw [List.append_assoc, singleBody_word indent (fun c hc => (hsolid c hc).2), hbody,
      List.append_assoc, List.append_assoc] at hat
    obtain ⟨next, hnext, hread⟩ := readQuoted_word hcolumn
      (fun c hc => standsFor_single (hsolid c hc).1 (hsolid c hc).2) hwritten hplain
      (stops_singleBody indent hfirst) hat
    have hshort : text.length < fuel := by
      have := List.length_pos_iff.mpr hne
      rw [List.length_append, List.length_append] at hfuel
      omega
    rw [← List.append_nil (word ++ run ++ text)] at h
    obtain ⟨last, hlast, hstands⟩ := ih h.part hshort (seen ++ word ++ run)
      (hbehind _ (by omega)) hnext
    refine ⟨last, ?_, hstands⟩
    rw [hread, hgap, hlast]
    simp

/-! ## 4. Quoted twice -/

/-- What an escape says: a letter for the character, or enough digits of its code. -/
theorem escape_eq (c : Char) :
    (∃ e, escape c = ['\\', e] ∧ Escape.ofChar? e = some (.char c) ∧ isBreak e = false) ∨
    ∃ e n, escape c = '\\' :: e :: (Digits.hex n c.toNat).map Digits.upperDigit ∧
      Escape.ofChar? e = some (.digits n) ∧ isBreak e = false ∧ 0 < n ∧
        c.toNat < Nat.pow 16 n := by
  unfold escape
  split
  iterate 15 exact .inl ⟨_, rfl, rfl, by decide⟩
  refine .inr ?_
  split
  · next hsmall => exact ⟨_, 2, rfl, rfl, by decide, by decide, Nat.lt_succ_of_le hsmall⟩
  split
  · next hsmall => exact ⟨_, 4, rfl, rfl, by decide, by decide, Nat.lt_succ_of_le hsmall⟩
  · exact ⟨_, 8, rfl, rfl, by decide, by decide, c.val.toNat_lt⟩

theorem charOfCode?_toNat (c : Char) : charOfCode? c.toNat = some c := by
  have hvalid : c.toNat < 0xD800 ∨ 0xDFFF < c.toNat ∧ c.toNat < 0x110000 := c.valid
  rw [charOfCode?, if_neg, Char.ofNat_toNat]
  simp only [Bool.or_eq_true, Bool.and_eq_true, decide_eq_true_eq]
  omega

/-- An escape stands for its character. -/
theorem standsFor_escape (c : Char) : StandsFor false (escape c) c := by
  have hmark : (isBlank '\\' || isBreak '\\') = false := rfl
  have hquote : ¬ '\\' = '"' := by decide
  rcases escape_eq c with ⟨e, hwritten, he, hbreak⟩ | ⟨e, n, hwritten, he, hbreak, hn, hc⟩ <;>
    refine ⟨by simp [hwritten], fun fuel seen at_ tail column h => ?_⟩ <;>
    rw [hwritten] at h ⊢ <;> rw [readQuotedWord]
  · simp only [h.rest_eq, List.cons_append, hmark, hquote, hbreak, he, Bool.false_eq_true, if_false,
      if_true]
    rfl
  · have hlength : ((Digits.hex n c.toNat).map Digits.upperDigit).length = n := by
      rw [List.length_map, Digits.length_hex]
    have htake : ((Digits.hex n c.toNat).map Digits.upperDigit ++ tail).take n =
        (Digits.hex n c.toNat).map Digits.upperDigit := by
      rw [List.take_append_of_le_length (Nat.le_of_eq hlength.symm), List.take_of_length_le
        (Nat.le_of_eq hlength)]
    simp only [h.rest_eq, List.cons_append, hmark, hquote, hbreak, he, htake, hlength,
      Digits.toNat?_upperHex hc hn, charOfCode?_toNat, Bool.false_eq_true, if_false, if_true,
      Nat.lt_irrefl, Option.bind_eq_bind, Option.bind_some, List.length_cons]
    rw [Nat.add_comm 2 n]

/-- A character between double quotes is escaped, or it is no gap, no quote and no escape. -/
theorem doubleChar_eq {c : Char} (hc : c ≠ ' ') : doubleChar c = escape c ∨
    doubleChar c = [c] ∧ isBlank c = false ∧ isBreak c = false ∧ c ≠ '"' ∧ c ≠ '\\' := by
  unfold doubleChar
  split
  · exact .inl rfl
  · next hplain =>
    simp only [Bool.or_eq_true, Bool.not_eq_true', decide_eq_true_eq, not_or, Bool.not_eq_false,
      Bool.not_eq_true] at hplain
    obtain ⟨⟨⟨hprint, hbreak⟩, hquote⟩, hescape⟩ := hplain
    have hblank : isBlank c = false := Bool.eq_false_iff.mpr fun h =>
      hc (eq_blank_of_isPrintable hprint h)
    exact .inr ⟨rfl, hblank, hbreak, hquote, hescape⟩

/-- Between double quotes every character but the blank stands for itself, escaped or not. -/
theorem standsFor_double {c : Char} (hc : c ≠ ' ') : StandsFor false (doubleChar c) c := by
  rcases doubleChar_eq hc with hwritten | ⟨hwritten, hblank, hbreak, hquote, hescape⟩ <;>
    rw [hwritten]
  · exact standsFor_escape c
  · refine ⟨by simp, fun fuel seen at_ tail column h => ?_⟩
    rw [readQuotedWord]
    simp [h.rest_eq, hblank, hbreak, hquote, hescape, Cursor.skip]

/-- Behind a gap stands a word or the closing quote. -/
theorem stops_doubled {text rest : List Char} (htext : ∀ c ∈ text.head?, c ≠ ' ') :
    Stops (text.flatMap doubleChar ++ '"' :: rest) := by
  cases text with
  | nil => simp [isBlank, isBreak]
  | cons c text =>
    rw [List.flatMap_cons]
    rcases doubleChar_eq (htext c rfl) with hwritten | ⟨hwritten, hblank, hbreak, -⟩ <;>
      rw [hwritten]
    · rcases escape_eq c with ⟨e, hescape, -⟩ | ⟨e, n, hescape, -⟩ <;>
        simp [hescape, isBlank, isBreak]
    · simp [hblank, hbreak]

/-- **What is quoted twice is read back**, whatever it is. -/
theorem readQuoted_double {rest : List Char} (hrest : rest.head? ≠ some '"') {text : List Char}
    {fuel : Nat} (hfuel : text.length < fuel) (seen : List Char) {at_ : Cursor} {column : Nat}
    (hcolumn : 0 < column) (hat : at_.Stands (text.flatMap doubleChar ++ '"' :: rest) column) :
    ∃ next, readQuoted false fuel seen at_ = some (seen ++ text, next) ∧ next.rest = rest := by
  induction text using pieces (fun c => c = ' ') generalizing fuel seen at_ column with
  | word word hword =>
    obtain ⟨fuel, rfl⟩ := Nat.exists_eq_succ_of_ne_zero (Nat.ne_zero_of_lt hfuel)
    exact readQuoted_last hcolumn
      (fun c hc => standsFor_double (by simpa using hword c hc)) hrest hat fuel seen
  | gap word run text hword hne hrun hfirst ih =>
    obtain ⟨fuel, rfl⟩ := Nat.exists_eq_succ_of_ne_zero (Nat.ne_zero_of_lt hfuel)
    obtain ⟨n, rfl⟩ := exists_blanks hne (by simpa using hrun)
    have hsame : (blanks (n + 1)).flatMap doubleChar = blanks (n + 1) := by
      have : doubleChar ' ' = [' '] := by decide
      simp [blanks, List.flatMap_replicate, this]
    rw [List.flatMap_append, List.flatMap_append, hsame, List.append_assoc,
      List.append_assoc] at hat
    obtain ⟨next, hnext, hread⟩ := readQuoted_word hcolumn
      (fun c hc => standsFor_double (by simpa using hword c hc)) hne (Gap.plain_blanks _)
      (stops_doubled (by simpa using hfirst)) hat
    rw [Gap.columnBehind_blanks] at hnext
    have hshort : text.length < fuel := by
      have := List.length_pos_iff.mpr hne
      rw [List.length_append, List.length_append] at hfuel
      omega
    obtain ⟨last, hlast, hstands⟩ := ih hshort (seen ++ word ++ blanks (n + 1)) (by omega) hnext
    refine ⟨last, ?_, hstands⟩
    rw [hread, Gap.text_passAll_blanks, hlast]
    simp

/-! ## 5. What is written -/

theorem allowed_singleBody (indent : Nat) (inBreaks : Bool) {text : List Char}
    (h : ∀ c ∈ text, isAllowed c = true) :
    ∀ c ∈ singleBody indent inBreaks text, isAllowed c = true := by
  induction text generalizing inBreaks with
  | nil =>
    cases inBreaks with
    | false => simp [singleBody]
    | true => exact allowed_blanks indent
  | cons d text ih =>
    have hd := h d (by simp)
    have hmore (inBreaks : Bool) := ih inBreaks fun c hc => h c (by simp [hc])
    intro c hc
    rw [singleBody] at hc
    split at hc
    · rcases List.mem_append.mp hc with hc | hc
      · split at hc <;> simp at hc <;> subst hc
        · decide
        · exact hd
      · exact hmore true c hc
    · rcases List.mem_append.mp hc with hc | hc
      · rcases List.mem_append.mp hc with hc | hc
        · split at hc
          · exact allowed_blanks indent c hc
          · simp at hc
        · split at hc <;> simp at hc <;> subst hc
          · decide
          · exact hd
      · exact hmore _ c hc

theorem le_length_singleBody (indent : Nat) (inBreaks : Bool) (text : List Char) :
    text.length ≤ (singleBody indent inBreaks text).length := by
  induction text generalizing inBreaks with
  | nil => simp
  | cons c text ih =>
    have hbehind := ih true
    have hmore := ih (inBreaks && c = ' ')
    rw [singleBody]
    split
    · split <;> simp <;> omega
    · simp only [List.length_append, List.length_cons]
      split <;> split <;> simp <;> omega

theorem allowed_escape (c : Char) : ∀ d ∈ escape c, isAllowed d = true := by
  have hhex (width n : Nat) :
      ∀ d ∈ (Digits.hex width n).map Digits.upperDigit, isAllowed d = true := by
    induction width generalizing n with
    | zero => simp [Digits.hex]
    | succ width ih =>
      have hdigit : ∀ d < 16, isAllowed (Digits.upperDigit (Digits.digitChar d)) = true := by
        decide
      intro d hd
      rw [Digits.hex, List.map_append] at hd
      rcases List.mem_append.mp hd with hd | hd
      · exact ih (n / 16) d hd
      · rw [List.mem_singleton.mp hd]
        exact hdigit _ (Nat.mod_lt _ (by decide))
  unfold escape
  split
  -- what has a letter of its own
  iterate 15 exact List.all_eq_true.mp (by decide)
  have hmark (letter : Char) (hletter : isAllowed letter = true) (width : Nat) :
      ∀ d ∈ '\\' :: letter :: (Digits.hex width c.toNat).map Digits.upperDigit,
        isAllowed d = true := by
    intro d hd
    rcases List.mem_cons.mp hd with rfl | hd
    · decide
    rcases List.mem_cons.mp hd with rfl | hd
    · exact hletter
    · exact hhex width c.toNat d hd
  split
  · exact hmark 'x' (by decide) 2
  split
  · exact hmark 'u' (by decide) 4
  · exact hmark 'U' (by decide) 8

theorem allowed_doubleChar (c : Char) : ∀ d ∈ doubleChar c, isAllowed d = true := by
  by_cases hc : c = ' '
  · subst hc
    exact List.all_eq_true.mp (by decide)
  unfold doubleChar
  split
  · exact allowed_escape c
  · next hplain =>
    simp only [Bool.or_eq_true, Bool.not_eq_true', not_or, Bool.not_eq_false] at hplain
    simpa using isAllowed_of_isPrintable hplain.1.1.1

theorem le_length_doubled (text : List Char) : text.length ≤ (text.flatMap doubleChar).length := by
  induction text with
  | nil => simp
  | cons c text ih =>
    have : doubleChar c ≠ [] := by
      by_cases hc : c = ' '
      · subst hc
        decide
      · exact (standsFor_double hc).nonempty
    have := List.length_pos_iff.mpr this
    rw [List.flatMap_cons, List.length_append, List.length_cons]
    omega

end RenderSync.Yaml
