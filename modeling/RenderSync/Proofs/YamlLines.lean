import RenderSync.Proofs.YamlBlocks
import RenderSync.Proofs.YamlPlain
import RenderSync.Proofs.YamlQuoted

/-!
# Lines of a written mapping, as tokens

Between two tokens the scanner passes over blanks and breaks, forgets keys that grew stale and
closes blocks; `proceed` is what it does then.  A line of a mapping is a name, a colon and a
value.  The name is first a scalar that may be a key; its colon puts the key in front of it, and
in front of the key the block that it opens if it is deeper than the line before.  A value leaves
the cursor at the end of its line, or, if reading it had to look where the next line starts,
there; `AtLine` says that it is one of the two.
-/

namespace RenderSync.Yaml

/-- The start of a name, or the end of the text. -/
def Begins (rest : List Char) : Prop := ∀ c ∈ rest.head?, 'a' ≤ c ∧ c ≤ 'z'

theorem Begins.isWord {c : Char} (h : 'a' ≤ c ∧ c ≤ 'z') : isWord c = true := by
  simp [Yaml.isWord, h.1, h.2]

theorem Begins.stops {rest : List Char} (h : Begins rest) : Stops rest := fun c hc =>
  isWord_char (isWord (h c hc))

/-- A cursor at the end of a line, or already behind the indentation of the next one. -/
def AtLine (at_ : Cursor) (keyAllowed : Bool) (rest : List Char) (column : Nat) : Prop :=
  keyAllowed = true ∧ at_.Stands rest column ∨ at_.rest = '\n' :: (blanks column ++ rest)

/-- A name of a field: letters, digits, `_` and `-`, the first a small letter, and not longer than
a key may be. -/
structure FieldName (name : List Char) : Prop where
  word : ∀ c ∈ name, isWord c = true
  starts : ∃ c rest, name = c :: rest ∧ 'a' ≤ c ∧ c ≤ 'z'
  short : name.length ≤ 256

theorem fieldName_iff (name : List Char) :
    FieldName name ↔ name.all isWord = true ∧
      (name.head?.any fun c => 'a' ≤ c ∧ c ≤ 'z') = true ∧ name.length ≤ 256 := by
  constructor
  · intro h
    obtain ⟨c, rest, rfl, hc⟩ := h.starts
    exact ⟨List.all_eq_true.mpr h.word, decide_eq_true hc, h.short⟩
  · rintro ⟨hword, hhead, hshort⟩
    cases name with
    | nil => cases hhead
    | cons c rest =>
      exact ⟨List.all_eq_true.mp hword, ⟨c, rest, rfl, of_decide_eq_true hhead⟩, hshort⟩

instance (name : List Char) : Decidable (FieldName name) :=
  decidable_of_iff _ (fieldName_iff name).symm

theorem FieldName.plainWord {name : List Char} (h : FieldName name) : PlainWord name where
  nonempty := by
    obtain ⟨c, rest, rfl, -⟩ := h.starts
    simp
  solid := fun c hc => isWord_char (h.word c hc)
  no_comment := fun hhead => absurd (h.word '#' (List.mem_of_head? hhead)) (by decide)
  no_colon := fun hlast => absurd (h.word ':' (List.mem_of_getLast? hlast)) (by decide)

theorem FieldName.begins {name : List Char} (h : FieldName name) (rest : List Char) :
    Begins (name ++ rest) := by
  obtain ⟨c, name, rfl, hc⟩ := h.starts
  simpa [Begins] using hc

theorem isAllowed_of_isWord {c : Char} (h : isWord c = true) : isAllowed c = true := by
  have hrange (low high : Char) (hlow : 0x20 ≤ low.toNat) (hhigh : high.toNat ≤ 0x7E)
      (h : low ≤ c ∧ c ≤ high) : isAllowed c = true := by
    have h₁ : low.toNat ≤ c.toNat := h.1
    have h₂ : c.toNat ≤ high.toNat := h.2
    simp only [isAllowed, Bool.or_eq_true, Bool.and_eq_true, beq_iff_eq, decide_eq_true_eq]
    omega
  simp only [isWord, Digits.isDecimal, Bool.or_eq_true, Bool.and_eq_true,
    decide_eq_true_eq] at h
  rcases h with (((h | h) | h) | rfl) | rfl
  · exact hrange '0' '9' (by decide) (by decide) h
  · exact hrange 'A' 'Z' (by decide) (by decide) h
  · exact hrange 'a' 'z' (by decide) (by decide) h
  · decide
  · decide

/-- A word of letters and digits that is a value as it stands. -/
structure ValueWord (text : List Char) : Prop where
  word : ∀ c ∈ text, isWord c = true
  starts : ∃ c rest, text = c :: rest ∧ c ≠ '-'

/-- What a style says about the text it was chosen for. -/
theorem styleOf_cases (text : List Char) :
    styleOf text = .plain ∧ isAmbiguous text = false ∧ (Look.mk text).plain = true ∨
    styleOf text = .singleQuoted ∧ '\n' ∉ text ∧ (Look.mk text).singleQuoted = true ∨
    styleOf text = .doubleQuoted ∨
    styleOf text = .literal ∧ (Look.mk text).block = true := by
  unfold styleOf
  simp only [List.contains_eq_mem, decide_eq_true_eq, Bool.and_eq_true, Bool.not_eq_true']
  split
  · split
    · next hblock => exact .inr (.inr (.inr ⟨rfl, hblock⟩))
    · exact .inr (.inr (.inl rfl))
  · next hflat =>
    split
    · next hplain => exact .inl ⟨rfl, hplain⟩
    split
    · next hsingle => exact .inr (.inl ⟨rfl, hflat, hsingle⟩)
    · exact .inr (.inr (.inl rfl))

namespace Scanner

variable {at_ : Cursor} {tokens : List Token} {indent : Int} {outer : List Int}

/-! ## 1. Between tokens -/

/-- One token, from where it starts. -/
def proceed (fuel : Nat) (s : Scanner) : Option (List Token) := do
  let s ← s.dropStaleKeys
  let s := s.closeBlocks s.at_.column
  match s.at_.rest with
  | [] =>
    let s ← s.toTopLevel
    some s.tokens.reverse
  | c :: rest => run fuel (← s.token c rest)

theorem run_succ (fuel : Nat) (s : Scanner) :
    run (fuel + 1) s = proceed fuel (s.skipToToken (s.at_.rest.length + 1)) := rfl

/-- Blanks are passed over, up to a token. -/
theorem skipToToken_blanks (fuel n : Nat) {s : Scanner} {rest : List Char} {column : Nat}
    (hrest : Stops rest) (hmark : ∀ c ∈ rest.head?, c ≠ '#' ∧ (column = 0 → c ≠ '\uFEFF'))
    (h : s.at_.Stands (blanks n ++ rest) column) :
    s.skipToToken (fuel + 1) = s.moveTo (s.at_.skipMany n) := by
  have horder : (decide (s.at_.column = 0) && s.at_.sees '\uFEFF') = false := by
    rw [h.column_eq]
    cases n with
    | succ n =>
      rw [blanks_succ, List.cons_append] at h
      rw [h.sees]
      exact Bool.and_false _
    | zero =>
      cases rest with
      | nil => simp [Cursor.sees, h.rest_eq, blanks]
      | cons c rest =>
        rw [Cursor.Stands.sees h]
        simpa using (hmark c rfl).2
  have hskip (tabs : Bool) :
      s.at_.skipWhile (fun c => c = ' ' || (tabs && c = '\t')) = s.at_.skipMany n := by
    have hlength : (blanks n).length = n := List.length_replicate
    have hfirst : rest.takeWhile (fun c => c = ' ' || (tabs && c = '\t')) = [] := by
      cases rest with
      | nil => rfl
      | cons c rest =>
        have := (stops_cons.mp hrest).1
        simp only [isBlank, Bool.or_eq_false_iff, decide_eq_false_iff_not] at this
        simp [this]
    rw [Cursor.skipWhile, h.rest_eq, List.takeWhile_append_of_pos, hfirst, List.append_nil,
      hlength]
    intro c hc
    simp [List.eq_of_mem_replicate hc]
  have hnext := h.skipMany
  rw [blanks, List.length_replicate] at hnext
  have hcomment : (s.at_.skipMany n).sees '#' = false := by
    cases rest with
    | nil => simp [Cursor.sees, hnext.rest_eq]
    | cons c rest => rw [hnext.sees]; simpa using (hmark c rfl).1
  rw [skipToToken]
  simp only [horder, Bool.false_eq_true, if_false, hskip, hcomment, hnext.rest_eq]
  cases rest with
  | nil => rfl
  | cons c rest => simp [(stops_cons.mp hrest).2]

/-- The next line starts behind its indentation. -/
theorem skipToToken_line {allowed : Bool} {rest : List Char} {column : Nat} (hrest : Begins rest)
    (h : AtLine at_ allowed rest column) :
    ∃ next, next.Stands rest column ∧ ∀ tokens indent outer,
      skipToToken (at_.rest.length + 1) ⟨at_, tokens, indent, outer, allowed, [none]⟩ =
        ⟨next, tokens, indent, outer, true, [none]⟩ := by
  have hmark (column : Nat) : ∀ c ∈ rest.head?, c ≠ '#' ∧ (column = 0 → c ≠ '\uFEFF') :=
    fun c hc => ⟨fun heq => absurd (hrest c hc) (by subst heq; decide),
      fun _ heq => absurd (hrest c hc) (by subst heq; decide)⟩
  rcases h with ⟨rfl, hat⟩ | hat
  · refine ⟨at_, hat, fun tokens indent outer => ?_⟩
    rw [skipToToken_blanks _ 0 hrest.stops (hmark column) hat]
    simp [moveTo]
  · -- the break behind the line, and then as above
    have hstands : at_.Stands ('\n' :: (blanks column ++ rest)) at_.column := ⟨hat, rfl⟩
    obtain ⟨behind, hline, hbehind⟩ := hstands.line? (by decide) (by decide)
    have hnext := hbehind.skipMany
    rw [blanks, List.length_replicate, Nat.zero_add] at hnext
    refine ⟨behind.skipMany column, hnext, fun tokens indent outer => ?_⟩
    have hstill (tabs : Bool) :
        at_.skipWhile (fun c => c = ' ' || (tabs && c = '\t')) = at_ := by
      simp [Cursor.skipWhile, hat]
    have hbreak : isBreak '\n' = true := by decide
    have horder : at_.sees '\uFEFF' = false := by rw [hstands.sees]; rfl
    have hcomment : at_.sees '#' = false := by rw [hstands.sees]; rfl
    rw [skipToToken]
    simp only [horder, Bool.and_false, Bool.false_eq_true, if_false, hstill, hcomment, hat, hbreak,
      if_true, hline]
    exact skipToToken_blanks _ column hrest.stops (hmark 0) hbehind

/-- No block is closed by what is deep enough. -/
theorem closeBlocks_of_le {s : Scanner} {column : Int} (h : s.indent ≤ column) :
    s.closeBlocks column = s := by
  unfold closeBlocks
  cases s.outer <;> simp [unroll, h]

theorem dropStaleKeys_none (allowed : Bool) :
    dropStaleKeys ⟨at_, tokens, indent, outer, allowed, [none]⟩ =
      some ⟨at_, tokens, indent, outer, allowed, [none]⟩ := rfl

/-- A token that no block ends in front of. -/
theorem proceed_token {allowed : Bool} {c : Char} {rest : List Char} {column : Nat}
    (hdeep : indent ≤ column) (h : at_.Stands (c :: rest) column) (fuel : Nat) :
    proceed fuel ⟨at_, tokens, indent, outer, allowed, [none]⟩ =
      (token ⟨at_, tokens, indent, outer, allowed, [none]⟩ c rest).bind (run fuel) := by
  have hclosed : closeBlocks ⟨at_, tokens, indent, outer, allowed, [none]⟩ at_.column =
      ⟨at_, tokens, indent, outer, allowed, [none]⟩ :=
    closeBlocks_of_le (by simpa [h.column_eq] using hdeep)
  simp only [proceed, dropStaleKeys_none, Option.bind_eq_bind, Option.bind_some, hclosed,
    h.rest_eq]

/-- A block that is deeper than a token ends in front of it. -/
theorem proceed_blockEnd {allowed : Bool} {around : Int} {column : Nat}
    (hdeep : (column : Int) < indent) (h : at_.column = column) (fuel : Nat) :
    proceed fuel ⟨at_, tokens, indent, around :: outer, allowed, [none]⟩ =
      proceed fuel ⟨at_, .blockEnd :: tokens, around, outer, allowed, [none]⟩ := by
  have hclose : closeBlocks ⟨at_, tokens, indent, around :: outer, allowed, [none]⟩ at_.column =
      closeBlocks ⟨at_, .blockEnd :: tokens, around, outer, allowed, [none]⟩ at_.column := by
    simp only [closeBlocks, unroll, inFlow, h]
    rw [if_neg (by simpa using hdeep)]
    rfl
  simp only [proceed, dropStaleKeys_none, Option.bind_eq_bind, Option.bind_some, hclose]

/-! ## 2. Names -/

/-- The tokens behind which a line at a column stands: a block opens if it is deeper. -/
def opened (indent : Int) (column : Nat) (tokens : List Token) : List Token :=
  if indent < column then .blockMapping :: tokens else tokens

/-- The blocks around a line at a column. -/
def around (indent : Int) (column : Nat) (outer : List Int) : List Int :=
  if indent < column then indent :: outer else outer

/-- A plain scalar starts with a character that is no mark. -/
theorem startsPlain_of_startsAsMark {c : Char} {rest : List Char}
    (hsolid : isBlank c = false ∧ isBreak c = false) (hmark : startsAsMark c rest = false) :
    startsPlain false c rest = true := by
  simp only [startsAsMark, Bool.or_eq_false_iff, List.contains_eq_mem,
    decide_eq_false_iff_not] at hmark
  obtain ⟨⟨hmarks, htick⟩, hseparated⟩ := hmark
  by_cases hspecial : c = '-' ∨ c = '?' ∨ c = ':'
  · have hrest : isSeparated rest = false := by
      rcases hspecial with rfl | rfl | rfl <;> simpa using hseparated
    have hblank : rest.head?.any isBlank = false := by
      cases rest with
      | nil => rfl
      | cons d rest => exact (Bool.or_eq_false_iff.mp hrest).1
    rcases hspecial with rfl | rfl | rfl <;> simp [startsPlain, hrest, hblank]
  · have hall : c ∉ "-?:,[]\x7b\x7d#&*!|>'\"%@".toList := by
      intro hmem
      have hknown : ("-?:,[]\x7b\x7d#&*!|>'\"%@".toList.all fun d =>
        (d = '-' ∨ d = '?' ∨ d = ':') ∨ d ∈ "#,[]\x7b\x7d&*!|>'\"%@".toList) = true := by decide
      have := of_decide_eq_true (List.all_eq_true.mp hknown c hmem)
      exact this.elim hspecial hmarks
    simp only [startsPlain, hsolid, htick, List.contains_eq_mem, decide_eq_false hall]
    rfl

/-- The end of the line is as good as the end of the text. -/
theorem startsAsMark_line (c : Char) (form more : List Char) :
    startsAsMark c (form ++ '\n' :: more) = startsAsMark c form := by
  have : isSeparated (form ++ '\n' :: more) = isSeparated form := by cases form <;> rfl
  rw [startsAsMark, this, startsAsMark]

/-- A token that is no mark is a plain scalar. -/
theorem token_plain {s : Scanner} {c : Char} {rest : List Char} (hflow : s.inFlow = false)
    (hsolid : isBlank c = false ∧ isBreak c = false) (hmark : startsAsMark c rest = false)
    (hbetween : ∀ mark, mark = '-' ∨ mark = '.' → s.at_.seesMark mark = false) :
    s.token c rest = s.plainScalar := by
  have hplain := startsPlain_of_startsAsMark hsolid hmark
  simp only [startsAsMark, Bool.or_eq_false_iff, List.contains_eq_mem,
    decide_eq_false_iff_not] at hmark
  obtain ⟨⟨hmarks, -⟩, hseparated⟩ := hmark
  have hne (mark : Char) (h : mark ∈ "#,[]\x7b\x7d&*!|>'\"%@".toList) : c ≠ mark := fun heq =>
    hmarks (heq ▸ h)
  simp only [Bool.and_or_distrib_right, Bool.or_eq_false_iff] at hseparated
  simp only [token, hbetween '-' (.inl rfl), hbetween '.' (.inr rfl), hflow, hne '%' (by decide),
    hne '[' (by decide), hne '\x7b' (by decide), hne ']' (by decide), hne '\x7d' (by decide),
    hne ',' (by decide), hne '*' (by decide), hne '&' (by decide), hne '!' (by decide),
    hne '|' (by decide), hne '>' (by decide), hne '\'' (by decide), hne '"' (by decide),
    decide_false, Bool.and_false, Bool.false_and, Bool.false_eq_true, if_false, Bool.false_or,
    hseparated, hplain, if_true]

/-- A name is a scalar that may be a key. -/
theorem proceed_name (tokens : List Token) (outer : List Int) {name more : List Char}
    (hname : FieldName name) (hmore : isSeparated more = true) {column : Nat}
    (hdeep : indent ≤ column) (h : at_.Stands (name ++ ':' :: more) column) (fuel : Nat) :
    ∃ required, proceed fuel ⟨at_, tokens, indent, outer, true, [none]⟩ =
      run fuel ⟨at_.skipMany name.length, .scalar name .plain :: tokens, indent, outer, false,
        [some ⟨tokens.length, required, at_.index, at_.line, column⟩]⟩ := by
  obtain ⟨c, rest, rfl, hc⟩ := hname.starts
  have hword := Begins.isWord hc
  have hhyphen : c ≠ '-' := by
    rintro rfl
    exact absurd hc (by decide)
  have hbetween : ∀ mark, mark = '-' ∨ mark = '.' → at_.seesMark mark = false := by
    rintro mark (rfl | rfl)
    · exact h.seesMark_of_ne hhyphen
    · exact h.seesMark_of_ne fun heq => absurd (heq ▸ hc) (by decide)
  have hread := readPlain_name (indent + 1).toNat at_.rest.length hname.plainWord hmore
    (by simp [Cursor.seesDocumentMark, hbetween]) h
  have hsave : saveKey ⟨at_, tokens, indent, outer, true, [none]⟩ = some ⟨at_, tokens, indent,
      outer, true, [some ⟨tokens.length, indent == at_.column, at_.index, at_.line, column⟩]⟩ := by
    rw [← h.column_eq]
    rfl
  have hflow (key : PossibleKey) :
      inFlow ⟨at_, tokens, indent, outer, true, [some key]⟩ = false := rfl
  refine ⟨indent == at_.column, ?_⟩
  rw [proceed_token hdeep h, token_plain rfl (isWord_char hword)
    (startsAsMark_of_isWord hhyphen hword _) hbetween]
  simp only [plainScalar, hsave, hflow, hread, Option.bind_eq_bind, Option.bind_some]
  rfl

/-- A separated colon is the mark of a value. -/
theorem token_colon {s : Scanner} {more : List Char} {place : Nat} (hflow : s.inFlow = false)
    (hmore : isSeparated more = true) (h : s.at_.Stands (':' :: more) place) :
    s.token ':' more = s.value := by
  have hdash := h.seesMark_of_ne (show ':' ≠ '-' by decide)
  have hdot := h.seesMark_of_ne (show ':' ≠ '.' by decide)
  simp [token, hdash, hdot, hflow, hmore]

/-- The colon puts the key in front of its name, and a block in front of the key if it is the
first of one. -/
theorem value_key {name : List Char} {column : Nat} {key : PossibleKey}
    (hnumber : key.number = tokens.length) (hcolumn : key.column = column)
    (hdeep : indent ≤ column) :
    value ⟨at_, .scalar name .plain :: tokens, indent, outer, false, [some key]⟩ =
      some ⟨at_.skip, .value :: .scalar name .plain :: .key :: opened indent column tokens,
        column, around indent column outer, false, [none]⟩ := by
  simp only [value, insert, openBlock, inFlow, hnumber, hcolumn, opened, around, List.length_cons]
  by_cases hopens : indent < column
  · have hdeeper : ¬ (column : Int) ≤ indent := by omega
    have hlater : tokens.length + 1 + 1 - tokens.length = 2 := by omega
    simp [hopens, hdeeper, hlater, pushMark, push, moveTo, Cursor.skip]
  · obtain rfl : indent = column := by omega
    simp [pushMark, push, moveTo, Cursor.skip]

/-- Behind a name, its colon makes it a key. -/
theorem run_colon {name more : List Char} (hmore : isSeparated more = true) {column place : Nat}
    {key : PossibleKey} (hnumber : key.number = tokens.length) (hline : key.line = at_.line)
    (hindex : at_.index ≤ key.index + 1024) (hcolumn : key.column = column)
    (hdeep : indent ≤ column) (hplace : column ≤ place)
    (h : at_.Stands (':' :: more) place) (fuel : Nat) :
    run (fuel + 1) ⟨at_, .scalar name .plain :: tokens, indent, outer, false, [some key]⟩ =
      run fuel ⟨at_.skip, .value :: .scalar name .plain :: .key :: opened indent column tokens,
        column, around indent column outer, false, [none]⟩ := by
  generalize hs : (⟨at_, .scalar name .plain :: tokens, indent, outer, false, [some key]⟩ :
    Scanner) = s
  have hat : s.at_.Stands (blanks 0 ++ ':' :: more) place := by
    subst hs
    exact h
  have hskip := skipToToken_blanks s.at_.rest.length 0 (by simp [isBlank, isBreak]) (by simp) hat
  have hstale : s.dropStaleKeys = some s := by
    subst hs
    simp [dropStaleKeys, isFresh, hline, hindex]
  have hclosed : s.closeBlocks s.at_.column = s := by
    subst hs
    exact closeBlocks_of_le (by rw [h.column_eq]; simp; omega)
  have htoken : s.token ':' more = s.value := by
    subst hs
    exact token_colon rfl hmore h
  have hahead : s.at_.rest = ':' :: more := hat.rest_eq
  rw [run_succ, hskip]
  simp only [moveTo, Cursor.skipMany_zero, proceed, hstale, hclosed, Option.bind_eq_bind,
    Option.bind_some, hahead, htoken]
  subst hs
  rw [value_key hnumber hcolumn hdeep, Option.bind_some]

/-- **A name and its colon** are a key, and open a block if they are deeper than the line
before. -/
theorem proceed_key {name more : List Char} (hname : FieldName name)
    (hmore : isSeparated more = true) {column : Nat}
    (h : at_.Stands (name ++ ':' :: more) column) :
    ∃ next, next.Stands more (column + name.length + 1) ∧
      ∀ fuel tokens (indent : Int) outer, indent ≤ column →
        proceed (fuel + 1) ⟨at_, tokens, indent, outer, true, [none]⟩ =
          run fuel ⟨next, .value :: .scalar name .plain :: .key :: opened indent column tokens,
            column, around indent column outer, false, [none]⟩ := by
  refine ⟨(at_.skipMany name.length).skip, h.skipMany.skip,
    fun fuel tokens indent outer hdeep => ?_⟩
  obtain ⟨required, hread⟩ := proceed_name tokens outer hname hmore hdeep h (fuel + 1)
  have hindex := at_.index_skipMany_le name.length
  have hshort := hname.short
  rw [hread, run_colon hmore rfl rfl (by simp; omega) rfl hdeep (Nat.le_add_right _ _) h.skipMany]

/-! ## 3. Values -/

/-- A value, from behind its colon to the end of its line, is read as one scalar of a field. -/
structure Reads (value text : List Char) (style : Style) : Prop where
  starts : ∃ form, value = ' ' :: form
  allowed : ∀ c ∈ value, isAllowed c = true
  read : ∀ {at_ : Cursor} {column behind : Nat} {rest : List Char},
    at_.Stands (value ++ (blanks behind ++ rest)) column → 2 ≤ column → behind ≤ 2 →
    Begins rest → ∃ next keyAllowed, AtLine next keyAllowed rest behind ∧
      ∀ fuel tokens outer, run (fuel + 1) ⟨at_, tokens, 2, outer, false, [none]⟩ =
        run fuel ⟨next, .scalar text style :: tokens, 2, outer, keyAllowed, [none]⟩

/-- Behind the blank, a value is one token. -/
theorem run_value {c : Char} {form : List Char} {column : Nat}
    (hc : isBlank c = false ∧ isBreak c = false) (hcomment : c ≠ '#') (hcolumn : 0 < column)
    (hdeep : indent ≤ column) (h : at_.Stands (' ' :: c :: form) column) (fuel : Nat) :
    run (fuel + 1) ⟨at_, tokens, indent, outer, false, [none]⟩ =
      (token ⟨at_.skip, tokens, indent, outer, false, [none]⟩ c form).bind (run fuel) := by
  generalize hs : (⟨at_, tokens, indent, outer, false, [none]⟩ : Scanner) = s
  have hat : s.at_.Stands (blanks 1 ++ c :: form) column := by
    subst hs
    exact h
  have hmark : ∀ d ∈ (c :: form).head?, d ≠ '#' ∧ (column = 0 → d ≠ '\uFEFF') := by
    rintro d hd
    obtain rfl : c = d := by simpa using hd
    exact ⟨hcomment, by omega⟩
  rw [run_succ, skipToToken_blanks s.at_.rest.length 1 (stops_cons.mpr hc) hmark hat]
  subst hs
  have hdeeper : indent ≤ (column + 1 : Nat) := by omega
  exact proceed_token hdeeper h.skip fuel

/-- **A plain value.** -/
theorem reads_plain {text : List Char} (h : PlainText text)
    (hallowed : ∀ c ∈ text, isAllowed c = true) :
    Reads (' ' :: text ++ ['\n']) text .plain where
  starts := ⟨_, rfl⟩
  allowed := by
    intro c hc
    rcases List.mem_append.mp hc with hc | hc
    · rcases List.mem_cons.mp hc with rfl | hc
      · decide
      · exact hallowed c hc
    · rw [List.mem_singleton.mp hc]
      decide
  read := by
    intro at_ column behind rest hat hcolumn hbehind hrest
    have hmore := h
    obtain ⟨c, form, rfl, hblank, hmark⟩ := h.starts
    obtain ⟨hbreak, hspace⟩ := h.flat c (by simp)
    have hsolid : isBlank c = false ∧ isBreak c = false :=
      ⟨Bool.eq_false_iff.mpr fun heq => hblank (hspace heq), hbreak⟩
    have hcomment : c ≠ '#' := by
      rintro rfl
      exact absurd hmark (by simp [startsAsMark])
    have hvalue : at_.Stands (' ' :: c :: (form ++ '\n' :: (blanks behind ++ rest))) column := by
      simpa using hat
    have hskip := hvalue.skip
    obtain ⟨next, hread, hnext⟩ := readPlain_text (show behind < 3 by omega) hmore hrest.stops
      (show 3 ≤ column + 1 by omega) (by simpa using hskip)
    have hbetween : ∀ mark, mark = '-' ∨ mark = '.' → at_.skip.seesMark mark = false :=
      fun mark _ => hskip.seesMark (by omega) mark
    refine ⟨next, true, .inl ⟨rfl, hnext⟩, fun fuel tokens outer => ?_⟩
    rw [run_value hsolid hcomment (by omega) (by omega) hvalue,
      token_plain rfl hsolid ((startsAsMark_line c form _).trans hmark) hbetween]
    have hsave : saveKey ⟨at_.skip, tokens, 2, outer, false, [none]⟩ =
      some ⟨at_.skip, tokens, 2, outer, false, [none]⟩ := rfl
    have hflow : inFlow ⟨at_.skip, tokens, 2, outer, false, [none]⟩ = false := rfl
    have hindent : ((2 : Int) + 1).toNat = 3 := rfl
    simp only [plainScalar, hsave, hflow, hindent, hread, Option.bind_eq_bind, Option.bind_some]
    rfl

/-- The mark of a quoted scalar is its token. -/
theorem token_quote {single : Bool} {s : Scanner} {form : List Char} {column : Nat}
    (hcolumn : 0 < column) (h : s.at_.Stands (quoteOf single :: form) column) :
    s.token (quoteOf single) form = s.quotedScalar single := by
  have hmark := h.seesMark hcolumn
  cases single <;> simp [token, quoteOf, hmark]

/-- **A value between quotes**, if what is between them reads as the text. -/
theorem reads_quoted (single : Bool) {text body : List Char}
    (hallowed : ∀ c ∈ body, isAllowed c = true) (hlength : text.length ≤ body.length)
    (hbody : ∀ {at_ : Cursor} {column fuel : Nat} {rest : List Char}, 0 < column →
      text.length < fuel → rest.head? ≠ some (quoteOf single) →
      at_.Stands (body ++ quoteOf single :: rest) column →
      ∃ next, readQuoted single fuel [] at_ = some (text, next) ∧ next.rest = rest) :
    Reads (' ' :: quoteOf single :: body ++ [quoteOf single, '\n']) text
      (if single then .singleQuoted else .doubleQuoted) where
  starts := ⟨_, rfl⟩
  allowed := by
    have hquote : isAllowed (quoteOf single) = true := by cases single <;> decide
    intro c hc
    simp only [List.cons_append, List.mem_cons, List.mem_append, List.not_mem_nil, or_false] at hc
    rcases hc with rfl | rfl | hc | rfl | rfl
    · decide
    · exact hquote
    · exact hallowed c hc
    · exact hquote
    · decide
  read := by
    intro at_ column behind rest hat hcolumn hbehind hrest
    have hvalue : at_.Stands (' ' :: quoteOf single ::
        (body ++ quoteOf single :: '\n' :: (blanks behind ++ rest))) column := by
      simpa using hat
    have hskip := hvalue.skip
    have hfuel : text.length < at_.skip.rest.length + 1 := by
      rw [hskip.rest_eq]
      simp
      omega
    have hline : ('\n' :: (blanks behind ++ rest)).head? ≠ some (quoteOf single) := by
      cases single <;> simp [quoteOf]
    obtain ⟨next, hread, hnext⟩ := hbody (by omega) hfuel hline hskip.skip
    have hquote : isBlank (quoteOf single) = false ∧ isBreak (quoteOf single) = false := by
      cases single <;> decide
    have hcomment : quoteOf single ≠ '#' := by cases single <;> decide
    refine ⟨next, false, .inr hnext, fun fuel tokens outer => ?_⟩
    have hsave : saveKey ⟨at_.skip, tokens, 2, outer, false, [none]⟩ =
      some ⟨at_.skip, tokens, 2, outer, false, [none]⟩ := rfl
    rw [run_value hquote hcomment (by omega) (by omega) hvalue, token_quote (by omega) hskip]
    simp only [quotedScalar, pushSimple, hsave, hread, Option.bind_eq_bind, Option.bind_some]
    rfl

/-- **A value in a literal block.** -/
theorem reads_literal {text : List Char} (hprint : ∀ c ∈ text, isPrintable c = true)
    (hne : text ≠ []) :
    Reads (' ' :: '|' :: literalHeader text ++ '\n' :: literalBody 4 true text ++ closing text)
      text .literal where
  starts := ⟨_, rfl⟩
  allowed := by
    have hallowed := allowed_literalBody 4 true fun c hc => isAllowed_of_isPrintable (hprint c hc)
    intro c hc
    simp only [List.cons_append, List.append_assoc, List.mem_cons, List.mem_append] at hc
    rcases hc with rfl | rfl | hc | rfl | hc | hc
    · decide
    · decide
    · exact allowed_literalHeader text c hc
    · decide
    · exact hallowed c hc
    · exact allowed_closing text c hc
  read := by
    intro at_ column behind rest hat hcolumn hbehind hrest
    have hvalue : at_.Stands (' ' :: '|' :: (literalHeader text ++ '\n' ::
        (literalBody 4 true text ++ (closing text ++ (blanks behind ++ rest))))) column := by
      simpa using hat
    have hskip := hvalue.skip
    obtain ⟨next, hread, hnext⟩ :=
      readBlock_literal (show behind < 2 + 2 by omega) hrest.stops hprint hne hskip.skip
    have hmark := hskip.seesMark (by omega)
    refine ⟨next, true, .inl ⟨rfl, hnext⟩, fun fuel tokens outer => ?_⟩
    have hdrop : dropKey ⟨at_.skip, tokens, 2, outer, false, [none]⟩ =
      some ⟨at_.skip, tokens, 2, outer, false, [none]⟩ := rfl
    have htoken : token ⟨at_.skip, tokens, 2, outer, false, [none]⟩ '|'
        (literalHeader text ++ '\n' :: (literalBody 4 true text ++
          (closing text ++ (blanks behind ++ rest)))) =
        blockScalar ⟨at_.skip, tokens, 2, outer, false, [none]⟩ true := by
      simp [token, hmark, inFlow]
    rw [run_value (by decide) (by decide) (by omega) (by omega) hvalue, htoken]
    have hread' : readBlock true 2 at_.skip.skip = some (text, next) := hread
    simp only [blockScalar, hdrop, hread', Option.bind_eq_bind, Option.bind_some]
    rfl

/-- A word of letters and digits as a value. -/
theorem reads_word {word : List Char} (h : ValueWord word) :
    Reads (' ' :: word ++ ['\n']) word .plain := by
  obtain ⟨c, rest, rfl, hc⟩ := h.starts
  exact reads_plain (plainText_of_isWord hc h.word) fun d hd => isAllowed_of_isWord (h.word d hd)

/-- **Every text is read back from what is written for it**, in the style that was chosen. -/
theorem reads_text (text : List Char) : Reads (writeText 4 text) text (styleOf text) := by
  unfold writeText
  rcases styleOf_cases text with ⟨hstyle, -, hplain⟩ | ⟨hstyle, hflat, hsingle⟩ | hstyle |
    ⟨hstyle, hblock⟩ <;> rw [hstyle]
  · have hprint : ∀ c ∈ text, isPrintable c = true := by
      simp only [Look.plain, Bool.and_eq_true, Bool.not_eq_true'] at hplain
      simpa [Look.special] using hplain.1.1.2
    exact reads_plain (plainText_of_plain hplain) fun c hc => isAllowed_of_isPrintable (hprint c hc)
  · have hspaced := unspaced_of_singleQuoted hsingle hflat
    exact reads_quoted true
      (allowed_singleBody 4 false fun c hc => isAllowed_of_isPrintable (hspaced.printable c hc))
      (le_length_singleBody 4 false text) fun hcolumn hfuel hrest hat =>
        readQuoted_single (by decide) hrest hspaced hfuel [] hcolumn hat
  · exact reads_quoted false
      (fun c hc => by
        obtain ⟨d, -, hd⟩ := List.mem_flatMap.mp hc
        exact allowed_doubleChar d c hd)
      (le_length_doubled text) fun hcolumn hfuel hrest hat =>
        readQuoted_double hrest hfuel [] hcolumn hat
  · simp only [Look.block, Bool.and_eq_true, Bool.not_eq_true'] at hblock
    obtain ⟨⟨⟨hne, -⟩, -⟩, hspecial⟩ := hblock
    exact reads_literal (by simpa [Look.special] using hspecial) (by simpa using hne)

end Scanner

end RenderSync.Yaml
