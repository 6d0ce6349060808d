import RenderSync.Proofs.YamlLines

/-!
# Outlines

An outline is a mapping of sections, each of them a mapping of fields or empty.  It is written
line by line, split into tokens line by line, and its tokens are read as the nodes it says.

The scanner closes a section only when it meets what comes next, so that behind a section there
are two states that mean the same in the first column: `Ends` says that closing leads to the
tokens of all sections so far.
-/

namespace RenderSync.Yaml

/-! ## 1. Outlines as texts, tokens and nodes -/

/-- A field: its name, its value as it is written, and the scalar that the value is read as. -/
structure Field where
  name : String
  value : List Char
  text : List Char
  style : Style
  named : FieldName name.toList
  reads : Scanner.Reads value text style

namespace Field

/-- The line of a field, two blanks deep. -/
def line (field : Field) : List Char := ' ' :: ' ' :: field.name.toList ++ ':' :: field.value

/-- The tokens of a field. -/
def tokens (field : Field) : List Token :=
  [.key, .scalar field.name.toList .plain, .value, .scalar field.text field.style]

/-- The nodes of a field. -/
def node (field : Field) : Node × Node :=
  (.scalar none field.name.toList .plain, .scalar none field.text field.style)

end Field

/-- A section: its name and its fields. -/
structure Section where
  name : String
  fields : List Field
  named : FieldName name.toList

namespace Section

/-- What stands behind the name and its colon. -/
def body : List Field → List Char
  | [] => [' ', '\x7b', '\x7d', '\n']
  | fields => '\n' :: fields.flatMap Field.line

/-- The lines of a section. -/
def lines (s : Section) : List Char := s.name.toList ++ ':' :: body s.fields

/-- The tokens behind the name. -/
def bodyTokens : List Field → List Token
  | [] => [.flowMapping, .flowMappingEnd]
  | fields => .blockMapping :: fields.flatMap Field.tokens ++ [.blockEnd]

/-- The tokens of a section. -/
def tokens (s : Section) : List Token :=
  .key :: .scalar s.name.toList .plain :: .value :: bodyTokens s.fields

/-- The nodes of a section. -/
def node (s : Section) : Node × Node :=
  (.scalar none s.name.toList .plain, .mapping none (s.fields.map Field.node))

/-- How many steps the scanner takes behind the name. -/
def bodySteps : List Field → Nat
  | [] => 2
  | fields => 3 * fields.length

theorem body_cons (field : Field) (fields : List Field) :
    body (field :: fields) = '\n' :: (field :: fields).flatMap Field.line := rfl

theorem bodyTokens_cons (field : Field) (fields : List Field) :
    bodyTokens (field :: fields) =
      .blockMapping :: (field :: fields).flatMap Field.tokens ++ [.blockEnd] := rfl

theorem bodySteps_cons (field : Field) (fields : List Field) :
    bodySteps (field :: fields) = 3 * (field :: fields).length := rfl

/-- How many steps the scanner takes for a section. -/
def steps (s : Section) : Nat := 2 + bodySteps s.fields

/-- How many it takes for all sections. -/
def allSteps : List Section → Nat
  | [] => 0
  | s :: sections => s.steps + allSteps sections

end Section

namespace Scanner

variable {at_ : Cursor} {tokens : List Token} {indent : Int} {outer : List Int}

/-! ## 2. Fields -/

/-- **A field** is four tokens, and opens the block of its section if it is the first one. -/
theorem run_field (field : Field) {allowed : Bool} {behind : Nat} {rest : List Char}
    (hbehind : behind ≤ 2) (hrest : Begins rest)
    (h : AtLine at_ allowed
      (field.name.toList ++ ':' :: (field.value ++ (blanks behind ++ rest))) 2) :
    ∃ next keyAllowed, AtLine next keyAllowed rest behind ∧
      ∀ fuel tokens (indent : Int) outer, indent ≤ 2 →
        run (fuel + 3) ⟨at_, tokens, indent, outer, allowed, [none]⟩ =
          run fuel ⟨next, field.tokens.reverse ++ opened indent 2 tokens, 2,
            around indent 2 outer, keyAllowed, [none]⟩ := by
  obtain ⟨start, hstart, hskip⟩ := skipToToken_line (field.named.begins _) h
  have hvalue : isSeparated (field.value ++ (blanks behind ++ rest)) = true := by
    obtain ⟨form, hform⟩ := field.reads.starts
    rw [hform]
    rfl
  obtain ⟨colon, hcolon, hkey⟩ := proceed_key field.named hvalue hstart
  obtain ⟨next, keyAllowed, hnext, hread⟩ := field.reads.read hcolon (by omega) hbehind hrest
  refine ⟨next, keyAllowed, hnext, fun fuel tokens indent outer hindent => ?_⟩
  rw [run_succ, hskip, hkey _ _ _ _ hindent]
  exact hread _ _ _

/-- How deep the line is that follows, with these fields still to come. -/
def depth : List Field → Nat
  | [] => 0
  | _ => 2

/-- What follows its indentation. -/
def ahead (tail : List Char) : List Field → List Char
  | [] => tail
  | field :: fields =>
    field.name.toList ++ ':' :: (field.value ++ (fields.flatMap Field.line ++ tail))

theorem lines_ahead (fields : List Field) (tail : List Char) :
    fields.flatMap Field.line ++ tail = blanks (depth fields) ++ ahead tail fields := by
  cases fields with
  | nil => rfl
  | cons field fields => simp [ahead, depth, blanks, Field.line, List.replicate]

theorem begins_ahead {tail : List Char} (h : Begins tail) (fields : List Field) :
    Begins (ahead tail fields) := by
  cases fields with
  | nil => exact h
  | cons field fields => exact field.named.begins _

theorem depth_le (fields : List Field) : depth fields ≤ 2 := by
  cases fields
  · exact Nat.zero_le 2
  · exact Nat.le_refl 2

/-- **The fields behind the first one**, line by line. -/
theorem run_fields {tail : List Char} (htail : Begins tail) (fields : List Field) {allowed : Bool}
    (h : AtLine at_ allowed (ahead tail fields) (depth fields)) :
    ∃ next keyAllowed, AtLine next keyAllowed tail 0 ∧ ∀ fuel tokens outer,
      run (fuel + 3 * fields.length) ⟨at_, tokens, 2, outer, allowed, [none]⟩ =
        run fuel ⟨next, (fields.flatMap Field.tokens).reverse ++ tokens, 2, outer, keyAllowed,
          [none]⟩ := by
  induction fields generalizing at_ allowed with
  | nil => exact ⟨at_, allowed, h, fun fuel tokens outer => rfl⟩
  | cons field fields ih =>
    have hline : AtLine at_ allowed (field.name.toList ++ ':' :: (field.value ++
        (blanks (depth fields) ++ ahead tail fields))) 2 := by
      rw [← lines_ahead]
      exact h
    obtain ⟨middle, allowed', hmiddle, hfield⟩ :=
      run_field field (depth_le fields) (begins_ahead htail fields) hline
    obtain ⟨next, keyAllowed, hnext, hfields⟩ := ih hmiddle
    refine ⟨next, keyAllowed, hnext, fun fuel tokens outer => ?_⟩
    have hopened : opened 2 2 tokens = tokens := rfl
    have haround : around 2 2 outer = outer := rfl
    rw [List.length_cons, Nat.mul_add, ← Nat.add_assoc, hfield _ _ _ _ (Int.le_refl 2), hopened,
      haround, hfields]
    simp

/-! ## 3. Sections -/

/-- A state in the first column, and the tokens that closing leads to. -/
inductive Ends (closed : List Token) : Int → List Int → List Token → Prop
  | outside : Ends closed 0 [-1] closed
  | inside {tokens : List Token} (h : .blockEnd :: tokens = closed) : Ends closed 2 [0, -1] tokens

theorem Ends.proceed {closed : List Token} (h : Ends closed indent outer tokens)
    (hcolumn : at_.column = 0) (allowed : Bool) (fuel : Nat) :
    proceed fuel ⟨at_, tokens, indent, outer, allowed, [none]⟩ =
      Scanner.proceed fuel ⟨at_, closed, 0, [-1], allowed, [none]⟩ := by
  cases h with
  | outside => rfl
  | inside h => rw [proceed_blockEnd (by decide) hcolumn, h]

/-- An opening brace. -/
theorem token_brace {form : List Char} {column : Nat} (hcolumn : 0 < column)
    (h : at_.Stands ('\x7b' :: form) column) :
    token ⟨at_, tokens, indent, outer, false, [none]⟩ '\x7b' form =
      some ⟨at_.skip, .flowMapping :: tokens, indent, outer, true, [none, none]⟩ := by
  have hmark := h.seesMark hcolumn
  have hopen : token ⟨at_, tokens, indent, outer, false, [none]⟩ '\x7b' form =
      openFlow ⟨at_, tokens, indent, outer, false, [none]⟩ .flowMapping := by
    simp [token, hmark]
  rw [hopen]
  rfl

/-- The closing brace right behind it. -/
theorem run_closing {form : List Char} {column : Nat} (hcolumn : 0 < column)
    (h : at_.Stands ('\x7d' :: form) column) (fuel : Nat) :
    run (fuel + 1) ⟨at_, tokens, indent, outer, true, [none, none]⟩ =
      run fuel ⟨at_.skip, .flowMappingEnd :: tokens, indent, outer, false, [none]⟩ := by
  generalize hs : (⟨at_, tokens, indent, outer, true, [none, none]⟩ : Scanner) = s
  have hat : s.at_.Stands (blanks 0 ++ '\x7d' :: form) column := by
    subst hs
    exact h
  have hskip := skipToToken_blanks s.at_.rest.length 0 (by simp [isBlank, isBreak]) (by simp) hat
  have hstale : s.dropStaleKeys = some s := by
    subst hs
    rfl
  have hclosed : s.closeBlocks s.at_.column = s := by
    subst hs
    unfold closeBlocks
    cases outer <;> simp [unroll, inFlow]
  have hmark := hat.seesMark hcolumn
  have htoken : s.token '\x7d' form = s.closeFlow .flowMappingEnd := by simp [token, hmark]
  have hahead : s.at_.rest = '\x7d' :: form := hat.rest_eq
  rw [run_succ, hskip]
  simp only [moveTo, Cursor.skipMany_zero, proceed, hstale, hclosed, Option.bind_eq_bind,
    Option.bind_some, hahead, htoken]
  subst hs
  rfl

/-- Braces without anything between them. -/
theorem run_braces {column : Nat} {tail : List Char} (hcolumn : 0 < column)
    (h : at_.Stands (' ' :: '\x7b' :: '\x7d' :: '\n' :: tail) column) :
    ∃ next, next.rest = '\n' :: tail ∧ ∀ fuel tokens (indent : Int) outer, indent ≤ column →
      run (fuel + 2) ⟨at_, tokens, indent, outer, false, [none]⟩ =
        run fuel ⟨next, .flowMappingEnd :: .flowMapping :: tokens, indent, outer, false,
          [none]⟩ := by
  refine ⟨at_.skip.skip.skip, h.skip.skip.skip.rest_eq, fun fuel tokens indent outer hdeep => ?_⟩
  rw [run_value (by decide) (by decide) hcolumn hdeep h, token_brace (by omega) h.skip,
    Option.bind_some, run_closing (by omega) h.skip.skip]

/-- What stands behind the name of a section. -/
theorem run_body (fields : List Field) {column : Nat} {tail : List Char} (htail : Begins tail)
    (hcolumn : 0 < column) (h : at_.Stands (Section.body fields ++ tail) column) :
    ∃ next keyAllowed, AtLine next keyAllowed tail 0 ∧
      ∀ tokens, ∃ indent outer behind,
        Ends ((Section.bodyTokens fields).reverse ++ tokens) indent outer behind ∧
        ∀ fuel, run (fuel + Section.bodySteps fields) ⟨at_, tokens, 0, [-1], false, [none]⟩ =
          run fuel ⟨next, behind, indent, outer, keyAllowed, [none]⟩ := by
  cases fields with
  | nil =>
    obtain ⟨next, hnext, hread⟩ := run_braces hcolumn h
    exact ⟨next, false, .inr hnext, fun tokens => ⟨0, [-1], _, .outside, fun fuel =>
      hread fuel tokens 0 [-1] (by omega)⟩⟩
  | cons field fields =>
    have hline : AtLine at_ false (field.name.toList ++ ':' :: (field.value ++
        (blanks (depth fields) ++ ahead tail fields))) 2 := by
      right
      rw [h.rest_eq, ← lines_ahead]
      simp [Section.body, Field.line, blanks, List.replicate]
    obtain ⟨middle, allowed, hmiddle, hfield⟩ :=
      run_field field (depth_le fields) (begins_ahead htail fields) hline
    obtain ⟨next, keyAllowed, hnext, hfields⟩ := run_fields htail fields hmiddle
    refine ⟨next, keyAllowed, hnext, fun tokens => ⟨2, [0, -1],
      (fields.flatMap Field.tokens).reverse ++ (field.tokens.reverse ++ .blockMapping :: tokens),
      .inside (by simp [Section.bodyTokens]), fun fuel => ?_⟩⟩
    rw [Section.bodySteps_cons, List.length_cons, Nat.mul_add, ← Nat.add_assoc,
      hfield _ tokens 0 [-1] (by decide)]
    exact hfields fuel _ _

/-- **A section**, from its name on. -/
theorem proceed_section (s : Section) {tail : List Char} (htail : Begins tail)
    (h : at_.Stands (s.lines ++ tail) 0) :
    ∃ next keyAllowed, AtLine next keyAllowed tail 0 ∧
      ∀ tokens (indent : Int) outer, indent ≤ 0 → around indent 0 outer = [-1] →
        ∃ indent' outer' behind,
          Ends (s.tokens.reverse ++ opened indent 0 tokens) indent' outer' behind ∧
          ∀ fuel, proceed (fuel + Section.bodySteps s.fields + 1)
              ⟨at_, tokens, indent, outer, true, [none]⟩ =
            run fuel ⟨next, behind, indent', outer', keyAllowed, [none]⟩ := by
  have hseparated : isSeparated (Section.body s.fields ++ tail) = true := by
    cases s.fields <;> rfl
  obtain ⟨colon, hcolon, hkey⟩ := proceed_key s.named hseparated
    (by simpa [Section.lines] using h)
  obtain ⟨next, keyAllowed, hnext, hbody⟩ := run_body s.fields htail (by omega) hcolon
  refine ⟨next, keyAllowed, hnext, fun tokens indent outer hindent haround => ?_⟩
  obtain ⟨indent', outer', behind, hends, hread⟩ :=
    hbody (.value :: .scalar s.name.toList .plain :: .key :: opened indent 0 tokens)
  refine ⟨indent', outer', behind, by simpa [Section.tokens] using hends, fun fuel => ?_⟩
  rw [hkey _ _ _ _ hindent, haround]
  exact hread fuel

/-- The end of the text closes the outermost block. -/
theorem proceed_end (h : at_.Stands [] 0) (fuel : Nat) :
    proceed fuel ⟨at_, tokens, 0, [-1], true, [none]⟩ = some (.blockEnd :: tokens).reverse := by
  have hclosed : closeBlocks ⟨at_, tokens, 0, [-1], true, [none]⟩ at_.column =
      ⟨at_, tokens, 0, [-1], true, [none]⟩ := closeBlocks_of_le (by simp)
  simp only [proceed, dropStaleKeys_none, Option.bind_eq_bind, Option.bind_some, hclosed, h.rest_eq]
  rfl

theorem begins_sections (sections : List Section) :
    Begins (sections.flatMap Section.lines) := by
  cases sections with
  | nil => simp [Begins]
  | cons s sections =>
    rw [List.flatMap_cons, Section.lines, List.append_assoc]
    exact s.named.begins _

/-- **The sections behind the first one**, and the end of the text. -/
theorem run_sections (sections : List Section) {allowed : Bool} {closed : List Token}
    (hends : Ends closed indent outer tokens)
    (h : AtLine at_ allowed (sections.flatMap Section.lines) 0) (fuel : Nat) :
    run (fuel + Section.allSteps sections + 1)
        ⟨at_, tokens, indent, outer, allowed, [none]⟩ =
      some (closed.reverse ++ sections.flatMap Section.tokens ++ [.blockEnd]) := by
  induction sections generalizing at_ allowed closed indent outer tokens with
  | nil =>
    obtain ⟨next, hnext, hskip⟩ := skipToToken_line (begins_sections []) h
    rw [run_succ, hskip, hends.proceed hnext.column_eq, proceed_end hnext]
    simp
  | cons s sections ih =>
    obtain ⟨start, hstart, hskip⟩ := skipToToken_line (begins_sections (s :: sections)) h
    obtain ⟨next, keyAllowed, hnext, hsection⟩ :=
      proceed_section s (begins_sections sections) hstart
    obtain ⟨indent', outer', behind, hbehind, hread⟩ := hsection closed 0 [-1] (by decide) rfl
    have hfuel : fuel + Section.allSteps (s :: sections) =
        fuel + Section.allSteps sections + 1 + Section.bodySteps s.fields + 1 := by
      rw [Section.allSteps, Section.steps]
      omega
    rw [run_succ, hskip, hends.proceed hstart.column_eq, hfuel, hread, ih hbehind hnext]
    simp [opened]

/-- The tokens of an outline. -/
def outlineTokens (sections : List Section) : List Token :=
  .blockMapping :: sections.flatMap Section.tokens ++ [.blockEnd]

/-- **An outline is split into its tokens.** -/
theorem run_outline {sections : List Section} (hne : sections ≠ []) {fuel : Nat}
    (hfuel : Section.allSteps sections < fuel) :
    run fuel (start (sections.flatMap Section.lines)) = some (outlineTokens sections) := by
  obtain ⟨s, sections, rfl⟩ := List.exists_cons_of_ne_nil hne
  obtain ⟨start, hstart, hskip⟩ := skipToToken_line (begins_sections (s :: sections))
    (.inl ⟨rfl, rfl, rfl⟩ : AtLine (.start ((s :: sections).flatMap Section.lines)) true _ 0)
  obtain ⟨next, keyAllowed, hnext, hsection⟩ :=
    proceed_section s (begins_sections sections) hstart
  obtain ⟨indent, outer, behind, hbehind, hread⟩ := hsection [] (-1) [] (by decide) rfl
  obtain ⟨more, rfl⟩ : ∃ more,
      fuel = more + Section.allSteps sections + 1 + Section.bodySteps s.fields + 1 + 1 := by
    refine ⟨fuel - Section.allSteps (s :: sections) - 1, ?_⟩
    rw [Section.allSteps, Section.steps] at hfuel ⊢
    omega
  rw [Scanner.start, run_succ, hskip, hread, run_sections sections hbehind hnext]
  simp [opened, outlineTokens]

end Scanner

/-! ## 4. All of the text -/

theorem Field.le_length_line (field : Field) : 3 ≤ field.line.length := by
  simp [Field.line]
  omega

theorem Field.allowed_line (field : Field) : ∀ c ∈ field.line, isAllowed c = true := by
  intro c hc
  simp only [Field.line, List.cons_append, List.mem_cons, List.mem_append] at hc
  rcases hc with rfl | rfl | hc | rfl | hc
  · decide
  · decide
  · exact isAllowed_of_isWord (field.named.word c hc)
  · decide
  · exact field.reads.allowed c hc

theorem Section.steps_le (s : Section) : s.steps ≤ s.lines.length := by
  have hname : 0 < s.name.toList.length := by
    obtain ⟨c, rest, hname, -⟩ := s.named.starts
    simp [hname]
  have hlines (fields : List Field) :
      3 * fields.length ≤ (fields.flatMap Field.line).length := by
    induction fields with
    | nil => simp
    | cons field fields ih =>
      have := field.le_length_line
      rw [List.flatMap_cons, List.length_append, List.length_cons]
      omega
  have hbody : Section.bodySteps s.fields ≤ (Section.body s.fields).length := by
    cases s.fields with
    | nil => decide
    | cons field fields =>
      have := hlines (field :: fields)
      rw [Section.bodySteps_cons, Section.body_cons]
      exact Nat.le_succ_of_le this
  simp only [Section.steps, Section.lines, List.length_append, List.length_cons]
  omega

theorem Section.allSteps_le (sections : List Section) :
    allSteps sections ≤ (sections.flatMap Section.lines).length := by
  induction sections with
  | nil => exact Nat.le_refl 0
  | cons s sections ih =>
    have := s.steps_le
    rw [allSteps, List.flatMap_cons, List.length_append]
    omega

theorem Section.allowed_lines (s : Section) : ∀ c ∈ s.lines, isAllowed c = true := by
  intro c hc
  simp only [Section.lines, List.mem_append, List.mem_cons] at hc
  rcases hc with hc | rfl | hc
  · exact isAllowed_of_isWord (s.named.word c hc)
  · decide
  · cases hfields : s.fields with
    | nil =>
      rw [hfields] at hc
      exact List.all_eq_true.mp (show (Section.body []).all isAllowed = true by decide) c hc
    | cons field fields =>
      rw [hfields, Section.body_cons, List.mem_cons] at hc
      rcases hc with rfl | hc
      · decide
      · obtain ⟨e, -, he⟩ := List.mem_flatMap.mp hc
        exact e.allowed_line c he

/-- **The text of an outline has the tokens of the outline.** -/
theorem tokens?_outline {sections : List Section} (hne : sections ≠ []) :
    tokens? (sections.flatMap Section.lines) = some (Scanner.outlineTokens sections) := by
  have hallowed : (sections.flatMap Section.lines).all isAllowed = true := by
    refine List.all_eq_true.mpr fun c hc => ?_
    obtain ⟨s, -, hs⟩ := List.mem_flatMap.mp hc
    exact s.allowed_lines c hs
  have hsteps := Section.allSteps_le sections
  rw [tokens?, if_pos hallowed, Scanner.run_outline hne (by omega)]

/-! ## 5. Nodes -/

namespace Document

/-- Tokens that are read as a value of a mapping, with so much fuel. -/
structure Parses (tokens : List Token) (node : Node) (need : Nat) : Prop where
  starts : Parser.endsBlockValue tokens.head? = false
  nonempty : tokens ≠ []
  read : ∀ {fuel : Nat}, need ≤ fuel → ∀ (flat : Bool) (p : Parser) (rest : List Token),
    Parser.node fuel true flat { p with tokens := tokens ++ rest } =
      some (node, { p with tokens := rest })

theorem parses_scalar (text : List Char) (style : Style) :
    Parses [.scalar text style] (.scalar none text style) 1 where
  starts := rfl
  nonempty := by simp
  read := by
    intro fuel hfuel flat p rest
    obtain ⟨fuel, rfl⟩ := Nat.exists_eq_succ_of_ne_zero (Nat.ne_of_gt hfuel)
    rw [Parser.node]
    rfl

theorem parses_braces : Parses [.flowMapping, .flowMappingEnd] (.mapping none []) 2 where
  starts := rfl
  nonempty := by simp
  read := by
    intro fuel hfuel flat p rest
    obtain ⟨fuel, rfl⟩ := Nat.exists_eq_add_of_le' hfuel
    simp only [List.cons_append, List.nil_append]
    rw [Parser.node.eq_def]
    simp [Parser.properties, Parser.resolveTag, Parser.peek, Parser.skip, Parser.declare,
      Parser.record, Parser.flowEntries]

/-- A mapping in a block, by the tokens of its values. -/
theorem blockEntries_items {α : Type} (name : α → List Char) {value : α → List Token}
    {node : α → Node} {need : Nat} (hneed : 0 < need) {items : List α}
    (h : ∀ item ∈ items, Parses (value item) (node item) need) {fuel : Nat}
    (hfuel : items.length + need ≤ fuel) (p : Parser) (rest : List Token) :
    Parser.blockEntries fuel { p with
        tokens := items.flatMap (fun item =>
          .key :: .scalar (name item) .plain :: .value :: value item) ++ .blockEnd :: rest } =
      some (items.map fun item => (.scalar none (name item) .plain, node item),
        { p with tokens := rest }) := by
  induction items generalizing fuel with
  | nil =>
    obtain ⟨fuel, rfl⟩ := Nat.exists_eq_succ_of_ne_zero (show fuel ≠ 0 by omega)
    rfl
  | cons item items ih =>
    rw [List.length_cons] at hfuel
    obtain ⟨fuel, rfl⟩ := Nat.exists_eq_succ_of_ne_zero (show fuel ≠ 0 by omega)
    have hitem := h item (by simp)
    have hmore := ih (fun other hother => h other (by simp [hother]))
      (show items.length + need ≤ fuel by omega)
    have hname := (parses_scalar (name item) .plain).read (show 1 ≤ fuel by omega) true
    have hvalue := hitem.read (show need ≤ fuel by omega) true
    have hkey : Parser.endsBlockValue (some (.scalar (name item) .plain)) = false := rfl
    have hstart (more : List Token) : Parser.endsBlockValue (value item ++ more).head? = false := by
      have := hitem.starts
      obtain ⟨token, tokens, htokens⟩ := List.exists_cons_of_ne_nil hitem.nonempty
      rwa [htokens] at this ⊢
    simp only [List.singleton_append] at hname
    rw [Parser.blockEntries.eq_def]
    simp only [Parser.peek, Parser.skip, List.flatMap_cons, List.cons_append, List.append_assoc,
      List.head?_cons, List.drop_succ_cons, List.drop_zero, hkey, hstart, Bool.false_eq_true,
      if_false, if_true, hname, hvalue, hmore, Option.bind_eq_bind, Option.bind_some]
    rfl

/-- A mapping in a block is a node. -/
theorem parses_mapping {α : Type} (name : α → List Char) {value : α → List Token}
    {node : α → Node} {need : Nat} (hneed : 0 < need) {items : List α}
    (h : ∀ item ∈ items, Parses (value item) (node item) need) :
    Parses (.blockMapping :: items.flatMap (fun item =>
        .key :: .scalar (name item) .plain :: .value :: value item) ++ [.blockEnd])
      (.mapping none (items.map fun item => (.scalar none (name item) .plain, node item)))
      (items.length + need + 1) where
  starts := rfl
  nonempty := by simp
  read := by
    intro fuel hfuel flat p rest
    obtain ⟨fuel, rfl⟩ := Nat.exists_eq_succ_of_ne_zero (show fuel ≠ 0 by omega)
    have hitems :=
      blockEntries_items name hneed h (show items.length + need ≤ fuel by omega) p rest
    rw [Parser.node.eq_def]
    simp only [List.cons_append, List.append_assoc, List.nil_append, Parser.properties,
      Parser.resolveTag, Parser.peek, Parser.skip, Parser.declare, Parser.record, List.head?_cons,
      List.drop_succ_cons, List.drop_zero, hitems, Option.bind_eq_bind, Option.bind_some, if_true]

theorem Parses.mono {tokens : List Token} {node : Node} {need more : Nat}
    (h : Parses tokens node need) (hmore : need ≤ more) : Parses tokens node more :=
  ⟨h.starts, h.nonempty, fun hfuel => h.read (Nat.le_trans hmore hfuel)⟩

/-- The tokens behind the name of a section are its mapping. -/
theorem parses_body (fields : List Field) :
    Parses (Section.bodyTokens fields) (.mapping none (fields.map Field.node))
      (fields.length + 2) := by
  cases fields with
  | nil => exact parses_braces
  | cons field fields =>
    exact parses_mapping (fun field : Field => field.name.toList) Nat.one_pos
      fun field _ => parses_scalar field.text field.style

theorem Section.length_bodyTokens_le (fields : List Field) :
    fields.length + 2 ≤ (Section.bodyTokens fields).length := by
  cases fields with
  | nil => decide
  | cons field fields =>
    have (fields : List Field) : fields.length ≤ (fields.flatMap Field.tokens).length := by
      induction fields with
      | nil => simp
      | cons field fields ih =>
        simp only [List.flatMap_cons, List.length_append, List.length_cons, Field.tokens]
        omega
    have := this (field :: fields)
    simp only [Section.bodyTokens_cons, List.cons_append, List.length_cons, List.length_append] at *
    omega

theorem Section.length_tokens_le {s : Section} {sections : List Section} (h : s ∈ sections) :
    s.fields.length + 2 ≤ (sections.flatMap Section.tokens).length := by
  induction sections with
  | nil => simp at h
  | cons other sections ih =>
    rw [List.flatMap_cons, List.length_append]
    rcases List.mem_cons.mp h with rfl | h
    · have := length_bodyTokens_le s.fields
      simp only [Section.tokens, List.length_cons]
      omega
    · have := ih h
      omega

theorem Section.length_le_tokens (sections : List Section) :
    sections.length ≤ (sections.flatMap Section.tokens).length := by
  induction sections with
  | nil => simp
  | cons s sections ih =>
    simp only [List.flatMap_cons, List.length_append, List.length_cons, Section.tokens]
    omega

/-- **The tokens of an outline are its document.** -/
theorem ofTokens?_outline (sections : List Section) :
    ofTokens? (Scanner.outlineTokens sections) =
      some (some ⟨.mapping none (sections.map Section.node), []⟩) := by
  have hcount := Section.length_le_tokens sections
  have hlength : (Scanner.outlineTokens sections).length =
      (sections.flatMap Section.tokens).length + 2 := by
    simp [Scanner.outlineTokens]
  have hbody : ∀ s ∈ sections, Parses (Section.bodyTokens s.fields)
      (.mapping none (s.fields.map Field.node)) (Scanner.outlineTokens sections).length :=
    fun s hs => (parses_body s.fields).mono (by have := Section.length_tokens_le hs; omega)
  have hroot : Parser.node (2 * (Scanner.outlineTokens sections).length + 2) true false
      ⟨Scanner.outlineTokens sections, standardHandles, [], 0, []⟩ =
      some (.mapping none (sections.map Section.node), ⟨[], standardHandles, [], 0, []⟩) := by
    have := (parses_mapping (fun s : Section => s.name.toList) (by omega) hbody).read
      (show _ ≤ 2 * (Scanner.outlineTokens sections).length + 2 by omega) false
      ⟨Scanner.outlineTokens sections, standardHandles, [], 0, []⟩ []
    rw [List.append_nil] at this
    exact this
  have hdirectives : Parser.directives (2 * (Scanner.outlineTokens sections).length + 2) false []
      (Scanner.outlineTokens sections) = some ([], Scanner.outlineTokens sections) := rfl
  have hfirst : ¬ (Scanner.outlineTokens sections).head? = some .documentStart := by
    simp [Scanner.outlineTokens]
  have hsome : ¬ Scanner.outlineTokens sections = [] := by simp [Scanner.outlineTokens]
  simp only [ofTokens?, hdirectives, hfirst, hsome, Option.bind_eq_bind, Option.bind_some,
    Nat.lt_irrefl, decide_false, Bool.false_and, Bool.false_eq_true, if_false, List.nil_append,
    hroot, List.all_nil, if_true]

/-- **The text of an outline is its document.** -/
theorem ofText?_outline {sections : List Section} (hne : sections ≠ []) :
    ofText? (sections.flatMap Section.lines) =
      some (some ⟨.mapping none (sections.map Section.node), []⟩) := by
  rw [ofText?, tokens?_outline hne, Option.bind_some, ofTokens?_outline]

end Document

end RenderSync.Yaml
