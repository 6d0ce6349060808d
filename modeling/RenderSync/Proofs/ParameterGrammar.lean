import Mathlib.Data.List.DropRight
import RenderSync.Proofs.Ways
import RenderSync.Wire.ControlParameters

/-!
# The grammar of control parameters

Parameters are written as items with commas between them.  An item is a pair, with any blanks around
its key and its value, or it is astray and does not count (`ControlParameters.Item`).  Every text is
such a list of items (`exists_items`), and what it stands for is the map that sends a key to the
value of the last pair with it.

Parameters are kept in the order of their keys, so that parameters with the same values are the same
(`IsMap.ext`).  Texts can therefore be compared by what they say of one key at a time: behind a
comma a text has its say first, and the text in front of it on the other keys
(`value?_overriddenBy`).
-/

namespace RenderSync

/-! ## 1. Pieces and blanks -/

namespace Text

variable {separator : Char}

/-- There is one piece more than there are separators. -/
theorem length_splitAt (separator : Char) (text : List Char) :
    (splitAt separator text).length = text.count separator + 1 := by
  induction text with
  | nil => rfl
  | cons c rest ih =>
    rw [splitAt]
    split
    · next hc => rw [List.length_cons, ih, hc, List.count_cons_self]
    · next hc =>
      rw [List.count_cons_of_ne hc, ← ih]
      cases hrest : splitAt separator rest with
      | nil => exact absurd hrest (splitAt_ne_nil separator rest)
      | cons piece pieces => rfl

/-- Pieces that are joined are split again. -/
theorem splitAt_intercalate {pieces : List (List Char)} (hsome : pieces ≠ [])
    (h : ∀ piece ∈ pieces, separator ∉ piece) :
    splitAt separator ([separator].intercalate pieces) = pieces := by
  induction pieces with
  | nil => exact absurd rfl hsome
  | cons first others ih =>
    have hfirst := splitAt_of_notMem (h first List.mem_cons_self)
    cases others with
    | nil => rw [List.intercalate_singleton, hfirst]
    | cons second rest =>
      have hothers := ih (List.cons_ne_nil _ _) fun piece hpiece =>
        h piece (List.mem_cons_of_mem _ hpiece)
      rw [List.intercalate_cons_cons, List.append_assoc, List.singleton_append, splitAt_append,
        hfirst, hothers, List.singleton_append]

/-- The pieces of a text make the text. -/
theorem intercalate_splitAt (separator : Char) (text : List Char) :
    [separator].intercalate (splitAt separator text) = text := by
  induction text with
  | nil => rfl
  | cons c rest ih =>
    rw [splitAt]
    cases hrest : splitAt separator rest with
    | nil => exact absurd hrest (splitAt_ne_nil separator rest)
    | cons piece pieces =>
      rw [hrest] at ih
      split
      · next hc => rw [List.intercalate_cons_cons, ih, hc, List.nil_append, List.singleton_append]
      · cases pieces with
        | nil => rw [List.intercalate_singleton, ← ih, List.intercalate_singleton]
        | cons second others =>
          dsimp only
          rw [List.intercalate_cons_cons, ← ih, List.intercalate_cons_cons, List.cons_append,
            List.cons_append]

theorem trimStart_eq_nil_iff {text : List Char} :
    trimStart text = [] ↔ isAllBlank text = true := by
  rw [trimStart, List.dropWhile_eq_nil_iff, isAllBlank, List.all_eq_true]

theorem trimStart_of_blank {front : List Char} (h : isAllBlank front = true) (text : List Char) :
    trimStart (front ++ text) = trimStart text :=
  List.dropWhile_append_of_pos (List.all_eq_true.mp h)

theorem trimEnd_of_blank {back : List Char} (h : isAllBlank back = true) (text : List Char) :
    trimEnd (text ++ back) = trimEnd text := by
  have hreverse : isAllBlank back.reverse = true := by rwa [isAllBlank, List.all_reverse]
  rw [trimEnd, List.reverse_append, trimStart_of_blank hreverse, trimEnd]

/-- **Blanks around a text are cut off**, with those that it has at its own ends. -/
theorem trim_around {front back : List Char} (hfront : isAllBlank front = true)
    (hback : isAllBlank back = true) (text : List Char) :
    trim (front ++ text ++ back) = trim text := by
  rw [trim, List.append_assoc, trimStart_of_blank hfront, trim, trimStart, List.dropWhile_append]
  split
  · next hall =>
    rw [List.isEmpty_iff] at hall
    rw [← trimStart, trimStart_eq_nil_iff.mpr hback, trimStart, hall]
  · rw [trimEnd_of_blank hback]
    rfl

/-- Nothing is left of a text exactly if it is blank. -/
theorem trim_eq_nil_iff {text : List Char} : trim text = [] ↔ isAllBlank text = true := by
  have hstart : trimStart (trimStart text) = trimStart text :=
    List.dropWhile_idempotent isBlank text
  rw [trim, trimEnd, List.reverse_eq_nil_iff, trimStart_eq_nil_iff, isAllBlank, List.all_reverse,
    ← isAllBlank, ← trimStart_eq_nil_iff, hstart, trimStart_eq_nil_iff]

/-- What is no blank is not among blanks. -/
theorem notMem_of_isAllBlank {text : List Char} (h : isAllBlank text = true) {c : Char}
    (hc : isBlank c = false) : c ∉ text := by
  intro hmem
  rw [List.all_eq_true.mp h c hmem] at hc
  exact Bool.noConfusion hc

end Text

namespace ControlParameters

/-! ## 2. Parameters as a map -/

/-- The keys are in order, and each is there once. -/
def IsMap (parameters : ControlParameters) : Prop := (parameters.map Prod.fst).Pairwise (· < ·)

/-- The value of the last of pairs with a key. -/
def lastUnder? (key : String) (pairs : List (String × String)) : Option String :=
  (pairs.filter (·.1 == key)).getLast?.map Prod.snd

/-- Parameters with others put into them, one after the other. -/
def overriddenBy (parameters others : ControlParameters) : ControlParameters :=
  others.foldl (fun parameters item => insert item.1 item.2 parameters) parameters

theorem value?_cons (key value : String) (rest : ControlParameters) (other : String) :
    value? ((key, value) :: rest) other =
      if other = key then some value else value? rest other := by
  rw [value?, List.lookup_cons]
  by_cases h : other = key
  · rw [if_pos h, beq_iff_eq.mpr h]
  · rw [if_neg h, beq_eq_false_iff_ne.mpr h]
    rfl

theorem lastUnder?_cons (key : String) (first : String × String) (rest : List (String × String)) :
    lastUnder? key (first :: rest) =
      (lastUnder? key rest).or (if key = first.1 then some first.2 else none) := by
  rw [lastUnder?, lastUnder?, List.filter_cons]
  by_cases hkey : key = first.1
  · rw [if_pos hkey, if_pos (beq_iff_eq.mpr hkey.symm), List.getLast?_cons]
    cases (rest.filter (·.1 == key)).getLast? <;> rfl
  · rw [if_neg hkey, if_neg fun heq => hkey (beq_iff_eq.mp heq).symm, Option.or_none]

/-- **A parameter that is put in has its value**, and all others keep theirs. -/
theorem value?_insert (key value : String) (parameters : ControlParameters) (other : String) :
    value? (insert key value parameters) other =
      if other = key then some value else parameters.value? other := by
  induction parameters with
  | nil => rw [insert, value?_cons]
  | cons first rest ih =>
    obtain ⟨k, v⟩ := first
    rw [insert]
    split
    · next hk =>
      rw [value?_cons, value?_cons, hk]
      split <;> rfl
    · next hk =>
      split
      · rw [value?_cons]
      · rw [value?_cons, ih, value?_cons]
        by_cases hother : other = key
        · rw [if_pos hother, if_pos hother, if_neg (hother ▸ hk)]
        · rw [if_neg hother, if_neg hother]

/-- A key that was put in is the new one, or was there. -/
theorem mem_insert {key value : String} {parameters : ControlParameters} {item : String × String}
    (h : item ∈ insert key value parameters) : item.1 = key ∨ item ∈ parameters := by
  induction parameters with
  | nil =>
    rw [insert, List.mem_singleton] at h
    exact Or.inl (congrArg Prod.fst h)
  | cons first rest ih =>
    obtain ⟨k, v⟩ := first
    rw [insert] at h
    split at h
    · rcases List.mem_cons.mp h with rfl | h
      · exact Or.inl rfl
      · exact Or.inr (List.mem_cons_of_mem _ h)
    · split at h
      · rcases List.mem_cons.mp h with rfl | h
        · exact Or.inl rfl
        · exact Or.inr h
      · rcases List.mem_cons.mp h with rfl | h
        · exact Or.inr List.mem_cons_self
        · exact (ih h).imp_right (List.mem_cons_of_mem _)

theorem isMap_nil : IsMap [] := List.Pairwise.nil

theorem isMap_cons {key value : String} {rest : ControlParameters} :
    IsMap ((key, value) :: rest) ↔ (∀ item ∈ rest, key < item.1) ∧ IsMap rest := by
  rw [IsMap, List.map_cons, List.pairwise_cons, List.forall_mem_map, IsMap]

/-- **A parameter is put in where its key belongs.** -/
theorem IsMap.insert {parameters : ControlParameters} (h : parameters.IsMap) (key value : String) :
    (insert key value parameters).IsMap := by
  induction parameters with
  | nil => exact isMap_cons.mpr ⟨nofun, isMap_nil⟩
  | cons first rest ih =>
    obtain ⟨k, v⟩ := first
    obtain ⟨hbehind, hrest⟩ := isMap_cons.mp h
    rw [ControlParameters.insert]
    split
    · next hk => exact isMap_cons.mpr ⟨hk ▸ hbehind, hrest⟩
    · next hk =>
      split
      · next hless =>
        refine isMap_cons.mpr ⟨fun item hitem => ?_, h⟩
        rcases List.mem_cons.mp hitem with rfl | hitem
        · exact hless
        · exact String.lt_trans hless (hbehind item hitem)
      · next hless =>
        have hmore : k < key := by
          refine String.not_le.mp fun hle => ?_
          exact hk (String.le_antisymm hle (String.not_lt.mp hless))
        refine isMap_cons.mpr ⟨fun item hitem => ?_, ih hrest⟩
        rcases mem_insert hitem with hkey | hitem
        · exact hkey ▸ hmore
        · exact hbehind item hitem

theorem IsMap.overriddenBy {parameters : ControlParameters} (h : parameters.IsMap)
    (others : ControlParameters) : (parameters.overriddenBy others).IsMap := by
  induction others generalizing parameters with
  | nil => exact h
  | cons first rest ih => exact ih (h.insert first.1 first.2)

/-- A key that is smaller than all is not there. -/
theorem value?_eq_none {parameters : ControlParameters} {key : String}
    (h : ∀ item ∈ parameters, key < item.1) : parameters.value? key = none := by
  rw [value?, List.lookup_eq_none_iff]
  intro item hitem
  refine bne_iff_ne.mpr fun heq => ?_
  exact String.lt_irrefl key (heq ▸ h item hitem)

/-- In a map the last pair with a key is the only one. -/
theorem IsMap.lastUnder?_eq {parameters : ControlParameters} (h : parameters.IsMap) (key : String) :
    lastUnder? key parameters = parameters.value? key := by
  induction parameters with
  | nil => rfl
  | cons first rest ih =>
    obtain ⟨k, v⟩ := first
    obtain ⟨hbehind, hrest⟩ := isMap_cons.mp h
    rw [lastUnder?_cons, value?_cons, ih hrest]
    split
    · next hkey => rw [hkey, value?_eq_none hbehind, Option.none_or]
    · exact Option.or_none

/-- The first key of a map is the smallest of those with a value. -/
theorem IsMap.le_of_value? {key value other found : String} {rest : ControlParameters}
    (h : IsMap ((key, value) :: rest)) (hfound : value? ((key, value) :: rest) other = some found) :
    key ≤ other := by
  refine String.not_lt.mp fun hless => ?_
  have hmissing : value? ((key, value) :: rest) other = none := by
    refine value?_eq_none fun item hitem => ?_
    rcases List.mem_cons.mp hitem with rfl | hitem
    · exact hless
    · exact String.lt_trans hless ((isMap_cons.mp h).1 item hitem)
  rw [hmissing] at hfound
  cases hfound

/-- **Parameters are determined by their values.** -/
theorem IsMap.ext {a : ControlParameters} (ha : a.IsMap) : ∀ {b : ControlParameters}, b.IsMap →
    (∀ key, a.value? key = b.value? key) → a = b := by
  have hfirst (k v : String) (rest : ControlParameters) : value? ((k, v) :: rest) k = some v := by
    rw [value?_cons, if_pos rfl]
  induction a with
  | nil =>
    intro b hb hvalues
    cases b with
    | nil => rfl
    | cons first rest => exact nomatch (hvalues first.1).trans (hfirst ..)
  | cons first rest ih =>
    obtain ⟨k, v⟩ := first
    intro b hb hvalues
    cases b with
    | nil => exact nomatch (hvalues k).symm.trans (hfirst ..)
    | cons other others =>
      obtain ⟨k', v'⟩ := other
      -- the smaller of the two keys would be missing on the other side
      obtain rfl : k = k' := String.le_antisymm
        (ha.le_of_value? ((hvalues k').trans (hfirst ..)))
        (hb.le_of_value? ((hvalues k).symm.trans (hfirst ..)))
      obtain rfl : v = v' :=
        Option.some.inj ((hfirst ..).symm.trans ((hvalues k).trans (hfirst ..)))
      obtain ⟨hbehind, hrest⟩ := isMap_cons.mp ha
      obtain ⟨hbehind', hothers⟩ := isMap_cons.mp hb
      rw [ih hrest hothers fun key => ?_]
      by_cases hkey : key = k
      · rw [hkey, value?_eq_none hbehind, value?_eq_none hbehind']
      · have hsame := hvalues key
        rwa [value?_cons, if_neg hkey, value?_cons, if_neg hkey] at hsame

/-- **The last pair with a key has its say first**, and then what was there. -/
theorem value?_overriddenBy (parameters others : ControlParameters) (key : String) :
    (parameters.overriddenBy others).value? key =
      (lastUnder? key others).or (parameters.value? key) := by
  induction others generalizing parameters with
  | nil => rfl
  | cons first rest ih =>
    rw [overriddenBy, List.foldl_cons, ← overriddenBy, ih, value?_insert, lastUnder?_cons,
      Option.or_assoc]
    split <;> rfl

/-! ## 3. Items -/

/-- A pair as it may be written: blanks stand around the key and the value. -/
structure Pair where
  key : String
  value : String
  beforeKey : String
  afterKey : String
  beforeValue : String
  afterValue : String
  key_present : Text.isAllBlank key.toList = false
  key_plain : ',' ∉ key.toList ∧ '=' ∉ key.toList
  value_plain : ',' ∉ value.toList ∧ '=' ∉ value.toList
  around_key : Text.isAllBlank beforeKey.toList = true ∧ Text.isAllBlank afterKey.toList = true
  around_value :
    Text.isAllBlank beforeValue.toList = true ∧ Text.isAllBlank afterValue.toList = true

/-- A text between commas that is no pair: it has no `=` or more than one, or nothing but blanks in
front of it. -/
structure Stray where
  text : String
  comma : ',' ∉ text.toList
  astray : '=' ∉ text.toList ∨ 1 < text.toList.count '=' ∨
    ∃ key value, text = key ++ "=" ++ value ∧ Text.isAllBlank key.toList = true

/-- What stands between commas. -/
inductive Item where
  | pair (pair : Pair)
  | stray (stray : Stray)

namespace Item

/-- The item as it is written. -/
def text : Item → String
  | pair p =>
    p.beforeKey ++ p.key ++ p.afterKey ++ "=" ++ (p.beforeValue ++ p.value ++ p.afterValue)
  | stray s => s.text

/-- A text without the blanks at its ends. -/
def trimmed (text : String) : String := String.ofList (Text.trim text.toList)

/-- The key and the value that the item gives. -/
def parameter? : Item → Option (String × String)
  | pair p => some (trimmed p.key, trimmed p.value)
  | stray _ => none

end Item

/-- An item that is not cut in two does not count. -/
theorem item?_eq_none {text : List Char} (h : text.count '=' ≠ 1) : item? text = none := by
  have hlength := Text.length_splitAt '=' text
  rw [item?]
  split
  · next hpieces =>
    rw [hpieces] at hlength
    exact absurd (Nat.succ.inj hlength).symm h
  · rfl

theorem item?_of_splitAt {text key value : List Char} (h : Text.splitAt '=' text = [key, value]) :
    item? text = if Text.trim key = [] then none
      else some (String.ofList (Text.trim key), String.ofList (Text.trim value)) := by
  rw [item?, h]

/-- **A pair gives its key and its value** without the blanks around them. -/
theorem item?_pair (p : Pair) : item? (Item.pair p).text.toList = (Item.pair p).parameter? := by
  have hkey : '=' ∉ p.beforeKey.toList ++ p.key.toList ++ p.afterKey.toList := by
    rw [List.mem_append, List.mem_append, not_or, not_or]
    exact ⟨⟨Text.notMem_of_isAllBlank p.around_key.1 rfl, p.key_plain.2⟩,
      Text.notMem_of_isAllBlank p.around_key.2 rfl⟩
  have hvalue : '=' ∉ p.beforeValue.toList ++ p.value.toList ++ p.afterValue.toList := by
    rw [List.mem_append, List.mem_append, not_or, not_or]
    exact ⟨⟨Text.notMem_of_isAllBlank p.around_value.1 rfl, p.value_plain.2⟩,
      Text.notMem_of_isAllBlank p.around_value.2 rfl⟩
  have hpieces : Text.splitAt '=' (Item.pair p).text.toList =
      [p.beforeKey.toList ++ p.key.toList ++ p.afterKey.toList,
        p.beforeValue.toList ++ p.value.toList ++ p.afterValue.toList] := by
    have htext : (Item.pair p).text.toList =
        p.beforeKey.toList ++ p.key.toList ++ p.afterKey.toList ++
          '=' :: (p.beforeValue.toList ++ p.value.toList ++ p.afterValue.toList) := by
      simp [Item.text]
    rw [htext, Text.splitAt_append, Text.splitAt_of_notMem hkey, Text.splitAt_of_notMem hvalue]
    rfl
  have hpresent : Text.trim p.key.toList ≠ [] :=
    mt Text.trim_eq_nil_iff.mp (Bool.eq_false_iff.mp p.key_present)
  rw [item?_of_splitAt hpieces, Text.trim_around p.around_key.1 p.around_key.2,
    Text.trim_around p.around_value.1 p.around_value.2, if_neg hpresent]
  rfl

/-- **An item that is astray gives nothing.** -/
theorem item?_stray (s : Stray) : item? s.text.toList = none := by
  by_cases hcount : s.text.toList.count '=' = 1
  · -- one `=`, so that what is in front of it is blank
    obtain hnone | hmany | ⟨key, value, htext, hblank⟩ := s.astray
    · rw [List.count_eq_zero_of_not_mem hnone] at hcount
      cases hcount
    · exact absurd hcount (Nat.ne_of_gt hmany)
    · have hchars : s.text.toList = key.toList ++ '=' :: value.toList := by simp [htext]
      have hvalue : '=' ∉ value.toList := by
        rw [hchars, List.count_append, List.count_cons_self] at hcount
        exact List.count_eq_zero.mp (by omega)
      have hpieces : Text.splitAt '=' s.text.toList = [key.toList, value.toList] := by
        rw [hchars, Text.splitAt_append, Text.splitAt_of_notMem hvalue,
          Text.splitAt_of_notMem (Text.notMem_of_isAllBlank hblank rfl)]
        rfl
      rw [item?_of_splitAt hpieces, if_pos (Text.trim_eq_nil_iff.mpr hblank)]
  · exact item?_eq_none hcount

theorem item?_text (item : Item) : item? item.text.toList = item.parameter? := by
  cases item with
  | pair p => exact item?_pair p
  | stray s => exact item?_stray s

/-- There is no comma inside an item. -/
theorem Item.comma (item : Item) : ',' ∉ item.text.toList := by
  cases item with
  | stray s => exact s.comma
  | pair p =>
    have hblank {text : String} (h : Text.isAllBlank text.toList = true) : ',' ∉ text.toList :=
      Text.notMem_of_isAllBlank h rfl
    simp [Item.text, hblank p.around_key.1, hblank p.around_key.2, hblank p.around_value.1,
      hblank p.around_value.2, p.key_plain.1, p.value_plain.1]

/-- **A text without commas is an item.** -/
theorem exists_item {text : List Char} (hcomma : ',' ∉ text) :
    ∃ item : Item, item.text.toList = text := by
  have hstray (h : '=' ∉ text ∨ 1 < text.count '=' ∨ ∃ key value,
      String.ofList text = key ++ "=" ++ value ∧ Text.isAllBlank key.toList = true) :
      ∃ item : Item, item.text.toList = text :=
    ⟨.stray ⟨String.ofList text, by simpa using hcomma, by simpa using h⟩, String.toList_ofList⟩
  by_cases hequals : '=' ∈ text
  · obtain ⟨key, value, rfl, hkey⟩ := List.eq_append_cons_of_mem hequals
    by_cases hvalue : '=' ∈ value
    · have hcount : 0 < value.count '=' := List.count_pos_iff.mpr hvalue
      refine hstray (Or.inr (Or.inl ?_))
      rw [List.count_append, List.count_cons_self]
      omega
    · cases hblank : Text.isAllBlank key with
      | true =>
        refine hstray (Or.inr (Or.inr ⟨String.ofList key, String.ofList value, ?_, ?_⟩))
        · exact String.toList_inj.mp (by simp)
        · rw [String.toList_ofList, hblank]
      | false =>
        simp only [List.mem_append, List.mem_cons, not_or] at hcomma
        refine ⟨.pair ⟨String.ofList key, String.ofList value, "", "", "", "", ?_, ?_, ?_,
          ⟨rfl, rfl⟩, ⟨rfl, rfl⟩⟩, ?_⟩
        · rw [String.toList_ofList, hblank]
        · simpa using ⟨hcomma.1, hkey⟩
        · simpa using ⟨hcomma.2.2, hvalue⟩
        · simp [Item.text]
  · exact hstray (Or.inl hequals)

/-! ## 4. Texts -/

/-- The pairs that a text gives, in order. -/
def written (text : String) : List (String × String) :=
  (Text.splitAt ',' text.toList).filterMap item?

theorem parse_eq (text : String) : parse text = overriddenBy [] (written text) := rfl

theorem isMap_parse (text : String) : (parse text).IsMap := by
  rw [parse_eq]
  exact isMap_nil.overriddenBy _

/-- **A text says of a key what its last pair with that key says.** -/
theorem value?_parse (text key : String) :
    (parse text).value? key = lastUnder? key (written text) := by
  rw [parse_eq, value?_overriddenBy]
  exact Option.or_none

/-- Items that are joined give what each of them gives. -/
theorem written_items (items : List Item) :
    written (",".intercalate (items.map Item.text)) = items.filterMap Item.parameter? := by
  have hchars : (",".intercalate (items.map Item.text)).toList =
      [','].intercalate (items.map fun item => item.text.toList) := by
    rw [String.toList_intercalate, List.map_map]
    rfl
  have hentries : (fun item : Item => item? item.text.toList) = Item.parameter? :=
    funext item?_text
  rw [written, hchars]
  cases items with
  | nil => rfl
  | cons first rest =>
    have hpieces : ∀ piece ∈ (first :: rest).map (fun item => item.text.toList), ',' ∉ piece := by
      intro piece hpiece
      obtain ⟨item, -, rfl⟩ := List.mem_map.mp hpiece
      exact item.comma
    have hsome : (first :: rest).map (fun item => item.text.toList) ≠ [] := List.cons_ne_nil _ _
    rw [Text.splitAt_intercalate hsome hpieces, List.filterMap_map, ← hentries]
    rfl

/-- Pieces without commas are items. -/
theorem exists_items_of_pieces {pieces : List (List Char)} (h : ∀ piece ∈ pieces, ',' ∉ piece) :
    ∃ items : List Item, items.map (fun item => item.text.toList) = pieces := by
  induction pieces with
  | nil => exact ⟨[], rfl⟩
  | cons first rest ih =>
    obtain ⟨item, hitem⟩ := exists_item (h first List.mem_cons_self)
    obtain ⟨items, hitems⟩ := ih fun piece hpiece => h piece (List.mem_cons_of_mem _ hpiece)
    exact ⟨item :: items, by rw [List.map_cons, hitem, hitems]⟩

/-- **Every text is a list of items.** -/
theorem exists_items (text : String) :
    ∃ items : List Item, text = ",".intercalate (items.map Item.text) := by
  have hpieces : ∀ piece ∈ Text.splitAt ',' text.toList, ',' ∉ piece :=
    fun piece hpiece => (Text.of_mem_splitAt hpiece).1
  obtain ⟨items, hitems⟩ := exists_items_of_pieces hpieces
  refine ⟨items, String.toList_inj.mp ?_⟩
  rw [String.toList_intercalate, List.map_map]
  exact (Text.intercalate_splitAt ',' text.toList).symm.trans (congrArg _ hitems.symm)

/-- The pairs of two texts with a comma between them are those of the first one and then those of
the second one. -/
theorem written_append (a b : String) : written (a ++ "," ++ b) = written a ++ written b := by
  have hchars : (a ++ "," ++ b).toList = a.toList ++ ',' :: b.toList := by simp
  rw [written, hchars, Text.splitAt_append, List.filterMap_append, written, written]

/-- **Behind a comma a text overrides the one in front of it.** -/
theorem parse_append (a b : String) :
    parse (a ++ "," ++ b) = (parse a).overriddenBy (parse b) := by
  refine (isMap_parse _).ext ((isMap_parse a).overriddenBy _) fun key => ?_
  have hfirst : parse (a ++ "," ++ b) = (parse a).overriddenBy (written b) := by
    rw [parse_eq, written_append, overriddenBy, List.foldl_append]
    rfl
  rw [hfirst, value?_overriddenBy, value?_overriddenBy, (isMap_parse b).lastUnder?_eq,
    ← value?_parse]

/-- **What texts of parameters stand for.**  Items with commas between them stand for the map that
sends a key to the value of the last pair with it; every text is such items; and a text behind a
comma overrides the one in front of it. -/
theorem parse_grammar :
    (∀ items : List Item,
      let parameters := parse (",".intercalate (items.map Item.text))
      parameters.IsMap ∧
        ∀ key, parameters.value? key = lastUnder? key (items.filterMap Item.parameter?)) ∧
      (∀ text : String, ∃ items : List Item, text = ",".intercalate (items.map Item.text)) ∧
      ∀ a b : String,
        parse (a ++ "," ++ b) = (parse a).overriddenBy (parse b) ∧
          ∀ key, (parse (a ++ "," ++ b)).value? key =
            ((parse b).value? key).or ((parse a).value? key) := by
  refine ⟨fun items => ⟨isMap_parse _, fun key => ?_⟩, exists_items, fun a b =>
    ⟨parse_append a b, fun key => ?_⟩⟩
  · rw [value?_parse, written_items]
  · rw [parse_append, value?_overriddenBy, (isMap_parse b).lastUnder?_eq]

/-- Blanks, repeated keys and items that are astray. -/
example : parse "min = 0 , max=10, broken, a=b=c, =7, min=1" = [("max", "10"), ("min", "1")] := by
  decide +kernel

end ControlParameters

end RenderSync
