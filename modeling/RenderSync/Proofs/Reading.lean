import RenderSync.Json.Shape
import RenderSync.Proofs.Lines

/-!
# Reading back what was written

A text is read back from its octets (`Utf8.decode?_encode`), and a string from the text between its
quotes (`Json.readString_quote`), whatever stands behind.  From that an object of strings and truth
values is read back: as one JSON text (`Json.parse?_object`), as a line (`Framing.frame?_object`),
and as a tagged choice, where the tag is looked for and everything else is kept
(`Json.read_tagged`).

The readers go over octets, each as the character with its number, and they undo escapes while the
characters of a string are still octets: only at the closing quote they become characters again.  So
the invariant of `Json.readChars` is about the octets seen so far, not about characters.
-/

namespace RenderSync

/-! ## 1. Texts -/

namespace Utf8

/-- A continuation octet carries six bits. -/
theorem tail_octet {m : Nat} (h : m < 64) :
    isTail (0x80 + m).toUInt8 = true ∧ tailBits (0x80 + m).toUInt8 = m := by
  have hall : ∀ m < 64, isTail (0x80 + m).toUInt8 = true ∧ tailBits (0x80 + m).toUInt8 = m := by
    decide +kernel
  exact hall m h

/-- The octets that start a character of two. -/
theorem lead_two {n m : Nat} (hn : 2 ≤ n ∧ n < 32) (hm : m < 64) :
    tailCount? (0xC0 + n).toUInt8 = some 1 ∧
      secondFits (0xC0 + n).toUInt8 (0x80 + m).toUInt8 = true := by
  have hall : ∀ n < 32, 2 ≤ n → tailCount? (0xC0 + n).toUInt8 = some 1 ∧
      ∀ m < 64, secondFits (0xC0 + n).toUInt8 (0x80 + m).toUInt8 = true := by
    decide +kernel
  exact ⟨(hall n hn.2 hn.1).1, (hall n hn.2 hn.1).2 m hm⟩

/-- The octets that start a character of three: none that two would do for, and no surrogates. -/
theorem lead_three {n m : Nat} (hn : n < 16) (hm : m < 64) (hlong : n = 0 → 32 ≤ m)
    (hscalar : n = 13 → m < 32) :
    tailCount? (0xE0 + n).toUInt8 = some 2 ∧
      secondFits (0xE0 + n).toUInt8 (0x80 + m).toUInt8 = true := by
  have hall : ∀ n < 16, tailCount? (0xE0 + n).toUInt8 = some 2 ∧
      ∀ m < 64, (n = 0 → 32 ≤ m) → (n = 13 → m < 32) →
        secondFits (0xE0 + n).toUInt8 (0x80 + m).toUInt8 = true := by
    decide +kernel
  exact ⟨(hall n hn).1, (hall n hn).2 m hm hlong hscalar⟩

/-- The octets that start a character of four: none that three would do for, and none above the last
character. -/
theorem lead_four {n m : Nat} (hn : n < 5) (hm : m < 64) (hlong : n = 0 → 16 ≤ m)
    (hlast : n = 4 → m < 16) :
    tailCount? (0xF0 + n).toUInt8 = some 3 ∧
      secondFits (0xF0 + n).toUInt8 (0x80 + m).toUInt8 = true := by
  have hall : ∀ n < 5, tailCount? (0xF0 + n).toUInt8 = some 3 ∧
      ∀ m < 64, (n = 0 → 16 ≤ m) → (n = 4 → m < 16) →
        secondFits (0xF0 + n).toUInt8 (0x80 + m).toUInt8 = true := by
    decide +kernel
  exact ⟨(hall n hn).1, (hall n hn).2 m hm hlong hlast⟩

/-- **A character is read back from its octets**, whatever follows. -/
theorem next_encodeChar (c : Char) (rest : List UInt8) :
    ∃ lead tail, encodeChar c = lead :: tail ∧
      next lead (tail ++ rest) = (some c, tail.length) := by
  have hc : Char.ofNat c.toNat = c := Char.ofNat_toNat c
  have hvalid : c.toNat < 0xD800 ∨ 0xDFFF < c.toNat ∧ c.toNat < 0x110000 := c.valid
  unfold encodeChar
  dsimp only
  generalize c.toNat = n at *
  -- one case for each number of octets
  split
  · next h =>
    have hlead : tailCount? n.toUInt8 = some 0 := by
      simp [tailCount?, UInt8.lt_iff_toNat_lt, toNat_octet (n := n) (by omega), h]
    refine ⟨_, _, rfl, ?_⟩
    simp [next, hlead, toNat_octet (n := n) (by omega), hc]
  split
  · next h1 h2 =>
    obtain ⟨hlead, hfits⟩ := lead_two (n := n / 64) (m := n % 64) (by omega) (by omega)
    obtain ⟨-, htail⟩ := tail_octet (m := n % 64) (by omega)
    have hbits := toNat_octet (n := 0xC0 + n / 64) (by omega)
    have hback : (0xC0 + n / 64) % 32 * 64 + n % 64 = n := by omega
    refine ⟨_, _, rfl, ?_⟩
    simp only [next, hlead, List.cons_append, hfits, if_pos, hbits, htail, hback, hc,
      List.length_singleton]
  split
  · next h1 h2 h3 =>
    obtain ⟨hlead, hfits⟩ := lead_three (n := n / 4096) (m := n / 64 % 64) (by omega) (by omega)
      (by omega) (by omega)
    have hsecond := tail_octet (m := n / 64 % 64) (by omega)
    have hthird := tail_octet (m := n % 64) (by omega)
    have hbits := toNat_octet (n := 0xE0 + n / 4096) (by omega)
    have hback : ((0xE0 + n / 4096) % 16 * 64 + n / 64 % 64) * 64 + n % 64 = n := by omega
    refine ⟨_, _, rfl, ?_⟩
    simp only [next, hlead, List.cons_append, hfits, if_pos, hbits, hsecond, hthird, hback, hc,
      List.length_cons, List.length_nil, Nat.zero_add]
  · next h1 h2 h3 =>
    obtain ⟨hlead, hfits⟩ := lead_four (n := n / 262144) (m := n / 4096 % 64) (by omega) (by omega)
      (by omega) (by omega)
    have hsecond := tail_octet (m := n / 4096 % 64) (by omega)
    have hthird := tail_octet (m := n / 64 % 64) (by omega)
    have hfourth := tail_octet (m := n % 64) (by omega)
    have hbits := toNat_octet (n := 0xF0 + n / 262144) (by omega)
    have hback : (((0xF0 + n / 262144) % 8 * 64 + n / 4096 % 64) * 64 + n / 64 % 64) * 64 +
        n % 64 = n := by
      omega
    refine ⟨_, _, rfl, ?_⟩
    simp only [next, hlead, List.cons_append, hfits, if_pos, hbits, hsecond, hthird, hfourth, hback,
      hc, List.length_cons, List.length_nil, Nat.zero_add]

theorem scan_encode (text : List Char) : scan (encode text) = text.map some := by
  induction text with
  | nil => rw [encode, List.flatMap_nil, scan, List.map_nil]
  | cons c text ih =>
    obtain ⟨lead, tail, hchar, hnext⟩ := next_encodeChar c (encode text)
    have hoctets : encode (c :: text) = lead :: (tail ++ encode text) := by
      rw [encode, List.flatMap_cons, hchar, List.cons_append, encode]
    rw [hoctets, scan, hnext, List.drop_left, ih, List.map_cons]

/-- **A text is read back from its octets.** -/
theorem decode?_encode (text : List Char) : decode? (encode text) = some text := by
  rw [decode?, scan_encode]
  induction text with
  | nil => rfl
  | cons c text ih =>
    rw [List.map_cons, List.mapM_cons, ih]
    rfl

/-- So it is if spoilt octets were allowed: there are none. -/
theorem decodeLossy_encode (text : List Char) : decodeLossy (encode text) = text := by
  rw [decodeLossy, scan_encode, List.map_map]
  exact List.map_id text

end Utf8

/-! ## 2. Strings -/

namespace Json

theorem octetsOf_append (text other : List Char) :
    octetsOf (text ++ other) = octetsOf text ++ octetsOf other := by
  rw [octetsOf, Utf8.encode, List.flatMap_append, List.map_append]
  rfl

theorem octetsOf_cons (c : Char) (text : List Char) :
    octetsOf (c :: text) = octetsOf [c] ++ octetsOf text :=
  octetsOf_append [c] text

/-- The octets of one character. -/
theorem octetsOf_singleton (c : Char) :
    octetsOf [c] = (Utf8.encodeChar c).map fun octet => Char.ofNat octet.toNat := by
  rw [octetsOf, Utf8.encode, List.flatMap_singleton]

/-- A character below 128 is its own octet. -/
theorem octetsOf_ascii {c : Char} (h : c.toNat < 128) : octetsOf [c] = [c] := by
  rw [octetsOf_singleton, Utf8.encodeChar_of_lt h, List.map_singleton,
    Utf8.toNat_octet (by omega), Char.ofNat_toNat]

/-- The number of an octet is that of its character. -/
theorem toNat_ofNat_octet (octet : UInt8) : (Char.ofNat octet.toNat).toNat = octet.toNat := by
  have hsmall : octet.toNat < 256 := octet.toNat_lt
  have hvalid : octet.toNat.isValidChar := Or.inl (by omega)
  rw [Char.ofNat, dif_pos hvalid]
  rfl

/-- The octets of a string that were seen give the string. -/
theorem stringOf_octetsOf (text : List Char) :
    stringOf (octetsOf text).reverse = .ok (String.ofList text) := by
  have hoctets : (octetsOf text).map (fun c => c.toNat.toUInt8) = Utf8.encode text := by
    rw [octetsOf, List.map_map]
    refine (List.map_congr_left fun octet _ => ?_).trans (List.map_id _)
    simp [toNat_ofNat_octet]
  rw [stringOf, List.reverse_reverse, hoctets, Utf8.decode?_encode]

/-- Octets that stand for themselves in a string. -/
def Literal (octets : List Char) : Prop := ∀ o ∈ octets, ' ' ≤ o ∧ o ≠ '"' ∧ o ≠ '\\'

theorem readChars_literal {octets : List Char} (h : Literal octets) (seen rest : List Char) :
    readChars seen (octets ++ rest) = readChars (octets.reverse ++ seen) rest := by
  induction octets generalizing seen with
  | nil => rfl
  | cons o octets ih =>
    obtain ⟨⟨hplain, hquote, hescape⟩, hoctets⟩ := List.forall_mem_cons.mp h
    have hstep : readChars seen (o :: (octets ++ rest)) =
        readChars (o :: seen) (octets ++ rest) := by
      rw [readChars]
      · exact if_neg (Char.not_lt.mpr hplain)
      · exact hquote
      all_goals
        intros
        exact absurd ‹o = '\\'› hescape
    rw [List.cons_append, hstep, ih hoctets, List.reverse_cons, List.append_assoc]
    rfl

/-- A character that is not escaped has octets that stand for themselves. -/
theorem literal_octetsOf {c : Char} (hplain : ' ' ≤ c) (hquote : c ≠ '"') (hescape : c ≠ '\\') :
    Literal (octetsOf [c]) := by
  rcases Nat.lt_or_ge c.toNat 128 with hsmall | hlarge
  · rw [octetsOf_ascii hsmall]
    exact List.forall_mem_singleton.mpr ⟨hplain, hquote, hescape⟩
  · intro o ho
    rw [octetsOf_singleton] at ho
    obtain ⟨octet, hoctet, rfl⟩ := List.mem_map.mp ho
    have habove : 128 ≤ (Char.ofNat octet.toNat).toNat := by
      rw [toNat_ofNat_octet]
      exact Utf8.le_of_mem_encodeChar hlarge hoctet
    have hother : ∀ d : Char, d.toNat < 128 → Char.ofNat octet.toNat ≠ d := fun d hd hsame =>
      absurd (hsame ▸ habove) (Nat.not_le.mpr hd)
    exact ⟨Nat.le_trans (by decide) habove, hother '"' (by decide), hother '\\' (by decide)⟩

/-- **What a character is written as is read as its octets.** -/
theorem readChars_escapeChar (c : Char) (seen rest : List Char) :
    readChars seen (octetsOf (escapeChar c) ++ rest) =
      readChars ((octetsOf [c]).reverse ++ seen) rest := by
  unfold escapeChar
  iterate 7
    split
    · next h =>
      subst h
      rfl
  split
  · next hcontrol =>
    -- the control characters without a letter, by their four digits
    have hsmall : c.toNat < 32 := hcontrol
    have hc : Char.ofNat c.toNat = c := Char.ofNat_toNat c
    have hown : octetsOf [c] = [c] := octetsOf_ascii (by omega)
    have hdigits : ∀ n < 32, hex4? (Digits.digitChar (n / 16 / 16 / 16 % 16))
        (Digits.digitChar (n / 16 / 16 % 16)) (Digits.digitChar (n / 16 % 16))
        (Digits.digitChar (n % 16)) = some n := by
      decide
    have htext : ∀ n < 32,
        octetsOf ('\\' :: 'u' :: Digits.hex 4 n) = '\\' :: 'u' :: Digits.hex 4 n := by
      decide +kernel
    have hunit : isTrailing c.toNat = false ∧ isLeading c.toNat = false := by
      simp [isTrailing, isLeading]
      omega
    rw [htext c.toNat hsmall]
    simp only [Digits.hex, List.nil_append, List.cons_append, readChars, hdigits c.toNat hsmall,
      hunit, hc, hown]
    rfl
  · next hquote hescape _ _ _ _ _ hcontrol =>
    exact readChars_literal (literal_octetsOf (Char.not_lt.mp hcontrol) hquote hescape) seen rest

theorem readChars_escaped (text seen rest : List Char) :
    readChars seen (octetsOf (text.flatMap escapeChar) ++ rest) =
      readChars ((octetsOf text).reverse ++ seen) rest := by
  induction text generalizing seen with
  | nil => rfl
  | cons c text ih =>
    rw [List.flatMap_cons, octetsOf_append, List.append_assoc, readChars_escapeChar, ih,
      octetsOf_cons c text, List.reverse_append, List.append_assoc]

/-- What stands behind the opening quote of a string. -/
def behindQuote (s : String) : List Char := octetsOf (s.toList.flatMap escapeChar ++ ['"'])

theorem octetsOf_quote (s : String) : octetsOf (quote s) = '"' :: behindQuote s := by
  rw [quote, List.cons_append, octetsOf_cons, octetsOf_ascii (by decide)]
  rfl

/-- **A string is read back as it was written**, whatever follows. -/
theorem readString_quote (s : String) (rest : List Char) :
    readString (behindQuote s ++ rest) = .ok (s, rest) := by
  rw [readString, behindQuote, octetsOf_append, List.append_assoc, readChars_escaped,
    List.append_nil, octetsOf_ascii (by decide), List.singleton_append, readChars,
    stringOf_octetsOf, String.ofList_toList]
  rfl

/-! ## 3. Fields that were sorted -/

namespace Fields

/-- A field is found under its name, and all others as before. -/
theorem lookup_insert (name other : String) (value : Json) (fields : List (String × Json)) :
    (insert name value fields).lookup other =
      if other == name then some value else fields.lookup other := by
  induction fields with
  | nil =>
    rw [insert, List.lookup_cons]
    cases other == name <;> rfl
  | cons field rest ih =>
    obtain ⟨n, v⟩ := field
    rw [insert]
    split
    · next hsame =>
      subst hsame
      rw [List.lookup_cons, List.lookup_cons]
      cases other == name <;> rfl
    split
    · rw [List.lookup_cons]
      cases other == name <;> rfl
    · next hne _ =>
      rw [List.lookup_cons, List.lookup_cons, ih]
      cases hn : other == n with
      | true =>
        have hother : (other == name) = false := eq_of_beq hn ▸ beq_false_of_ne (Ne.symm hne)
        rw [hother]
        rfl
      | false => rfl

/-- **The last entry of a name is kept.** -/
theorem lookup_ofEntries (name : String) (entries : List (String × Json)) :
    (ofEntries entries).lookup name = entries.reverse.lookup name := by
  have hall : ∀ fields, (entries.foldl (fun fields entry => insert entry.1 entry.2 fields)
      fields).lookup name = (entries.reverse.lookup name).or (fields.lookup name) := by
    induction entries with
    | nil => exact fun _ => rfl
    | cons entry rest ih =>
      intro fields
      rw [List.foldl_cons, ih, lookup_insert, List.reverse_cons, List.lookup_append,
        Option.or_assoc, List.lookup_cons]
      cases name == entry.1 <;> rfl
  rw [ofEntries, hall]
  exact Option.or_none

end Fields

/-! ## 4. Objects of strings and truth values -/

/-- A string or a truth value. -/
def IsSimple (value : Json) : Prop := (∃ s, value = .string s) ∨ ∃ b, value = .bool b

/-- **A simple value is read back.** -/
theorem readValueFuel_simple {value : Json} (h : value.IsSimple) (entries : Entries)
    (fuel depth : Nat) (rest : List Char) :
    readValueFuel entries (fuel + 1) depth (octetsOf (renderChars value) ++ rest) =
      .ok (value, rest) := by
  rcases h with ⟨s, rfl⟩ | ⟨_ | _, rfl⟩
  · have hstart : skipSpace ('"' :: (behindQuote s ++ rest)) = '"' :: (behindQuote s ++ rest) := rfl
    rw [renderChars, octetsOf_quote, List.cons_append, readValueFuel, hstart]
    simp only [readString_quote]
    rfl
  · rfl
  · rfl

/-- A name is found, behind a comma if it is not the first. -/
theorem nextName_member (first : Bool) (s : String) (rest : List Char) :
    nextName first (octetsOf ((if first then [] else [',']) ++ quote s) ++ rest) =
      .ok (.member, behindQuote s ++ rest) := by
  rw [octetsOf_append, octetsOf_quote]
  cases first with
  | true => rfl
  | false => rfl

theorem readColon_cons (rest : List Char) : readColon (':' :: rest) = .ok rest := rfl

/-- The octets of fields, the first one apart. -/
theorem octetsOf_renderFields (first : Bool) (name : String) (value : Json)
    (fields : List (String × Json)) (rest : List Char) :
    octetsOf (renderFields first ((name, value) :: fields)) ++ rest =
      octetsOf ((if first then [] else [',']) ++ quote name) ++
        ':' :: (octetsOf (renderChars value) ++
          (octetsOf (renderFields false fields) ++ rest)) := by
  have hcolon : octetsOf [':'] = [':'] := rfl
  rw [renderFields, octetsOf_append, octetsOf_append _ (':' :: _), octetsOf_cons ':', hcolon]
  simp

/-- The octets of an object. -/
theorem octetsOf_object (fields : List (String × Json)) :
    octetsOf (renderChars (.object fields)) = '{' :: octetsOf (renderFields true fields) := by
  rw [renderChars, octetsOf_cons]
  rfl

/-- **Simple fields are read back**, whatever follows the closing brace. -/
theorem readMembersFuel_fields {fields : List (String × Json)}
    (h : ∀ field ∈ fields, field.2.IsSimple) (entries : Entries) (fuel depth : Nat) (first : Bool)
    (seen : List (String × Json)) (rest : List Char) (hfuel : fields.length < fuel) :
    readMembersFuel entries fuel depth first seen (octetsOf (renderFields first fields) ++ rest) =
      .ok (seen.reverse ++ fields, rest) := by
  induction fields generalizing fuel first seen with
  | nil =>
    obtain ⟨fuel, rfl⟩ := Nat.exists_eq_add_one_of_ne_zero (Nat.ne_of_gt hfuel)
    rw [List.append_nil]
    rfl
  | cons field fields ih =>
    obtain ⟨hfield, hfields⟩ := List.forall_mem_cons.mp h
    obtain ⟨name, value⟩ := field
    obtain ⟨fuel, rfl⟩ := Nat.exists_eq_add_of_le' (Nat.le_trans (by simp) hfuel : 2 ≤ fuel)
    have hrest := ih hfields (fuel + 1) false ((name, value) :: seen) (Nat.lt_of_succ_lt_succ hfuel)
    rw [octetsOf_renderFields, readMembersFuel, nextName_member]
    simp only [bind, Except.bind, readString_quote, readColon_cons]
    rw [readValueFuel_simple hfield]
    dsimp only
    rw [hrest, List.reverse_cons, List.append_assoc, List.singleton_append]

/-- Every field takes an octet at least, so that there is fuel for all of them. -/
theorem length_lt_fuelFor (fields : List (String × Json)) :
    fields.length + 1 < fuelFor (octetsOf (renderChars (.object fields))) := by
  have hfields : ∀ first, fields.length ≤ (octetsOf (renderFields first fields)).length := by
    induction fields with
    | nil => exact fun _ => Nat.zero_le _
    | cons field fields ih =>
      intro first
      have hone := octetsOf_renderFields first field.1 field.2 fields []
      rw [List.append_nil, List.append_nil] at hone
      rw [hone]
      have hrest := ih false
      simp only [List.length_append, List.length_cons]
      omega
  have hobject := hfields true
  rw [octetsOf_object, fuelFor, List.length_cons]
  omega

/-- **An object of simple fields is read back**, its fields sorted. -/
theorem parse?_object {fields : List (String × Json)} (h : ∀ field ∈ fields, field.2.IsSimple) :
    parse? (renderChars (.object fields)) = some (.object (Fields.ofEntries fields)) := by
  have hlength := length_lt_fuelFor fields
  obtain ⟨fuel, hfuel⟩ :=
    Nat.exists_eq_add_one_of_ne_zero (Nat.ne_of_gt (Nat.zero_lt_of_lt hlength))
  rw [hfuel] at hlength
  have hmembers := readMembersFuel_fields h .last fuel (depthLimit - 1) true [] []
    (Nat.lt_of_succ_lt_succ hlength)
  rw [List.append_nil] at hmembers
  have hvalue : readValue .last depthLimit (octetsOf (renderChars (.object fields))) =
      .ok (.object (Fields.ofEntries fields), []) := by
    have hstart : ∀ text, skipSpace ('{' :: text) = '{' :: text := fun _ => rfl
    rw [readValue, hfuel, octetsOf_object, readValueFuel, hstart]
    simp only [bind, Except.bind, hmembers]
    rfl
  rw [parse?, parse, hvalue]
  rfl

/-! ## 5. Tagged choices -/

section Tagged

variable {tag name : String} {names : List String} {fields : List (String × Json)}

/-- A tag is read back. -/
theorem readTag_string (hname : names.contains name = true) (rest : List Char) :
    Shape.readTag names (octetsOf (renderChars (.string name)) ++ rest) =
      .ok (.string name, rest) := by
  have hstart : skipSpace ('"' :: (behindQuote name ++ rest)) = '"' :: (behindQuote name ++ rest) :=
    rfl
  rw [renderChars, octetsOf_quote, List.cons_append, Shape.readTag, hstart]
  simp only [bind, Except.bind, readString_quote, hname, if_true]

/-- So are the fields behind it, as long as they have other names. -/
theorem readTaggedFuel_fields (h : ∀ field ∈ fields, field.2.IsSimple ∧ field.1 ≠ tag)
    (fuel depth : Nat) (first : Bool) (seen : List (String × Json)) (rest : List Char)
    (hfuel : fields.length < fuel) :
    Shape.readTaggedFuel fuel depth tag names first seen
        (octetsOf (renderFields first fields) ++ rest) =
      .ok (seen.reverse ++ fields, rest) := by
  induction fields generalizing fuel first seen with
  | nil =>
    obtain ⟨fuel, rfl⟩ := Nat.exists_eq_add_one_of_ne_zero (Nat.ne_of_gt hfuel)
    rw [List.append_nil]
    rfl
  | cons field fields ih =>
    obtain ⟨⟨hfield, htag⟩, hfields⟩ := List.forall_mem_cons.mp h
    obtain ⟨name, value⟩ := field
    obtain ⟨fuel, rfl⟩ := Nat.exists_eq_add_of_le' (Nat.le_trans (by simp) hfuel : 2 ≤ fuel)
    have hrest := ih hfields (fuel + 1) false ((name, value) :: seen) (Nat.lt_of_succ_lt_succ hfuel)
    rw [octetsOf_renderFields, Shape.readTaggedFuel, nextName_member]
    simp only [bind, Except.bind, readString_quote, readColon_cons, if_neg htag]
    rw [readValueFuel_simple hfield]
    dsimp only
    rw [hrest, List.reverse_cons, List.append_assoc, List.singleton_append]

/-- The tag comes first, and it is found no second time. -/
theorem readTaggedFuel_tagged (hname : names.contains name = true)
    (h : ∀ field ∈ fields, field.2.IsSimple ∧ field.1 ≠ tag) (fuel depth : Nat)
    (hfuel : fields.length < fuel) :
    Shape.readTaggedFuel (fuel + 1) depth tag names true []
        (octetsOf (renderFields true ((tag, .string name) :: fields))) =
      .ok ((tag, .string name) :: fields, []) := by
  have hrest : Shape.readTaggedFuel fuel depth tag names false [(tag, .string name)]
      (octetsOf (renderFields false fields) ++ []) = .ok ((tag, .string name) :: fields, []) :=
    readTaggedFuel_fields h fuel depth false [(tag, .string name)] [] hfuel
  have hoctets := octetsOf_renderFields true tag (.string name) fields []
  rw [List.append_nil] at hoctets
  rw [hoctets, Shape.readTaggedFuel, nextName_member]
  simp only [bind, Except.bind, readString_quote, readColon_cons, if_true]
  rw [readTag_string hname]
  exact hrest

/-- A text that is read to its end is read. -/
theorem Shape.read_of_readFuel {shape : Shape} {text : List Char} {value : Json}
    (h : readFuel (fuelFor (octetsOf text)) depthLimit shape (octetsOf text) = .ok (value, [])) :
    shape.read (Utf8.encode text) = .ok value := by
  have hoctets : (Utf8.encode text).map (fun octet => Char.ofNat octet.toNat) = octetsOf text := rfl
  rw [read, hoctets]
  dsimp only
  rw [h]
  rfl

/-- **A tagged choice with its tag in front is read back.** -/
theorem read_tagged (hname : names.contains name = true)
    (h : ∀ field ∈ fields, field.2.IsSimple ∧ field.1 ≠ tag) {accepts : Json → Bool}
    (haccepts : accepts (.object ((tag, .string name) :: fields)) = true) :
    (Shape.tagged tag names accepts).read
        (Utf8.encode (renderChars (.object ((tag, .string name) :: fields)))) =
      .ok (.object ((tag, .string name) :: fields)) := by
  have hlength := length_lt_fuelFor ((tag, .string name) :: fields)
  obtain ⟨fuel, hfuel⟩ := Nat.exists_eq_add_of_le' (Nat.le_trans (by simp) hlength : 2 ≤ fuelFor _)
  rw [hfuel, List.length_cons] at hlength
  have hentries := readTaggedFuel_tagged hname h fuel (depthLimit - 1) (by omega)
  have hstart : ∀ text, skipSpace ('{' :: text) = '{' :: text := fun _ => rfl
  apply Shape.read_of_readFuel
  rw [hfuel, octetsOf_object]
  unfold Shape.readFuel
  simp only [hstart, bind, Except.bind, hentries, haccepts]
  rfl

end Tagged

end Json

/-! ## 6. Frames -/

/-- A text between signs that are no blanks is not cut. -/
theorem Text.trim_eq_self {c d : Char} (hc : isBlank c = false) (hd : isBlank d = false)
    (text : List Char) : trim (c :: text ++ [d]) = c :: text ++ [d] := by
  have hfront : trimStart (c :: text ++ [d]) = c :: text ++ [d] := by
    rw [trimStart, List.cons_append, List.dropWhile_cons_of_neg (by simp [hc])]
  have hback : trimStart (c :: text ++ [d]).reverse = (c :: text ++ [d]).reverse := by
    rw [trimStart, List.reverse_append, List.reverse_singleton, List.singleton_append,
      List.dropWhile_cons_of_neg (by simp [hd])]
  rw [trim, hfront, trimEnd, hback, List.reverse_reverse]

/-- **The line of an object of simple fields is a frame.** -/
theorem Framing.frame?_object {fields : List (String × Json)}
    (h : ∀ field ∈ fields, field.2.IsSimple) :
    frame? (Utf8.encode (Json.renderChars (.object fields))) =
      some (.object (Json.Fields.ofEntries fields)) := by
  have hclosed : ∀ first, ∃ front, Json.renderFields first fields = front ++ ['}'] := by
    clear h
    induction fields with
    | nil => exact fun _ => ⟨[], rfl⟩
    | cons field fields ih =>
      intro first
      obtain ⟨front, hfront⟩ := ih false
      exact ⟨_, by rw [Json.renderFields, hfront, ← List.append_assoc]⟩
  obtain ⟨front, hfront⟩ := hclosed true
  have htext : Json.renderChars (.object fields) = '{' :: front ++ ['}'] := by
    rw [Json.renderChars, hfront, List.cons_append]
  rw [frame?, Utf8.decodeLossy_encode, ← Json.parse?_object h, htext,
    Text.trim_eq_self (by decide) (by decide)]
  rfl

end RenderSync
