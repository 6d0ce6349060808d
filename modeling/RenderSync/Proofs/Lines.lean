import RenderSync.Channel.Framing
import RenderSync.Wire.Command

/-!
# Texts that travel as lines

A value is written without control characters: strings escape them, and everything else that is
written are letters, digits and signs (`Json.plain_renderChars`).  So the text of a command holds no
line break, nor do its octets hold the one of a line end, since UTF-8 uses the octets below 128 for
nothing else (`Utf8.lineEnd_notMem_ofString`).  What is sent as one line is therefore read as one
line (`Framing.lines_frames`), whatever is sent behind it.
-/

namespace RenderSync

/-! ## 1. Texts without control characters -/

/-- No character is a control character, the first thirty-two that is. -/
def Plain (text : List Char) : Prop := ∀ c ∈ text, ' ' ≤ c

theorem Plain.nil : Plain [] := nofun

theorem Plain.cons {c : Char} {text : List Char} (hc : ' ' ≤ c) (h : Plain text) :
    Plain (c :: text) := List.forall_mem_cons.mpr ⟨hc, h⟩

theorem Plain.append {text other : List Char} (h : Plain text) (h' : Plain other) :
    Plain (text ++ other) := List.forall_mem_append.mpr ⟨h, h'⟩

theorem Plain.replicate {c : Char} (count : Nat) (hc : ' ' ≤ c) :
    Plain (List.replicate count c) := fun _ hother => (List.eq_of_mem_replicate hother) ▸ hc

theorem Plain.take {text : List Char} (h : Plain text) (count : Nat) : Plain (text.take count) :=
  fun c hc => h c (List.mem_of_mem_take hc)

theorem Plain.drop {text : List Char} (h : Plain text) (count : Nat) : Plain (text.drop count) :=
  fun c hc => h c (List.mem_of_mem_drop hc)

theorem Plain.of_decide {text : List Char} (h : text.all (fun c => decide (' ' ≤ c)) = true) :
    Plain text := fun c hc => of_decide_eq_true (List.all_eq_true.mp h c hc)

namespace Digits

theorem le_digitChar {d : Nat} (h : d < 16) : ' ' ≤ digitChar d := by
  have hall : ∀ d < 16, ' ' ≤ digitChar d := by decide
  exact hall d h

theorem plain_ofNat (n : Nat) : Plain (ofNat n) := by
  induction n using ofNat.induct with
  | case1 n hlast =>
    rw [ofNat, if_pos hlast]
    exact Plain.nil.cons (le_digitChar (by omega))
  | case2 n hmore ih =>
    rw [ofNat, if_neg hmore]
    exact ih.append (Plain.nil.cons (le_digitChar (by omega)))

theorem plain_ofInt (n : Int) : Plain (ofInt n) := by
  cases n with
  | ofNat n => exact plain_ofNat n
  | negSucc n => exact (plain_ofNat (n + 1)).cons (by decide)

theorem plain_hex (width : Nat) : ∀ n, Plain (hex width n) := by
  induction width with
  | zero => exact fun _ => Plain.nil
  | succ width ih =>
    exact fun n => (ih (n / 16)).append (Plain.nil.cons (le_digitChar (by omega)))

end Digits

namespace Json

/-- **A string escapes every control character.** -/
theorem plain_escapeChar (c : Char) : Plain (escapeChar c) := by
  unfold escapeChar
  iterate 7
    split
    · exact Plain.of_decide (by decide)
  split
  · exact ((Digits.plain_hex 4 c.toNat).cons (by decide)).cons (by decide)
  · next hc => exact Plain.nil.cons (Char.not_lt.mp hc)

theorem plain_quote (s : String) : Plain (quote s) := by
  have hinner : Plain (s.toList.flatMap escapeChar) := by
    intro c hc
    obtain ⟨original, -, hc⟩ := List.mem_flatMap.mp hc
    exact plain_escapeChar original c hc
  exact (hinner.cons (by decide)).append (Plain.of_decide (by decide))

theorem plain_placePoint {digits : List Char} (h : Plain digits) (exponent : Int) :
    Plain (placePoint digits exponent) := by
  unfold placePoint
  dsimp only
  split
  · exact (h.append (Plain.replicate _ (by decide))).append (Plain.of_decide (by decide))
  split
  · exact (h.take _).append ((h.drop _).cons (by decide))
  split
  · exact (((Plain.replicate _ (by decide)).cons (by decide)).cons (by decide)).append h
  · refine Plain.append ?_ ((Digits.plain_ofInt _).cons (by decide))
    split
    · exact Plain.nil
    · exact h
    · next d more _ =>
      obtain ⟨hd, hmore⟩ := List.forall_mem_cons.mp h
      exact Plain.cons hd (Plain.cons (by decide) hmore)

theorem plain_renderDouble (bits : Nat) : Plain (renderDouble bits) := by
  have hsign : Plain (if BinaryFloat.double.isNegative bits then ['-'] else []) := by
    split
    · exact Plain.of_decide (by decide)
    · exact Plain.nil
  unfold renderDouble
  dsimp only
  split
  · exact hsign.append (Plain.of_decide (by decide))
  · exact hsign.append (plain_placePoint (Digits.plain_ofNat _) _)

theorem plain_renderNumber (number : Number) : Plain (renderNumber number) := by
  cases number with
  | int n => exact Digits.plain_ofInt n
  | double d =>
    rw [renderNumber]
    split
    · exact plain_renderDouble d.pattern
    · exact Plain.of_decide (by decide)

/-- What stands in front of a member. -/
theorem plain_separator (first : Bool) : Plain (if first then [] else [',']) := by
  cases first with
  | true => exact Plain.nil
  | false => exact Plain.of_decide (by decide)

mutual

/-- **A value is written without control characters.** -/
theorem plain_renderChars : ∀ value : Json, Plain (renderChars value)
  | .null => Plain.of_decide (by decide)
  | .bool true => Plain.of_decide (by decide)
  | .bool false => Plain.of_decide (by decide)
  | .number n => plain_renderNumber n
  | .string s => plain_quote s
  | .array items => (plain_renderItems true items).cons (by decide)
  | .object fields => (plain_renderFields true fields).cons (by decide)

theorem plain_renderItems (first : Bool) : ∀ items : List Json, Plain (renderItems first items)
  | [] => Plain.nil.cons (by decide)
  | item :: rest =>
    (plain_separator first).append (plain_renderChars item) |>.append (plain_renderItems false rest)

theorem plain_renderFields (first : Bool) :
    ∀ fields : List (String × Json), Plain (renderFields first fields)
  | [] => Plain.nil.cons (by decide)
  | (name, value) :: rest =>
    ((plain_separator first).append (plain_quote name)).append
      ((plain_renderChars value).cons (by decide)) |>.append (plain_renderFields false rest)

end

/-- **The text of a value holds no line break.** -/
theorem newline_notMem_render (value : Json) : '\n' ∉ value.render.toList := by
  have hplain : Plain value.render.toList := by
    rw [render, String.toList_ofList]
    exact plain_renderChars value
  exact fun hbreak => absurd (hplain '\n' hbreak) (by decide)

end Json

/-- Nor does the text of a command. -/
theorem Command.newline_notMem_line (command : Command) : '\n' ∉ command.line.toList :=
  command.toJson.newline_notMem_render

/-! ## 2. Lines of octets -/

namespace Utf8

/-- A number below 256 as an octet, and back. -/
theorem toNat_octet {n : Nat} (h : n < 256) : n.toUInt8.toNat = n := by
  rw [Nat.toUInt8_eq, UInt8.toNat_ofNat', Nat.mod_eq_of_lt h]

/-- A character below 128 is its own octet. -/
theorem encodeChar_of_lt {c : Char} (h : c.toNat < 128) : encodeChar c = [c.toNat.toUInt8] :=
  if_pos h

/-- The octets of every other character are above 127. -/
theorem le_of_mem_encodeChar {c : Char} (hc : 128 ≤ c.toNat) {octet : UInt8}
    (hoctet : octet ∈ encodeChar c) : 128 ≤ octet.toNat := by
  have hlarge : ∀ {n : Nat}, 128 ≤ n → n < 256 → octet = n.toUInt8 → 128 ≤ octet.toNat := by
    intro n hn hsmall heq
    rw [heq, toNat_octet hsmall]
    exact hn
  have hvalid : c.toNat < 0xD800 ∨ 0xDFFF < c.toNat ∧ c.toNat < 0x110000 := c.valid
  unfold encodeChar at hoctet
  dsimp only at hoctet
  rw [if_neg (Nat.not_lt.mpr hc)] at hoctet
  -- one case for each number of octets
  split at hoctet
  · simp only [List.mem_cons, List.not_mem_nil, or_false] at hoctet
    rcases hoctet with hoctet | hoctet
    · exact hlarge (by omega) (by omega) hoctet
    · exact hlarge (by omega) (by omega) hoctet
  split at hoctet
  · simp only [List.mem_cons, List.not_mem_nil, or_false] at hoctet
    rcases hoctet with hoctet | hoctet | hoctet
    · exact hlarge (by omega) (by omega) hoctet
    · exact hlarge (by omega) (by omega) hoctet
    · exact hlarge (by omega) (by omega) hoctet
  · simp only [List.mem_cons, List.not_mem_nil, or_false] at hoctet
    rcases hoctet with hoctet | hoctet | hoctet | hoctet
    · exact hlarge (by omega) (by omega) hoctet
    · exact hlarge (by omega) (by omega) hoctet
    · exact hlarge (by omega) (by omega) hoctet
    · exact hlarge (by omega) (by omega) hoctet

/-- The octet of a line end stands for a line break only. -/
theorem lineEnd_notMem_encodeChar {c : Char} (h : c ≠ '\n') :
    Framing.lineEnd ∉ encodeChar c := by
  intro hend
  rcases Nat.lt_or_ge c.toNat 128 with hsmall | hlarge
  · rw [encodeChar_of_lt hsmall, List.mem_singleton] at hend
    have hten := congrArg UInt8.toNat hend
    rw [toNat_octet (by omega)] at hten
    exact h (Char.toNat_inj.mp hten.symm)
  · exact absurd (le_of_mem_encodeChar hlarge hend) (by decide)

/-- A text without line breaks is one line of octets. -/
theorem lineEnd_notMem_ofString {text : String} (h : '\n' ∉ text.toList) :
    Framing.lineEnd ∉ ofString text := by
  intro hend
  obtain ⟨c, hc, hoctet⟩ := List.mem_flatMap.mp hend
  exact lineEnd_notMem_encodeChar (fun hbreak => h (hbreak ▸ hc)) hoctet

end Utf8

namespace Framing

/-- **A line is read as one.** -/
theorem lines_line {line : List UInt8} (h : lineEnd ∉ line) (rest : List UInt8) :
    lines (line ++ lineEnd :: rest) = (line :: (lines rest).1, (lines rest).2) := by
  induction line with
  | nil => rfl
  | cons byte line ih =>
    obtain ⟨hbyte, hline⟩ := not_or.mp (mt List.mem_cons.mpr h)
    rw [List.cons_append, lines, ih hline]
    dsimp only
    rw [if_neg (Ne.symm hbyte)]

/-- **Texts that are sent one after the other are read as that many lines**, whatever follows. -/
theorem lines_frames (texts : List String) (h : ∀ text ∈ texts, '\n' ∉ text.toList)
    (rest : List UInt8) :
    lines (texts.flatMap bytes ++ rest) =
      (texts.map Utf8.ofString ++ (lines rest).1, (lines rest).2) := by
  induction texts with
  | nil => rfl
  | cons text texts ih =>
    obtain ⟨htext, htexts⟩ := List.forall_mem_cons.mp h
    have hframe : (text :: texts).flatMap bytes ++ rest =
        Utf8.ofString text ++ lineEnd :: (texts.flatMap bytes ++ rest) := by
      simp [bytes]
    rw [hframe, lines_line (Utf8.lineEnd_notMem_ofString htext), ih htexts]
    rfl

/-- Values that are sent are that many lines, and nothing waits behind them. -/
theorem lines_values (values : List Json) :
    lines (values.flatMap fun value => bytes value.render) =
      (values.map fun value => Utf8.ofString value.render, []) := by
  have htexts : ∀ text ∈ values.map Json.render, '\n' ∉ text.toList := by
    intro text htext
    obtain ⟨value, -, rfl⟩ := List.mem_map.mp htext
    exact value.newline_notMem_render
  have hlines := lines_frames (values.map Json.render) htexts []
  rw [List.append_nil, List.flatMap_map, List.map_map] at hlines
  rw [hlines]
  exact congrArg (·, []) (List.append_nil _)

end Framing

end RenderSync
