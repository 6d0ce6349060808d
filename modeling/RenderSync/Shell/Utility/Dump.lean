import RenderSync.Shell.Format
import RenderSync.Shell.Utility.Lines

/-!
# Dumps

Octets shown as numbers, and octets written in the letters of another alphabet.
-/

namespace RenderSync.Shell.Call

/-! ## 1. Octets as numbers -/

/-- How the octets of a line are shown: some of them at a time, as a number or by a name. -/
structure DumpFormat where
  size : Nat
  letter : Char
  /-- The line ends with what can be seen of it. -/
  seen : Bool
deriving DecidableEq, Repr

/-- How wide what stands for some octets is, without the blank in front of it. -/
def DumpFormat.width (format : DumpFormat) : Nat :=
  let pick (one two four eight : Nat) : Nat :=
    match format.size with
    | 1 => one
    | 2 => two
    | 4 => four
    | _ => eight
  match format.letter with
  | 'x' => pick 2 4 8 16
  | 'd' => pick 4 6 11 20
  | 'u' => pick 3 5 10 20
  | 'o' => pick 3 6 11 22
  | _ => 3

/-- Names of octets that cannot be seen. -/
def octetNames : List String :=
  ["nul", "soh", "stx", "etx", "eot", "enq", "ack", "bel", "bs", "ht", "nl", "vt", "ff", "cr", "so",
    "si", "dle", "dc1", "dc2", "dc3", "dc4", "nak", "syn", "etb", "can", "em", "sub", "esc", "fs",
    "gs", "rs", "us", "sp"]

/-- Digits in a base, with zeros in front of them. -/
def zeroPadded (width base n : Nat) : List Char :=
  let digits := Format.Directive.digitsIn base 64 n
  List.replicate (width - digits.length) '0' ++ digits

/-- An octet as a character or by its escape. -/
def octetShown (c : Char) : List Char :=
  match ([('\x00', "\\0"), ('\x07', "\\a"), ('\x08', "\\b"), ('\x0c', "\\f"), ('\n', "\\n"),
    ('\r', "\\r"), ('\t', "\\t"), ('\x0b', "\\v")] : List (Char × String)).lookup c with
  | some text => text.toList
  | none => if classHolds "print" c then [c] else zeroPadded 3 8 c.toNat

/-- What stands for some octets, the least one first. -/
def DumpFormat.shown (format : DumpFormat) (octets : List Char) : List Char :=
  let n := octets.foldr (fun c n => n * 256 + c.toNat) 0
  match format.letter with
  | 'x' => zeroPadded format.width 16 n
  | 'o' => zeroPadded format.width 8 n
  | 'u' => Digits.ofNat n
  | 'd' =>
    let limit := Nat.pow 256 format.size
    Digits.ofInt (if n < limit / 2 then (n : Int) else (n : Int) - limit)
  | 'a' =>
    let code := n % 128
    match octetNames[code]? with
    | some name => name.toList
    | none => if code = 127 then "del".toList else [Char.ofNat code]
  | _ => octetShown (octets.headD '\x00')

/-- A list cut into pieces of a length, the last one perhaps shorter; `fuel` bounds them. -/
def chunks {α : Type} (length : Nat) : (fuel : Nat) → List α → List (List α)
  | 0, _ | _, [] => []
  | fuel + 1, items => items.take length :: chunks length fuel (items.drop length)

/-- A line of a dump in one of its formats, where `lineWidth` octets make a whole line and each
eight of them get at least `blockWidth` places. -/
def DumpFormat.line (format : DumpFormat) (lineWidth block blockWidth : Nat) (octets : List Char) :
    List Char :=
  let all := chunks format.size (octets.length + 1) octets
  let whole := all.map fun piece => piece ++ List.replicate (format.size - piece.length) '\x00'
  let fields := block / format.size
  let extra := blockWidth - (format.width + 1) * fields
  let places := lineWidth / format.size
  let gap (k : Nat) : Nat :=
    let left := fields - k % fields
    extra * left / fields - extra * (left - 1) / fields
  let shown := (whole.zipIdx.map fun (piece, k) =>
    let text := format.shown piece
    List.replicate (format.width + 1 + gap k - text.length) ' ' ++ text).flatten
  if format.seen then
    let blanks := ((List.range places).drop whole.length).map fun k =>
      List.replicate (format.width + 1 + gap k) ' '
    let seen := octets.map fun c => if classHolds "print" c then c else '.'
    shown ++ blanks.flatten ++ "  >".toList ++ seen ++ ['<']
  else shown

/-- The sizes that a letter or digits stand for. -/
def dumpSize? (letter : Char) (text : List Char) : Except String (Nat × List Char) :=
  match text with
  | 'C' :: rest => .ok (1, rest)
  | 'S' :: rest => .ok (2, rest)
  | 'I' :: rest => .ok (4, rest)
  | 'L' :: rest => .ok (8, rest)
  | _ =>
    let (digits, rest) := text.span Digits.isDecimal
    match Digits.toNat? 10 digits with
    | none => .ok (4, rest)
    | some n =>
      if [1, 2, 4, 8].contains n then .ok (n, rest)
      else .error ("invalid type string " ++ curly (String.ofList (letter :: text)) ++
        ";\nthis system doesn't provide a " ++ decimal n ++ "-byte integral type")

/-- The formats that a text such as `x1z` writes; `fuel` bounds them. -/
def dumpFormats? (whole : String) : (fuel : Nat) → List Char → Except String (List DumpFormat)
  | 0, _ | _, [] => .ok []
  | fuel + 1, letter :: rest => do
    let (size, rest) ←
      if letter = 'a' || letter = 'c' then pure (1, rest)
      else if "doux".toList.contains letter then dumpSize? letter rest
      else throw ("invalid character '" ++ letter.toString ++ "' in type string " ++ curly whole)
    let (seen, rest) : Bool × List Char := match rest with
      | 'z' :: rest => (true, rest)
      | rest => (false, rest)
    return ⟨size, letter, seen⟩ :: (← dumpFormats? whole fuel rest)

/-- The formats that options ask for, in their order. -/
def chosenFormats (options : Options) : Except String (List DumpFormat) := do
  let found ← options.chosen.mapM fun (letter, value) =>
    match letter with
    | 'a' | 'c' => .ok [⟨1, letter, false⟩]
    | 'b' => .ok [⟨1, 'o', false⟩]
    | 'd' => .ok [⟨2, 'u', false⟩]
    | 'o' => .ok [⟨2, 'o', false⟩]
    | 'x' => .ok [⟨2, 'x', false⟩]
    | 's' => .ok [⟨2, 'd', false⟩]
    | 'i' => .ok [⟨4, 'd', false⟩]
    | 'l' => .ok [⟨8, 'd', false⟩]
    | 't' => dumpFormats? value (value.length + 1) value.toList
    | _ => .ok []
  let formats := found.flatten
  return if formats = [] then [⟨2, 'o', false⟩] else formats

/-- The lines of a dump; whole lines that are repeated are left out if `repeats` does not say
otherwise. -/
def dumpLines (address : Nat → List Char) (formats : List DumpFormat) (width : Nat)
    (repeats : Bool) : (fuel : Nat) → (at_ : Nat) → (before : List Char) → (starred : Bool) →
      List Char → List (List Char)
  | 0, _, _, _, _ | _, _, _, _, [] => []
  | fuel + 1, at_, before, starred, octets =>
    let line := octets.take width
    let rest := octets.drop width
    if !repeats && line = before && line.length = width && rest ≠ [] then
      (if starred then [] else [['*']]) ++
        dumpLines address formats width repeats fuel (at_ + width) before true rest
    else
      let block := (formats.map DumpFormat.size).foldl max 1
      let blockWidth := (formats.map fun format => (format.width + 1) * (block / format.size)).foldl
        max 0
      let blank := List.replicate (address at_).length ' '
      let shown := formats.zipIdx.map fun (format, n) =>
        (if n = 0 then address at_ else blank) ++ format.line width block blockWidth line
      shown ++ dumpLines address formats width repeats fuel (at_ + width) line false rest

/-- Shows octets as numbers. -/
def dump (call : Call) (options : Options) : Deed :=
  let number (letter : Char) : Option Nat :=
    (options.value? letter).bind fun text =>
      match text.toList with
      | '0' :: 'x' :: digits => Digits.toNat? 16 digits
      | digits => size? digits
  let address (n : Nat) : List Char :=
    match options.value? 'A' with
    | some "n" => []
    | some "d" => zeroPadded 7 10 n
    | some "x" => zeroPadded 6 16 n
    | _ => zeroPadded 7 8 n
  match chosenFormats options with
  | .error message => call.complains message 1
  | .ok formats =>
    let (found, complaints) := call.allContents options.operands about
    let octets := (found.map fun entry => entry.2.toList).flatten
    let skipped := (number 'j').getD 0
    let kept := octets.drop skipped
    let kept := match number 'N' with
      | some n => kept.take n
      | none => kept
    let width := match options.value? 'w' with
      | some "" => 32
      | some text => (Digits.toNat? 10 text.toList).getD 16
      | none => 16
    if octets.length < skipped then call.complains "cannot skip past end of combined input" 1
    else
      let lines := dumpLines address formats (max width 1) (options.has 'v') (kept.length + 1)
        skipped [] false kept
      let last := if options.value? 'A' = some "n" then [] else [address (skipped + kept.length)]
      ⟨complaints ++ [(1, ofLines (lines ++ (if found = [] then [] else last)))],
        if complaints = [] then 0 else 1, call.files⟩

/-! ## 2. Other alphabets -/

/-- The letters of the alphabet of sixty-four. -/
def alphabet64 : List Char :=
  "ABCDEFGHIJKLMNOPQRSTUVWXYZabcdefghijklmnopqrstuvwxyz0123456789+/".toList

/-- The letters of the alphabet of thirty-two. -/
def alphabet32 : List Char := "ABCDEFGHIJKLMNOPQRSTUVWXYZ234567".toList

/-- Octets as digits of `bits` bits each, the last one filled up with zeros. -/
def digitsOf (bits : Nat) (octets : List Char) : List Nat :=
  let n := octets.foldl (fun n c => n * 256 + c.toNat) 0
  let count := (octets.length * 8 + bits - 1) / bits
  let n := n * Nat.pow 2 (count * bits - octets.length * 8)
  (List.range count).map fun k => n / Nat.pow 2 (bits * (count - 1 - k)) % Nat.pow 2 bits

/-- Octets in an alphabet; `group` octets make whole letters, and what is missing is filled up. -/
def encode (alphabet : List Char) (bits group : Nat) (octets : List Char) : List Char :=
  (chunks group (octets.length + 1) octets).flatMap fun piece =>
    let letters := (digitsOf bits piece).map fun d => (alphabet[d]?).getD '='
    letters ++ List.replicate (group * 8 / bits - letters.length) '='

/-- The octets that letters stand for, and whether all of them make sense. -/
def decode (alphabet : List Char) (bits group : Nat) (letters : List Char) : List Char × Bool :=
  let size := group * 8 / bits
  let piece (letters : List Char) : List Char × Bool :=
    let known := letters.takeWhile (· ≠ '=')
    let digits := known.filterMap fun c => alphabet.idxOf? c
    let count := digits.length * bits / 8
    let n := digits.foldl (fun n d => n * Nat.pow 2 bits + d) 0
    let n := n / Nat.pow 2 (digits.length * bits - count * 8)
    let octets := (List.range count).map fun k =>
      Char.ofNat (n / Nat.pow 256 (count - 1 - k) % 256)
    (octets, letters.length = size && digits.length = known.length)
  let step (state : List Char × Bool) (letters : List Char) : List Char × Bool :=
    if state.2 then
      let (octets, fine) := piece letters
      (state.1 ++ octets, fine)
    else state
  (chunks size (letters.length + 1) letters).foldl step ([], true)

/-- Writes octets in an alphabet, or reads them. -/
def recode (alphabet : List Char) (bits group : Nat) (call : Call) (options : Options) : Deed :=
  match options.operands with
  | _ :: extra :: _ => call.misused ("extra operand " ++ curly extra) 1
  | operands =>
    let operand := operands.headD "-"
    match call.contents operand with
    | .error problem => call.complains (about operand problem) 1
    | .ok text =>
      if options.has 'd' then
        let kept := text.toList.filter fun c =>
          if options.has 'i' then alphabet.contains c || c = '=' else c ≠ '\n'
        let (octets, fine) := decode alphabet bits group kept
        ⟨(1, String.ofList octets) :: (if fine then [] else [call.complaint "invalid input"]),
          if fine then 0 else 1, call.files⟩
      else
        let letters := encode alphabet bits group text.toList
        match Digits.toNat? 10 ((options.value? 'w').getD "76").toList with
        | none => call.complains ("invalid wrap size: " ++ curly ((options.value? 'w').getD "")) 1
        | some 0 => call.gives (String.ofList letters)
        | some width => call.gives (ofLines (chunks width (letters.length + 1) letters))

end RenderSync.Shell.Call
