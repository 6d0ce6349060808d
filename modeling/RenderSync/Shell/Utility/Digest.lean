import RenderSync.Shell.Utility.Dump

/-!
# Digests

Numbers that stand for a text.  The message is cut into blocks, behind it a bit, zeros and its
length; every block changes a state of a few words, and the state after the last one is the digest.
Constants that are bits of the roots of primes are worked out as such.
-/

namespace RenderSync.Shell.Digest

/-! ## 1. Constants -/

/-- The largest number whose power is not above `n`; it has at most `bits` bits. -/
def root (power n : Nat) : (bits : Nat) → Nat
  | 0 => 0
  | bits + 1 => go n bits 0
where
  /-- Fixes the bits from the highest one on. -/
  go (n : Nat) : (bits : Nat) → (found : Nat) → Nat
    | 0, found => if Nat.pow (found + 1) power ≤ n then found + 1 else found
    | bits + 1, found =>
      let next := found + Nat.pow 2 (bits + 1)
      go n bits (if Nat.pow next power ≤ n then next else found)

/-- The first primes. -/
def primes (count : Nat) : List Nat :=
  ((List.range 500).filter fun n =>
    2 ≤ n && (List.range n).all fun d => d < 2 || n % d ≠ 0).take count

/-- The first `bits` bits behind the point of a root of a number. -/
def rootBits (power bits n : Nat) : Nat :=
  root power (n * Nat.pow 2 (power * bits)) (bits + 6) % Nat.pow 2 bits

/-! ## 2. Blocks -/

/-- The message with a bit, zeros and its length behind it, so that it fills whole blocks. -/
def filled (block lengthSize : Nat) (bigFirst : Bool) (message : List Nat) : List Nat :=
  let used := message.length + 1 + lengthSize
  let zeros := (block - used % block) % block
  let bits := message.length * 8
  let length := (List.range lengthSize).map fun k => bits / Nat.pow 256 k % 256
  message ++ 0x80 :: List.replicate zeros 0 ++ (if bigFirst then length.reverse else length)

/-- The number that octets write, the most important one first. -/
def bigFirst (octets : List Nat) : Nat := octets.foldl (fun n d => n * 256 + d) 0

/-- The words of octets. -/
def words (size : Nat) (big : Bool) (octets : List Nat) : List Nat :=
  (Call.chunks size (octets.length + 1) octets).map fun piece =>
    bigFirst (if big then piece else piece.reverse)

/-- The hexadecimal digits of words. -/
def shown (size : Nat) (big : Bool) (state : List Nat) : String :=
  String.ofList (state.flatMap fun word =>
    let octets := (List.range size).map fun k => word / Nat.pow 256 k % 256
    (if big then octets.reverse else octets).flatMap (Digits.hex 2))

/-- The state after all blocks of a message. -/
def run (block lengthSize size : Nat) (big : Bool) (start : List Nat)
    (compress : List Nat → List Nat → List Nat) (message : List Nat) : List Nat :=
  let octets := filled block lengthSize big message
  (Call.chunks block (octets.length + 1) octets).foldl
    (fun state piece => compress state (words size big piece)) start

/-! ## 3. The first kind -/

/-- Adds words of thirty-two bits. -/
def add (words : List UInt32) : UInt32 := words.foldl (· + ·) 0

/-- Turns a word to the left. -/
def turnLeft (n : UInt32) (word : UInt32) : UInt32 := (word <<< n) ||| (word >>> (32 - n))

/-- The bits of sines. -/
def sines : List UInt32 :=
  [0xd76aa478, 0xe8c7b756, 0x242070db, 0xc1bdceee, 0xf57c0faf, 0x4787c62a, 0xa8304613, 0xfd469501,
    0x698098d8, 0x8b44f7af, 0xffff5bb1, 0x895cd7be, 0x6b901122, 0xfd987193, 0xa679438e, 0x49b40821,
    0xf61e2562, 0xc040b340, 0x265e5a51, 0xe9b6c7aa, 0xd62f105d, 0x02441453, 0xd8a1e681, 0xe7d3fbc8,
    0x21e1cde6, 0xc33707d6, 0xf4d50d87, 0x455a14ed, 0xa9e3e905, 0xfcefa3f8, 0x676f02d9, 0x8d2a4c8a,
    0xfffa3942, 0x8771f681, 0x6d9d6122, 0xfde5380c, 0xa4beea44, 0x4bdecfa9, 0xf6bb4b60, 0xbebfbc70,
    0x289b7ec6, 0xeaa127fa, 0xd4ef3085, 0x04881d05, 0xd9d4d039, 0xe6db99e5, 0x1fa27cf8, 0xc4ac5665,
    0xf4292244, 0x432aff97, 0xab9423a7, 0xfc93a039, 0x655b59c3, 0x8f0ccc92, 0xffeff47d, 0x85845dd1,
    0x6fa87e4f, 0xfe2ce6e0, 0xa3014314, 0x4e0811a1, 0xf7537e82, 0xbd3af235, 0x2ad7d2bb, 0xeb86d391]

/-- How far words are turned, by the quarter and the place in it. -/
def turns : List (List UInt32) :=
  [[7, 12, 17, 22], [5, 9, 14, 20], [4, 11, 16, 23], [6, 10, 15, 21]]

/-- A word of a list of words. -/
def at_ {α : Type} [Inhabited α] (items : List α) (n : Nat) : α := (items[n]?).getD default

/-- The start of the digests of a hundred and twenty-eight and of a hundred and sixty bits. -/
def firstWords : List UInt32 := [0x67452301, 0xefcdab89, 0x98badcfe, 0x10325476, 0xc3d2e1f0]

/-- A round of the digest of a hundred and twenty-eight bits. -/
def round128 (block : List UInt32) (state : List UInt32) (k : Nat) : List UInt32 :=
  match state with
  | [a, b, c, d] =>
    let (mixed, place) : UInt32 × Nat := match k / 16 with
      | 0 => ((b &&& c) ||| (~~~b &&& d), k)
      | 1 => ((d &&& b) ||| (~~~d &&& c), 5 * k + 1)
      | 2 => (b ^^^ c ^^^ d, 3 * k + 5)
      | _ => (c ^^^ (b ||| ~~~d), 7 * k)
    let sum := add [a, mixed, at_ sines k, at_ block (place % 16)]
    [d, b + turnLeft (at_ (at_ turns (k / 16)) (k % 4)) sum, b, c]
  | other => other

/-- Numbers as words. -/
def narrow (state : List Nat) : List UInt32 := state.map UInt32.ofNat

/-- Words as numbers. -/
def widen (state : List UInt32) : List Nat := state.map UInt32.toNat

/-- The sums of words at the same places. -/
def sums (a b : List UInt32) : List Nat := widen ((a.zip b).map fun (x, y) => x + y)

/-- The digest of a hundred and twenty-eight bits. -/
def digest128 (message : List Nat) : String :=
  let compress (state block : List Nat) : List Nat :=
    sums (narrow state) ((List.range 64).foldl (round128 (narrow block)) (narrow state))
  shown 4 false (run 64 8 4 false (widen (firstWords.take 4)) compress message)

/-- Words that grow out of those of a block; `next` makes one more from those there are, the last
one first. -/
def grown {α : Type} (next : List α → α) : (count : Nat) → List α → List α
  | 0, words => words.reverse
  | count + 1, words => grown next count (next words :: words)

/-- The digest of a hundred and sixty bits. -/
def digest160 (message : List Nat) : String :=
  let constants : List UInt32 := [0x5a827999, 0x6ed9eba1, 0x8f1bbcdc, 0xca62c1d6]
  let compress (state block : List Nat) : List Nat :=
    let all := grown (fun w => turnLeft 1 (at_ w 2 ^^^ at_ w 7 ^^^ at_ w 13 ^^^ at_ w 15)) 64
      (narrow block).reverse
    let step (state : List UInt32) (entry : UInt32 × Nat) : List UInt32 :=
      match state with
      | [a, b, c, d, e] =>
        let mixed := match entry.2 / 20 with
          | 0 => (b &&& c) ||| (~~~b &&& d)
          | 2 => (b &&& c) ||| (b &&& d) ||| (c &&& d)
          | _ => b ^^^ c ^^^ d
        [add [turnLeft 5 a, mixed, e, at_ constants (entry.2 / 20), entry.1], a, turnLeft 30 b, c,
          d]
      | other => other
    sums (narrow state) (all.zipIdx.foldl step (narrow state))
  shown 4 true (run 64 8 4 true (widen firstWords) compress message)

/-! ## 4. The second kind -/

/-- Words of the second kind of digests, with the amounts by which they are turned. -/
structure Wide where
  /-- How many bits a word has. -/
  bits : Nat
  rounds : Nat
  /-- Turns and shifts that mix the words of a block, and those that mix the state. -/
  small : List (Nat × Nat × Nat)
  large : List (Nat × Nat × Nat)

/-- Turns a word to the right. -/
def Wide.turn (wide : Wide) (n word : Nat) : Nat :=
  word / Nat.pow 2 n + word % Nat.pow 2 n * Nat.pow 2 (wide.bits - n)

/-- The rest of a number that a word holds. -/
def Wide.cut (wide : Wide) (n : Nat) : Nat := n % Nat.pow 2 wide.bits

/-- Three turns of a word together. -/
def Wide.mix (wide : Wide) (amounts : Nat × Nat × Nat) (word : Nat) : Nat :=
  wide.turn amounts.1 word ^^^ wide.turn amounts.2.1 word ^^^ wide.turn amounts.2.2 word

/-- Two turns and a shift of a word together. -/
def Wide.mixShift (wide : Wide) (amounts : Nat × Nat × Nat) (word : Nat) : Nat :=
  wide.turn amounts.1 word ^^^ wide.turn amounts.2.1 word ^^^ word / Nat.pow 2 amounts.2.2

/-- The bits of a word the other way round. -/
def Wide.complement (wide : Wide) (word : Nat) : Nat := Nat.pow 2 wide.bits - 1 - word

/-- Words of thirty-two bits. -/
def wide32 : Wide := ⟨32, 64, [(7, 18, 3), (17, 19, 10)], [(2, 13, 22), (6, 11, 25)]⟩

/-- Words of sixty-four bits. -/
def wide64 : Wide := ⟨64, 80, [(1, 8, 7), (19, 61, 6)], [(28, 34, 39), (14, 18, 41)]⟩

/-- A block changes the state. -/
def Wide.compress (wide : Wide) (constants state block : List Nat) : List Nat :=
  let next (words : List Nat) : Nat :=
    wide.cut (wide.mixShift (at_ wide.small 1) (at_ words 1) + at_ words 6 +
      wide.mixShift (at_ wide.small 0) (at_ words 14) + at_ words 15)
  let all := grown next (wide.rounds - 16) block.reverse
  let step (state : List Nat) (entry : Nat × Nat) : List Nat :=
    match state with
    | [a, b, c, d, e, f, g, h] =>
      let choice := (e &&& f) ^^^ (wide.complement e &&& g)
      let most := (a &&& b) ^^^ (a &&& c) ^^^ (b &&& c)
      let first := h + wide.mix (at_ wide.large 1) e + choice + entry.1 + entry.2
      let second := wide.mix (at_ wide.large 0) a + most
      [wide.cut (first + second), a, b, c, wide.cut (d + first), e, f, g]
    | other => other
  let mixed := (constants.zip all).foldl step state
  (state.zip mixed).map fun (x, y) => wide.cut (x + y)

/-- A digest of the second kind, of which so many hexadecimal digits are kept. -/
def Wide.digest (wide : Wide) (start : List Nat) (digits : Nat) (message : List Nat) : String :=
  let constants := (primes wide.rounds).map (rootBits 3 wide.bits)
  let size := wide.bits / 8
  let state := run (16 * size) (2 * size) size true start (wide.compress constants) message
  String.ofList ((shown size true state).toList.take digits)

/-- The start made of the square roots of eight primes. -/
def rootStart (bits skip : Nat) : List Nat := ((primes (skip + 8)).drop skip).map (rootBits 2 bits)

/-! ## 5. Sums -/

/-- The remainder of a message by a polynomial, with its length behind it. -/
def checkSum (message : List Nat) : Nat :=
  let polynomial := 0x04c11db7
  let bit (crc : Nat) : Nat :=
    let doubled := crc * 2 % Nat.pow 2 32
    if crc < Nat.pow 2 31 then doubled else doubled ^^^ polynomial
  let octet (crc d : Nat) : Nat :=
    (List.range 8).foldl (fun crc _ => bit crc) (crc ^^^ (d * Nat.pow 2 24))
  let rec lengthOctets : (fuel : Nat) → Nat → List Nat
    | 0, _ | _, 0 => []
    | fuel + 1, n => n % 256 :: lengthOctets fuel (n / 256)
  let crc := (message ++ lengthOctets 16 message.length).foldl octet 0
  Nat.pow 2 32 - 1 - crc

/-- The sum that is turned to the right before every octet. -/
def turningSum (message : List Nat) : Nat :=
  message.foldl (fun sum d => (sum / 2 + sum % 2 * 32768 + d) % 65536) 0

end RenderSync.Shell.Digest

namespace RenderSync.Shell.Call

/-- The digests by the names of their programs. -/
def digests : List (String × String × (List Nat → String)) :=
  let start384 := Digest.rootStart 64 8
  let start224 := (Digest.rootStart 64 8).map (· % Nat.pow 2 32)
  [("md5sum", "MD5", Digest.digest128), ("sha1sum", "SHA1", Digest.digest160),
    ("sha224sum", "SHA224", fun m => Digest.wide32.digest start224 56 m),
    ("sha256sum", "SHA256", fun m => Digest.wide32.digest (Digest.rootStart 32 0) 64 m),
    ("sha384sum", "SHA384", fun m => Digest.wide64.digest start384 96 m),
    ("sha512sum", "SHA512", fun m => Digest.wide64.digest (Digest.rootStart 64 0) 128 m)]

/-- The octets of a text as numbers. -/
def codes (text : String) : List Nat := text.toList.map Char.toNat

/-- Compares digests that were written down with those of files. -/
def checkDigests (call : Call) (options : Options) (digest : List Nat → String) (size : Nat) :
    Deed :=
  let (found, complaints) := call.allContents options.operands about
  let quiet := options.has 'κ'
  let silent := options.has 'σ'
  let step (state : Deed × Nat × Nat × Nat) (line : List Char) : Deed × Nat × Nat × Nat :=
    let (deed, bad, unread, strange) := state
    let hash := line.take size
    let name := String.ofList (line.drop (size + 2))
    if hash.length < size || !hash.all (fun c => (Digits.value? c).isSome) || name = "" ||
        (line.drop size).head? ≠ some ' ' then (deed, bad, unread, strange + 1)
    else
      match call.contents name with
      | .error problem =>
        let said := [call.complaint (about name problem), (1, name ++ ": FAILED open or read\n")]
        ({ deed with said := deed.said ++ (if silent then said.take 1 else said) }, bad, unread + 1,
          strange)
      | .ok text =>
        if digest (codes text) = String.ofList (hash.map Char.toLower) then
          let said := if quiet || silent then [] else [(1, name ++ ": OK\n")]
          ({ deed with said := deed.said ++ said }, bad, unread, strange)
        else
          let said := if silent then [] else [(1, name ++ ": FAILED\n")]
          ({ deed with said := deed.said ++ said }, bad + 1, unread, strange)
  let lines := found.flatMap fun entry => linesOf entry.2
  let (deed, bad, unread, strange) := lines.foldl step (⟨complaints, 0, call.files⟩, 0, 0, 0)
  let warning (n : Nat) (one many : String) : List (Nat × String) :=
    if n = 0 || silent then []
    else [call.complaint ("WARNING: " ++ decimal n ++ (if n = 1 then one else many))]
  if strange = lines.length then
    call.complains (((options.operands.head?.map fun name =>
      if name = "-" then "'standard input'" else asNeeded name).getD "'standard input'") ++
      ": no properly formatted checksum lines found") 1
  else
    let warnings :=
      warning strange " line is improperly formatted" " lines are improperly formatted" ++
        warning unread " listed file could not be read" " listed files could not be read" ++
        warning bad " computed checksum did NOT match" " computed checksums did NOT match"
    { deed with
      said := deed.said ++ warnings
      status := if complaints = [] && bad = 0 && unread = 0 then 0 else 1 }

/-- Prints digests of files, or compares them. -/
def digestFiles (tag : String) (digest : List Nat → String) (call : Call) (options : Options) :
    Deed :=
  if options.has 'c' then call.checkDigests options digest (digest []).length
  else
    call.eachContent options.operands 1 about fun name text =>
      let hash := digest (codes text)
      let ending := if options.has 'z' then "\x00" else "\n"
      let strange := name.toList.any fun c => c = '\\' || c = '\n' || c = '\r'
      let shown := String.ofList (name.toList.flatMap fun c =>
        if c = '\\' then "\\\\".toList else if c = '\n' then "\\n".toList
        else if c = '\r' then "\\r".toList else [c])
      let (lead, name) := if strange && !options.has 'z' then ("\\", shown) else ("", name)
      if options.has 'τ' then lead ++ tag ++ " (" ++ name ++ ") = " ++ hash ++ ending
      else lead ++ hash ++ " " ++ (if options.has 'b' then "*" else " ") ++ name ++ ending

/-- Prints the sums of files with their sizes. -/
def checkSums (call : Call) (options : Options) : Deed :=
  match options.value? 'a' with
  | some kind =>
    match digests.find? fun entry => entry.2.1.toLower = kind with
    | some (_, tag, digest) =>
      let tagged := if options.has 'υ' then options
        else { options with chosen := ('τ', "") :: options.chosen }
      call.digestFiles tag digest tagged
    | none => plain
  | none => plain
where
  /-- The remainder and the size. -/
  plain : Deed :=
    call.eachContent options.operands 1 about fun name text =>
      decimal (Digest.checkSum (codes text)) ++ " " ++ decimal text.length ++
        (if options.operands = [] then "" else " " ++ name) ++ "\n"

/-- Prints the short sums of files with how many blocks they have. -/
def shortSums (call : Call) (options : Options) : Deed :=
  call.eachContent options.operands 1 about fun name text =>
    let system := options.has 's'
    let sum := if system then
        let total := (codes text).foldl (· + ·) 0
        let folded := total % 65536 + total % Nat.pow 2 32 / 65536
        folded % 65536 + folded / 65536
      else Digest.turningSum (codes text)
    let block := if system then 512 else 1024
    let digits := if system then decimal sum else String.ofList (zeroPaddedFive sum)
    let blocks := (text.length + block - 1) / block
    digits ++ " " ++ (if system then decimal blocks else padded 5 blocks) ++
      (if options.operands = [] then "" else " " ++ name) ++ "\n"
where
  /-- Five digits. -/
  zeroPaddedFive (n : Nat) : List Char :=
    List.replicate (5 - (decimal n).length) '0' ++ (decimal n).toList

end RenderSync.Shell.Call
