import RenderSync.Failure
import RenderSync.Text.Blank
import RenderSync.Text.Digits

/-!
# Hosts

The text of a host is a number of four parts with points (or fewer, where the last part stands for
the rest), a number of eight groups with colons, or a name.  `Host.ofText` says which, and for a
name whether there could be such a host at all: this host knows no other name than its own, so that
the question remains who else to ask.
-/

namespace RenderSync

/-- What the text of a host stands for. -/
inductive Host where
  /-- A number of thirty-two bits. -/
  | short (number : Nat)
  /-- Eight groups of sixteen bits; the flag says that a link is named as well. -/
  | long (groups : List Nat) (isScoped : Bool)
  /-- The name of some other host. -/
  | name
  /-- The name of no host. -/
  | nonsense
deriving DecidableEq, Repr, Inhabited

namespace Host

/-! ## 1. Numbers with points -/

/-- A number as it is usually written in a program: `0x` and `0` in front say the base. -/
def number? : List Char → Option Nat
  | '0' :: 'x' :: digits | '0' :: 'X' :: digits => Digits.toNat? 16 digits
  | '0' :: c :: digits => Digits.toNat? 8 (c :: digits)
  | digits => Digits.toNat? 10 digits

/-- One to four parts, every one but the last below 256. -/
def joined? (sum bits : Nat) : List Nat → Option Nat
  | [] => none
  | [last] => if last < Nat.pow 2 bits then some (sum * Nat.pow 2 bits + last) else none
  | part :: rest =>
    if part < 256 && 8 < bits then joined? (sum * 256 + part) (bits - 8) rest else none

/-- The number of a text with points. -/
def short? (text : List Char) : Option Nat :=
  ((Text.splitAt '.' text).mapM number?).bind (joined? 0 32)

/-! ## 2. Groups with colons -/

/-- A part below 256 without a zero in front. -/
def part? (digits : List Char) : Option Nat :=
  if digits.head? = some '0' && digits ≠ ['0'] then none
  else (Digits.toNat? 10 digits).bind fun n => if n < 256 then some n else none

/-- One to four hexadecimal digits. -/
def group? (digits : List Char) : Option Nat :=
  if digits.length ≤ 4 then Digits.toNat? 16 digits else none

/-- Groups between colons; four parts with points may stand for the last two. -/
def groups? : List (List Char) → Option (List Nat)
  | [] => some []
  | [last] =>
    match (Text.splitAt '.' last).mapM part? with
    | some [a, b, c, d] => some [a * 256 + b, c * 256 + d]
    | _ => (group? last).map fun n => [n]
  | digits :: rest => do
    let n ← group? digits
    return n :: (← groups? rest)

/-- The text before and behind the first two colons side by side. -/
def cutAtGap : List Char → Option (List Char × List Char)
  | ':' :: ':' :: rest => some ([], rest)
  | c :: rest => (cutAtGap rest).map fun (front, back) => (c :: front, back)
  | [] => none

/-- Groups in front of the gap or behind it, perhaps none. -/
def side? (text : List Char) : Option (List Nat) :=
  if text = [] then some [] else groups? (Text.splitAt ':' text)

/-- The eight groups of a text; two colons stand for zeros, one at least. -/
def long? (text : List Char) : Option (List Nat) :=
  match cutAtGap text with
  | none => (side? text).bind fun groups => if groups.length = 8 then some groups else none
  | some (front, back) => do
    if front.contains '.' then none
    let front ← side? front
    let back ← side? back
    if 7 < front.length + back.length then none
    return front ++ List.replicate (8 - front.length - back.length) 0 ++ back

/-- The groups of a text which may name a link behind `%`. -/
def scoped? (text : List Char) : Option Host :=
  match text.span (· ≠ '%') with
  | (groups, []) => (long? groups).map fun groups => long groups false
  | (groups, _ :: link) =>
    if (Digits.toNat? 10 link).any (· < Nat.pow 2 32) then
      (long? groups).map fun groups => long groups true
    else none

/-! ## 3. Names -/

/-- The characters that a text with escapes stands for: a point that an escape stands for does not
separate. -/
def unescaped : List Char → Option (List (Char × Bool))
  | [] => some []
  | '\\' :: a :: b :: c :: rest =>
    match Digits.toNat? 10 [a, b, c] with
    | some n => if n < 256 then (unescaped rest).map ((Char.ofNat n, true) :: ·) else none
    | none =>
      if Digits.isDecimal a then none else (unescaped (b :: c :: rest)).map ((a, true) :: ·)
  | '\\' :: a :: rest =>
    if Digits.isDecimal a then none else (unescaped rest).map ((a, true) :: ·)
  | ['\\'] => none
  | c :: rest => (unescaped rest).map ((c, false) :: ·)

/-- Labels between points. -/
def labels : List (Char × Bool) → List (List Char)
  | [] => [[]]
  | ('.', false) :: rest => [] :: labels rest
  | (c, _) :: rest =>
    match labels rest with
    | label :: others => (c :: label) :: others
    | [] => [[c]]

/-- Letters, digits and the two signs that a name may have. -/
def belongsToName (c : Char) : Bool := c.isAlphanum || c = '-' || c = '_'

/-- There could be a host with this name. -/
def isName (text : List Char) : Bool :=
  match unescaped text with
  | none => false
  | some written =>
    let all := labels written
    let all := if 1 < all.length && all.getLast? = some [] then all.dropLast else all
    text = ['.'] ||
      (written.head?.map Prod.fst) ≠ some '-' &&
        all.all (fun label => label ≠ [] && label.length ≤ 63 && label.all belongsToName) &&
        (all.map (·.length + 1)).foldl (· + ·) 0 ≤ 254

/-- This host by its name. -/
def isOwnName (text : List Char) : Bool := text.map Char.toLower = "localhost".toList

/-- What a text stands for. -/
def ofText (text : String) : Host :=
  let text := text.toList
  let bracketed : Option Host := match text with
    | '[' :: rest => if rest.getLast? = some ']' then scoped? rest.dropLast else none
    | _ => none
  match bracketed <|> (short? text).map short <|> scoped? text with
  | some host => host
  | none =>
    if isOwnName text then .short 0x7F000001 else if isName text then .name else .nonsense

/-! ## 4. Reaching hosts -/

/-- What is said about a host while no link is up, and nobody answers who knows names. -/
def faultAlone : Host → SocketFault
  | short _ => .networkUnreachable
  | long groups isScoped =>
    let first := groups.headD 0
    if groups.take 6 = [0, 0, 0, 0, 0, 0xFFFF] || 0xFF00 ≤ first then .networkUnreachable
    else if first / 64 = 0x3FA && !isScoped then .invalidArgument
    else .addressUnavailable
  | name => .lookupFailed
  | nonsense => .unknownHost

/-- The host is this one. -/
def isLoopback : Host → Bool
  | short n => n = 0 || n / 0x1000000 = 127
  | _ => false

end Host

end RenderSync
