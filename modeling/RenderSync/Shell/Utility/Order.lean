import RenderSync.Shell.Utility.Lines
import RenderSync.BinaryFloat.Text

/-!
# Order

Sorting lines.  A key is a part of a line with a way to compare it; keys are looked at one after
the other, and lines that no key tells apart are compared as a whole.
-/

namespace RenderSync.Shell.Call

/-! ## 1. Ways to compare -/

/-- A decimal number in front of a text: its sign, its digits, and how many of these are behind the
point. -/
def leadingDecimal (text : List Char) : Int × Nat :=
  let text := text.dropWhile fun c => c = ' ' || c = '\t'
  let (negative, text) : Bool × List Char := match text with
    | '-' :: rest => (true, rest)
    | rest => (false, rest)
  let (whole, rest) := text.span Digits.isDecimal
  let fraction := match rest with
    | '.' :: rest => rest.takeWhile Digits.isDecimal
    | _ => []
  let n : Int := Digits.toNat (whole ++ fraction)
  (if negative then -n else n, fraction.length)

/-- The order of two decimal numbers. -/
def compareDecimal (a b : Int × Nat) : Ordering :=
  compare (a.1 * Nat.pow 10 b.2) (b.1 * Nat.pow 10 a.2)

/-- What the letter behind a number stands for: more than any number without it. -/
def unitOf (text : List Char) : Int :=
  let text := text.dropWhile fun c => c = ' ' || c = '\t'
  let (negative, text) : Bool × List Char := match text with
    | '-' :: rest => (true, rest)
    | rest => (false, rest)
  let rest := text.dropWhile fun c => Digits.isDecimal c || c = '.'
  let isZero :=
    (text.takeWhile fun c => Digits.isDecimal c || c = '.').all fun c => c = '0' || c = '.'
  let order : Nat := match rest.head? with
    | some 'k' => 1
    | some c => (("KMGTPEZYRQ".toList.idxOf? c).map (· + 1)).getD 0
    | none => 0
  if isZero then 0 else if negative then -(order : Int) else order

/-- The month that a text begins with. -/
def monthOf (text : List Char) : Nat :=
  let head :=
    String.ofList (((text.dropWhile fun c => c = ' ' || c = '\t').take 3).map Char.toUpper)
  ((["JAN", "FEB", "MAR", "APR", "MAY", "JUN", "JUL", "AUG", "SEP", "OCT", "NOV", "DEC"].idxOf?
    head).map (· + 1)).getD 0

/-- The place of an octet among versions: tildes come first, letters before other signs. -/
def versionPlace (c : Option Char) : Int :=
  match c with
  | none => -1
  | some c =>
    if Digits.isDecimal c then 0
    else if classHolds "alpha" c then c.toNat
    else if c = '~' then -2
    else (c.toNat : Int) + 256

/-- The order of two versions without their endings: runs of digits are numbers. -/
def compareVersions : (fuel : Nat) → List Char → List Char → Ordering
  | 0, _, _ | _, [], [] => .eq
  | fuel + 1, a, b =>
    let isOther (c : Char) : Bool := !Digits.isDecimal c
    let headA := a.takeWhile isOther
    let headB := b.takeWhile isOther
    let signs := (List.range (max headA.length headB.length)).findSome? fun n =>
      -- Digits behind the shorter one count as nothing.
      let place (head whole : List Char) : Int :=
        match head[n]? with
        | some c => versionPlace (some c)
        | none => if whole.length > head.length then 0 else versionPlace none
      let found := compare (place headA a) (place headB b)
      if found = .eq then none else some found
    match signs with
    | some found => found
    | none =>
      let restA := a.drop headA.length
      let restB := b.drop headB.length
      let digitsA := restA.takeWhile Digits.isDecimal
      let digitsB := restB.takeWhile Digits.isDecimal
      let found := compare (Digits.toNat digitsA) (Digits.toNat digitsB)
      if found ≠ .eq then found
      else compareVersions fuel (restA.drop digitsA.length) (restB.drop digitsB.length)

/-- A name without endings such as `.tar.gz`: dots with a letter or a tilde behind them. -/
def withoutEnding (text : List Char) : List Char :=
  let isPart (piece : List Char) : Bool :=
    match piece with
    | c :: rest => (classHolds "alpha" c || c = '~') &&
        rest.all fun d => classHolds "alnum" d || d = '~'
    | [] => false
  let pieces := Text.splitAt '.' text
  let kept := (pieces.reverse.dropWhile isPart).reverse
  if kept = [] then text.take ((pieces.headD []).length) else ['.'].intercalate kept

/-- The order of two names with versions in them. -/
def versionOrder (a b : List Char) : Ordering :=
  if a = b then .eq
  else if a = [] then .lt
  else if b = [] then .gt
  else
    let isHidden (text : List Char) : Bool := text.head? = some '.'
    match isHidden a, isHidden b with
    | true, false => .lt
    | false, true => .gt
    | _, _ =>
      let fuel := a.length + b.length + 2
      let found := compareVersions fuel (withoutEnding a) (withoutEnding b)
      if found ≠ .eq then found else compareVersions fuel a b

/-- The number with a fraction that a text begins with, as a double; what is none comes first. -/
def generalNumber (text : List Char) : Option Nat :=
  let body := text.dropWhile isSpace
  let lengths := (List.range (body.length + 1)).reverse
  lengths.findSome? fun n => BinaryFloat.double.ofText? (body.take n)

/-- The order of two doubles. -/
def compareDoubles (a b : Nat) : Ordering :=
  let double := BinaryFloat.double
  let rank (bits : Nat) : Nat := if double.isNaN bits then 0 else 1
  if rank a ≠ rank b then compare (rank a) (rank b)
  else
    let signed (bits : Nat) : Int × Nat :=
      if double.isFinite bits then
        let (num, den) := double.quotient bits
        (if double.isNegative bits then -(num : Int) else num, den)
      else (if double.isNegative bits then -(Nat.pow 2 1100 : Nat) else (Nat.pow 2 1100 : Nat), 1)
    let (m, p) := signed a
    let (n, q) := signed b
    compare (m * q) (n * p)

/-! ## 2. Keys -/

/-- How a key is compared, by the letters of its options. -/
structure SortKey where
  /-- The first field, and how many octets of it are left out. -/
  first : Nat × Nat
  /-- The last field, and how many octets of it belong to the key; all of them if zero. -/
  last : Option (Nat × Nat)
  /-- Blanks in front of the first and the last field are left out. -/
  blankFirst : Bool
  blankLast : Bool
  letters : List Char
deriving Repr

/-- The letters that say how a key is compared. -/
def orderLetters : String := "bdfghinMRrV"

/-- Why a key makes no sense. -/
inductive KeyFault where
  | start (text : List Char)
  | zeroField
  | zeroPlace
  | stop (text : List Char)
  | stray (text : List Char)

/-- A place in a line: a field, an octet of it, and letters. -/
def keyPlace (text : List Char) : Option (Nat × Option Nat × List Char × List Char) :=
  let (digits, rest) := text.span Digits.isDecimal
  let (place, rest) : Option (List Char) × List Char := match rest with
    | '.' :: rest => let (digits, rest) := rest.span Digits.isDecimal; (some digits, rest)
    | rest => (none, rest)
  let (letters, rest) := rest.span fun c => orderLetters.toList.contains c
  (Digits.toNat? 10 digits).map fun field => (field, place.map Digits.toNat, letters, rest)

/-- A key as it is written. -/
def sortKey? (text : String) : Except KeyFault SortKey :=
  let stray (rest : List Char) : Except KeyFault SortKey := .error (.stray rest)
  match keyPlace text.toList with
  | none => .error (.start text.toList)
  | some (0, _) => .error .zeroField
  | some (_, some 0, _) => .error .zeroPlace
  | some (field, place, letters, rest) =>
    let first := (field, (place.getD 1) - 1)
    match rest with
    | [] => .ok ⟨first, none, letters.contains 'b', false, letters.filter (· ≠ 'b')⟩
    | ',' :: rest =>
      match keyPlace rest with
      | none => .error (.stop rest)
      | some (0, _) => .error .zeroField
      | some (end_, place, more, []) =>
        .ok ⟨first, some (end_, place.getD 0), letters.contains 'b', more.contains 'b',
          (letters ++ more).filter (· ≠ 'b')⟩
      | some (_, _, _, left) => stray left
    | rest => stray rest

/-- A line behind its first fields; without a separator, blanks belong to the field behind
them. -/
def behindFields (separator : Option Char) : (count : Nat) → List Char → List Char
  | 0, line => line
  | count + 1, line =>
    match separator with
    | some c => behindFields separator count ((line.dropWhile (· ≠ c)).drop 1)
    | none => behindFields separator count (withoutFields 1 line)

/-- The part of a line that a key looks at. -/
def SortKey.part (key : SortKey) (separator : Option Char) (line : List Char) : List Char :=
  let isBlank (c : Char) : Bool := c = ' ' || c = '\t'
  let skip (skips : Bool) (text : List Char) : List Char :=
    if skips then text.dropWhile isBlank else text
  let start :=
    (skip key.blankFirst (behindFields separator (key.first.1 - 1) line)).drop key.first.2
  match key.last with
  | none => start
  | some (field, 0) =>
    let rest := behindFields separator field line
    let ends := line.length - rest.length
    let ends := if rest ≠ [] && separator.isSome then ends - 1 else ends
    let ends := match separator with
      | some c => if rest = [] && (behindFields separator (field - 1) line).contains c then ends - 1
        else ends
      | none => ends
    let from_ := line.length - start.length
    start.take (ends - from_)
  | some (field, place) =>
    let rest := (skip key.blankLast (behindFields separator (field - 1) line)).drop place
    start.take (start.length - rest.length)

/-- The order that a key makes. -/
def SortKey.compare (key : SortKey) (separator : Option Char) (a b : List Char) : Ordering :=
  let a := key.part separator a
  let b := key.part separator b
  let has := key.letters.contains
  let kept (text : List Char) : List Char :=
    let text := if has 'd' then text.filter fun c => classHolds "alnum" c || c = ' ' || c = '\t'
      else if has 'i' then text.filter fun c => classHolds "print" c
      else text
    if has 'f' then text.map Char.toUpper else text
  let found :=
    if has 'n' then compareDecimal (leadingDecimal a) (leadingDecimal b)
    else if has 'h' then
      (Ord.compare (unitOf a) (unitOf b)).then
        (compareDecimal (leadingDecimal a) (leadingDecimal b))
    else if has 'g' then
      match generalNumber a, generalNumber b with
      | none, none => .eq
      | none, some _ => .lt
      | some _, none => .gt
      | some a, some b => compareDoubles a b
    else if has 'M' then Ord.compare (monthOf a) (monthOf b)
    else if has 'V' then versionOrder (kept a) (kept b)
    else Ord.compare (String.ofList (kept a)) (String.ofList (kept b))
  if has 'r' then found.swap else found

/-- The first of two orders that tells two lines apart. -/
def firstOrder (orders : List Ordering) : Ordering :=
  (orders.find? (· ≠ .eq)).getD .eq

/-! ## 3. Sorting -/

/-- How lines are sorted. -/
structure Sorting where
  keys : List SortKey
  separator : Option Char
  /-- Lines that no key tells apart stay in their order, or only the first of them stays. -/
  stable : Bool
  unique : Bool
  reversed : Bool

namespace Sorting

/-- The order that the keys make. -/
def byKeys (sorting : Sorting) (a b : List Char) : Ordering :=
  firstOrder (sorting.keys.map fun key => key.compare sorting.separator a b)

/-- The order of lines. -/
def order (sorting : Sorting) (a b : List Char) : Ordering :=
  let found := sorting.byKeys a b
  if found ≠ .eq || sorting.stable || sorting.unique then found
  else
    let found := Ord.compare (String.ofList a) (String.ofList b)
    if sorting.reversed then found.swap else found

/-- Lines in order. -/
def sort (sorting : Sorting) (lines : List (List Char)) : List (List Char) :=
  let sorted := lines.mergeSort fun a b => (sorting.order a b).isLE
  if sorting.unique then
    (sorted.foldl (fun kept line =>
      match kept.head? with
      | some before => if sorting.byKeys before line = .eq then kept else line :: kept
      | none => [line]) []).reverse
  else sorted

/-- The first line that is not in order, with its number. -/
def disorder? (sorting : Sorting) : (number : Nat) → List (List Char) → Option (Nat × List Char)
  | number, a :: b :: rest =>
    let found := sorting.order a b
    if found = .gt || (sorting.unique && found = .eq) then some (number + 1, b)
    else sorting.disorder? (number + 1) (b :: rest)
  | _, _ => none

end Sorting

/-- A complaint about a key. -/
def keyProblem (text : String) : KeyFault → String
  | .start rest => "invalid number at field start: invalid count at start of " ++
      curly (String.ofList rest)
  | .zeroField => "field number is zero: invalid field specification " ++ curly text
  | .zeroPlace => "character offset is zero: invalid field specification " ++ curly text
  | .stop rest => "invalid number after ',': invalid count at start of " ++
      curly (String.ofList rest)
  | .stray _ => "stray character in field spec: invalid field specification " ++ curly text

/-- Lines in order. -/
def sort (call : Call) (options : Options) : Deed :=
  let general := (options.chosen.map Prod.fst).filter orderLetters.toList.contains
  match (options.values 'k').mapM fun text =>
      (sortKey? text).mapError fun fault => (text, fault) with
  | .error (text, fault) => call.complains (keyProblem text fault) 2
  | .ok written =>
    let whole : SortKey := ⟨(1, 0), none, general.contains 'b', general.contains 'b',
      general.filter (· ≠ 'b')⟩
    let keys := written.map fun key =>
      if key.letters = [] && !key.blankFirst && !key.blankLast then
        { key with letters := whole.letters, blankFirst := whole.blankFirst
                   blankLast := whole.blankLast }
      else key
    let sorting : Sorting :=
      { keys := if keys.isEmpty then [whole] else keys
        separator := (options.value? 't').bind fun text =>
          if text = "\\0" then some '\x00' else text.toList.head?
        stable := options.has 's'
        unique := options.has 'u'
        reversed := general.contains 'r' }
    let end_ := separatorOf options
    let operands := orInput options.operands
    match operands.findSome? fun operand =>
      match call.contents operand with
      | .ok _ => none
      | .error problem => some (operand, problem) with
    | some (operand, problem) =>
      let act :=
        if problem = PathTrouble.isDirectory.message then "read failed: " else "cannot read: "
      call.complains (act ++ about operand problem) 2
    | none =>
      let texts := operands.map fun operand => (operand, (call.contents operand).toOption.getD "")
      let checks := options.last? "cC"
      match checks, operands with
      | some _, _ :: extra :: _ =>
        call.complains ("extra operand " ++ inQuotes extra ++ " not allowed with -" ++
          ((checks.map Char.toString).getD "")) 2
      | some letter, _ =>
        let (name, text) := (texts.head?).getD ("-", "")
        match sorting.disorder? 1 (linesBy end_ text) with
        | none => call.answers 0
        | some (number, line) =>
          if letter = 'C' || options.value? 'c' = some "quiet" || options.value? 'c' = some "silent"
          then call.answers 1
          else call.complains (asNeeded name ++ ":" ++ decimal number ++ ": disorder: " ++
            String.ofList line) 1
      | none, _ =>
        let lines := texts.flatMap fun entry => linesBy end_ entry.2
        let output := ofLinesBy end_ (sorting.sort lines)
        match options.value? 'o' with
        | none => call.gives output
        | some target =>
          match call.writing call.files target output.toList with
          | some files => ⟨[], 0, files⟩
          | none => call.complains ("open failed: " ++ about target (call.unreadable target)) 2

/-! ## 4. Other orders -/

/-- The items of a relation in an order that keeps to it; `fuel` bounds how many there are. -/
def inOrder (pairs : List (String × String)) : (fuel : Nat) → (waiting : List String) →
    (left : List (String × Nat)) → List String
  | 0, _, _ => []
  | _, [], _ => []
  | fuel + 1, item :: waiting, left =>
    let followers := ((pairs.filter fun pair => pair.1 = item).map Prod.snd).reverse
    let (waiting, left) := followers.foldl (fun (waiting, left) next =>
      let count := ((left.lookup next).getD 0) - 1
      let left := left.map fun entry => if entry.1 = next then (next, count) else entry
      (if count = 0 then waiting ++ [next] else waiting, left)) (waiting, left)
    item :: inOrder pairs fuel waiting left

/-- The items of a relation in an order that keeps to it. -/
def sortRelation (call : Call) (options : Options) : Deed :=
  let words (text : String) : List String :=
    ((Text.splitAt ' ' (text.toList.map fun c => if isSpace c then ' ' else c)).filter
      (· ≠ [])).map String.ofList
  let rec pairsOf : List String → List (String × String)
    | a :: b :: rest => (a, b) :: pairsOf rest
    | _ => []
  match call.contents (options.operands.headD "-") with
  | .error problem => call.complains (about (options.operands.headD "-") problem) 1
  | .ok text =>
    let items := words text
    if items.length % 2 = 1 then
      call.complains (asNeeded (options.operands.headD "-") ++
        ": input contains an odd number of tokens") 1
    else
      let pairs := (pairsOf items).filter fun pair => pair.1 ≠ pair.2
      let names := (items.eraseDups).mergeSort (· ≤ ·)
      let left := names.map fun name => (name, (pairs.filter (·.2 = name)).length)
      let first := (left.filter (·.2 = 0)).map Prod.fst
      call.gives (String.join ((inOrder pairs (names.length + 1) first left).map (· ++ "\n")))

/-- Lines, numbers or words in an order that nobody can foretell. -/
def shuffle (call : Call) (options : Options) : Deed :=
  let end_ := separatorOf options
  let chosen (items : List (List Char)) : List (List Char) :=
    match (options.value? 'n').bind fun text => Digits.toNat? 10 text.toList with
    | some n => items.take n
    | none => items
  let shown (items : List (List Char)) : Deed := call.gives (ofLinesBy end_ (chosen items.reverse))
  match options.value? 'i' with
  | some range =>
    match (Text.splitAt '-' range.toList).mapM fun digits => Digits.toNat? 10 digits with
    | some [first, last] =>
      shown ((List.range (last + 1 - first)).map fun n => (decimal (first + n)).toList)
    | _ => call.complains ("invalid input range: " ++ curly range) 1
  | none =>
    if options.has 'e' then shown (options.operands.map String.toList)
    else
      match call.contents (options.operands.headD "-") with
      | .error problem => call.complains (about (options.operands.headD "-") problem) 1
      | .ok text => shown (linesBy end_ text)

end RenderSync.Shell.Call
