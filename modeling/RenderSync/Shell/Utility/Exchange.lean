import RenderSync.Shell.Format
import RenderSync.Shell.Utility.Basic

/-!
# Exchanging octets

A set of octets is written as a list of octets, ranges, classes and repetitions.  Octets of the
first set are exchanged for those of the second one at the same place, or taken away, and runs of
equal octets are made one.
-/

namespace RenderSync.Shell.Call

/-- A part of a set. -/
inductive SetPart where
  | range (first last : Char)
  | named (name : String)
  /-- An octet so many times; as often as is needed if nothing is said. -/
  | many (c : Char) (count : Option Nat)
deriving DecidableEq, Repr

/-- The octets from one to another. -/
def octetsFrom (first last : Char) : List Char :=
  (List.range (last.toNat + 1 - first.toNat)).map fun n => Char.ofNat (first.toNat + n)

/-- All octets. -/
def octets : List Char := octetsFrom '\x00' '\u00ff'

/-- The next octet of a set, which a backslash may stand for; whether it was written as itself. -/
def setOctet : List Char → Char × Bool × List Char
  | '\\' :: c :: rest =>
    match Format.escapes.lookup c with
    | some d => if c = 'e' then (c, false, rest) else (d, false, rest)
    | none =>
      if isDigitOf 8 c then
        let (n, left) := Format.octal 3 (c :: rest)
        let (n, left) := if n > 255 then Format.octal 2 (c :: rest) else (n, left)
        (Char.ofNat n, false, left)
      else (c, false, rest)
  | c :: rest => (c, true, rest)
  | [] => ('\x00', true, [])

/-- Names of classes. -/
def classNames : List String :=
  ["alnum", "alpha", "blank", "cntrl", "digit", "graph", "lower", "print", "punct", "space",
    "upper", "xdigit"]

/-- A repetition behind its bracket, such as `x*3]`. -/
def repetition? (text : List Char) : Option (SetPart × List Char) :=
  let (c, _, rest) := setOctet text
  match text, rest with
  | _ :: _, '*' :: rest =>
    let (digits, rest) := rest.span Digits.isDecimal
    match rest with
    | ']' :: rest =>
      let base := if digits.head? = some '0' then 8 else 10
      if digits = [] then some (.many c none, rest)
      else (Digits.toNat? base digits).map fun n =>
        (.many c (if n = 0 then none else some n), rest)
    | _ => none
  | _, _ => none

/-- The parts of a set; `fuel` bounds them. -/
def setParts : (fuel : Nat) → List Char → Except String (List SetPart)
  | 0, _ | _, [] => .ok []
  | fuel + 1, text =>
    let single : Except String (List SetPart) := do
      let (c, _, rest) := setOctet text
      match rest with
      | '-' :: next :: after =>
        let (d, _, left) := setOctet (next :: after)
        if d < c then
          let shown (text left : List Char) : String :=
            String.ofList (text.take (text.length - left.length))
          throw ("range-endpoints of '" ++ shown text left ++
            "' are in reverse collating sequence order")
        else return .range c d :: (← setParts fuel left)
      | _ => return .range c c :: (← setParts fuel rest)
    match text with
    | '[' :: ':' :: rest =>
      let (name, after) := rest.span (· ≠ ':')
      match after with
      | ':' :: ']' :: after =>
        let name := String.ofList name
        if classNames.contains name then do return .named name :: (← setParts fuel after)
        else .error ("invalid character class " ++ curly name)
      | _ => single
    | '[' :: '=' :: c :: '=' :: ']' :: rest => do return .range c c :: (← setParts fuel rest)
    | '[' :: rest =>
      match repetition? rest with
      | some (part, rest) => do return part :: (← setParts fuel rest)
      | none => single
    | _ => single

/-- The octets of a part; one that fills up gets as many as are asked for. -/
def SetPart.octets (fill : Nat) : SetPart → List Char
  | range first last => octetsFrom first last
  | named name => Call.octets.filter (classHolds name)
  | many c count => List.replicate (count.getD fill) c

/-- The octets of a set that is to have a length. -/
def setOctets (length : Nat) (parts : List SetPart) : List Char :=
  let fixed := (parts.map fun part => (part.octets 0).length).foldl (· + ·) 0
  parts.flatMap (SetPart.octets (length - fixed))

/-- A class of letters that has a counterpart. -/
def isCase : SetPart → Bool
  | .named name => name = "lower" || name = "upper"
  | _ => false

/-- The places where the parts of a set begin. -/
def partPlaces (length : Nat) (parts : List SetPart) : List (Nat × SetPart) :=
  let fixed := (parts.map fun part => (part.octets 0).length).foldl (· + ·) 0
  (parts.foldl (fun (found, place) part =>
    (found ++ [(place, part)], place + (part.octets (length - fixed)).length))
    (([] : List (Nat × SetPart)), 0)).1

/-- Which octets are exchanged for which. -/
def exchangePairs (first : List Char) (firstParts secondParts : List SetPart)
    (complement truncates : Bool) : Except String (List (Char × Char)) := do
  let second := setOctets first.length secondParts
  let isBad : SetPart → Bool
    | part@(.named _) => !isCase part
    | _ => false
  if secondParts.any isBad then
    throw ("when translating, the only character classes that may appear in\n" ++
      "string2 are 'upper' and 'lower'")
  let cases := (partPlaces first.length secondParts).filter fun entry => isCase entry.2
  let starts := ((partPlaces 0 firstParts).filter fun entry => isCase entry.2).map Prod.fst
  if !complement && cases.any fun entry => !starts.contains entry.1 then
    throw "misaligned [:upper:] and/or [:lower:] construct"
  if second = [] && !truncates then
    throw "when not truncating set1, string2 must be non-empty"
  if truncates then return (first.zip second).reverse
  if second.length < first.length && secondParts.getLast?.any isCase then
    throw ("when translating with string1 longer than string2,\n" ++
      "the latter string must not end with a character class")
  let filler := List.replicate (first.length - second.length) (second.getLast?.getD ' ')
  return (first.zip (second ++ filler)).reverse

/-- Runs of an octet out of a set made one. -/
def squeeze (among : List Char) (text : List Char) : List Char :=
  (text.foldl (fun kept c =>
    if kept.head? = some c && among.contains c then kept else c :: kept) []).reverse

/-- Exchanges, takes away or joins octets. -/
def exchange (call : Call) : Deed :=
  call.withGrammar ⟨"cCdst", "", "", [("complement", 'c'), ("delete", 'd'),
      ("squeeze-repeats", 's'), ("truncate-set1", 't')], true⟩ 1 fun options =>
    let deletes := options.has 'd'
    let squeezes := options.has 's'
    let extra (text note : String) : Deed :=
      ⟨[call.complaint text, (2, note), (2, hint call.name ++ "\n")], 1, call.files⟩
    let translates := options.operands.length = 2 && !deletes
    match options.operands with
    | [] => call.misused "missing operand" 1
    | _ :: _ :: text :: _ => extra ("extra operand " ++ curly text) ""
    | [only] =>
      if deletes == squeezes then
        extra ("missing operand after " ++ curly only) (if deletes
          then "Two strings must be given when both deleting and squeezing repeats.\n"
          else "Two strings must be given when translating.\n")
      else go options only "" translates
    | [first, second] =>
      if deletes && !squeezes then
        extra ("extra operand " ++ curly second)
          "Only one string may be given when deleting without squeezing repeats.\n"
      else go options first second translates
where
  /-- Exchanges when it is clear what is asked for. -/
  go (options : Options) (first second : String) (translates : Bool) : Deed :=
    let parts (text : String) := setParts (text.length + 1) text.toList
    match parts first, parts second with
    | .error message, _ | _, .error message => call.complains message 1
    | .ok firstParts, .ok secondParts =>
      let written := setOctets 0 firstParts
      let complement := options.hasAny "cC"
      let chosen := if complement then octets.filter fun c => !written.contains c else written
      let input := call.input.toList
      if translates then
        match exchangePairs chosen firstParts secondParts complement (options.has 't') with
        | .error message => call.complains message 1
        | .ok pairs =>
          let text := input.map fun c => (pairs.lookup c).getD c
          call.gives (String.ofList (if options.has 's' then
            squeeze (setOctets chosen.length secondParts) text else text))
      else
        let text := if options.has 'd' then input.filter fun c => !chosen.contains c else input
        let among := if options.has 'd' then setOctets 0 secondParts else chosen
        call.gives (String.ofList (if options.has 's' then squeeze among text else text))

end RenderSync.Shell.Call
