import RenderSync.Shell.Syntax
import RenderSync.Text.Digits

/-!
# Words made of braces

A word with braces stands for several ones: one for each of the texts between their commas, or for
all texts from one to another where two dots stand.  Only what is not quoted counts, and braces with
neither stand for themselves.
-/

namespace RenderSync.Shell

/-- A character that may mean something here, or anything else. -/
inductive BracePiece where
  | open_ (c : Char)
  | solid (fragment : Fragment)
deriving Inhabited

namespace BracePiece

/-- The piece is this character. -/
def isChar (c : Char) : BracePiece → Bool
  | open_ d => c = d
  | solid _ => false

/-- The character of a piece. -/
def char? : BracePiece → Option Char
  | open_ c => some c
  | solid _ => none

/-- The pieces of a word. -/
def ofWord (word : Word) : List BracePiece :=
  word.flatMap fun fragment =>
    match fragment with
    | .literal text false => text.map open_
    | fragment => [solid fragment]

/-- The word of pieces. -/
def toWord : List BracePiece → Word
  | [] => []
  | solid fragment :: rest => fragment :: toWord rest
  | open_ c :: rest =>
    match toWord rest with
    | .literal text false :: others => .literal (c :: text) false :: others
    | others => .literal [c] false :: others

/-- The parts between commas up to the brace that closes, and what follows it. -/
def parts : (depth : Nat) → List BracePiece → Option (List (List BracePiece) × List BracePiece)
  | _, [] => none
  | depth, piece :: rest =>
    let add (depth : Nat) : Option (List (List BracePiece) × List BracePiece) :=
      (parts depth rest).map fun (found, rest) =>
        match found with
        | part :: others => ((piece :: part) :: others, rest)
        | [] => ([[piece]], rest)
    if piece.isChar '\x7b' then add (depth + 1)
    else if piece.isChar '\x7d' then
      match depth with
      | 0 => some ([[]], rest)
      | depth + 1 => add depth
    else if piece.isChar ',' && depth = 0 then
      (parts 0 rest).map fun (found, rest) => ([] :: found, rest)
    else add depth

/-- A number with a sign, and how many digits it is to have at least. -/
def bound? (text : List Char) : Option (Int × Nat) :=
  let (negative, digits) : Bool × List Char := match text with
    | '-' :: rest => (true, rest)
    | '+' :: rest => (false, rest)
    | rest => (false, rest)
  (Digits.toNat? 10 digits).map fun n =>
    (if negative then -(n : Int) else n,
      if digits.head? = some '0' && digits.length > 1 then text.length else 0)

/-- The text cut where two dots stand. -/
def cutAtDots : List Char → List (List Char)
  | '.' :: '.' :: rest => [] :: cutAtDots rest
  | c :: rest =>
    match cutAtDots rest with
    | part :: others => (c :: part) :: others
    | [] => [[c]]
  | [] => [[]]

/-- The numbers from one to another in steps; the sign of the step does not matter. -/
def numbers (first last step : Int) : List Int :=
  let size : Int := if step = 0 then 1 else step.natAbs
  let count := ((if first ≤ last then last - first else first - last) / size).toNat + 1
  (List.range count).map fun k =>
    if first ≤ last then first + size * Int.ofNat k else first - size * Int.ofNat k

/-- The texts from one to another, if that is what stands between braces. -/
def series? (text : List Char) : Option (List (List Char)) :=
  let shown (width : Nat) (n : Int) : List Char :=
    let digits := Digits.ofNat n.natAbs
    let sign : List Char := if n < 0 then ['-'] else []
    sign ++ List.replicate (width - sign.length - digits.length) '0' ++ digits
  let ofBounds (first last : List Char) (step : Int) : Option (List (List Char)) :=
    match bound? first, bound? last with
    | some (a, wide), some (b, wider) =>
      some ((numbers a b step).map (shown (max wide wider)))
    | _, _ =>
      match first, last with
      | [c], [d] =>
        if c.isAlpha && d.isAlpha then
          some ((numbers c.toNat d.toNat step).map fun n => [Char.ofNat n.toNat])
        else none
      | _, _ => none
  match cutAtDots text with
  | [first, last] => ofBounds first last 1
  | [first, last, step] => (bound? step).bind fun (step, _) => ofBounds first last step
  | _ => none

/-- The words that pieces stand for; `fuel` bounds how many braces there are. -/
def expand : (fuel : Nat) → List BracePiece → List (List BracePiece)
  | 0, pieces => [pieces]
  | fuel + 1, pieces =>
    let (front, rest) := pieces.span fun piece => !piece.isChar '\x7b'
    match rest with
    | [] => [front]
    | brace :: rest =>
      let choices : Option (List (List BracePiece) × List BracePiece) :=
        match parts 0 rest with
        | some ([only], rest) =>
          ((only.mapM char?).bind series?).map fun texts => (texts.map (·.map open_), rest)
        | found => found
      match choices with
      | some (choices, rest) =>
        let ends := expand fuel rest
        (choices.flatMap (expand fuel)).flatMap fun middle =>
          ends.map fun back => front ++ middle ++ back
      | none => (expand fuel rest).map fun back => front ++ brace :: back

end BracePiece

/-- The words that a word with braces stands for. -/
def braced (word : Word) : List Word :=
  let pieces := BracePiece.ofWord word
  if pieces.any (·.isChar '\x7b') then
    (BracePiece.expand (pieces.length + 1) pieces).map BracePiece.toWord
  else [word]

end RenderSync.Shell
