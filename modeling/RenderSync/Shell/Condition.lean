import RenderSync.Shell.Expansion

/-!
# Conditions

What `test` decides: a condition is a list of words, tests of one or two operands with `!`, `-a`,
`-o` and brackets between them.  Whether a word is an operator depends on the words behind it, so
that nearly any text may be an operand; three words with an operator in the middle are always a
test of two operands.
-/

namespace RenderSync.Shell.Condition

/-! ## 1. Operators -/

/-- What a word means where it stands. -/
inductive Meaning where
  | unary (name : String)
  | binary (name : String)
  | not
  | and
  | or
  | opening
  | closing
  | operand
  | finish
deriving DecidableEq, Repr

/-- Operators of one operand. -/
def unaries : List String :=
  ["-r", "-w", "-x", "-e", "-f", "-d", "-c", "-b", "-p", "-u", "-g", "-k", "-s", "-t", "-z", "-n",
    "-h", "-O", "-G", "-L", "-S"]

/-- Operators of two operands. -/
def binaries : List String :=
  ["=", "!=", "<", ">", "-eq", "-ne", "-ge", "-gt", "-le", "-lt", "-nt", "-ot", "-ef"]

/-- Operators of one operand, as far as they are known. -/
def unariesOf (isRich : Bool) : List String :=
  if isRich then ["-v", "-N", "-R"] ++ unaries else unaries

/-- Operators of two operands, as far as they are known. -/
def binariesOf (isRich : Bool) : List String := if isRich then "==" :: binaries else binaries

/-- The meaning of the first word; an operator of one operand needs one, and is an operand itself
in front of an operator of two. -/
def meaning (isRich : Bool) : List String → Meaning
  | [] => .finish
  | word :: rest =>
    if (unariesOf isRich).contains word then
      match rest with
      | [] => .operand
      | [_] => .unary word
      | next :: _ => if (binariesOf isRich).contains next then .operand else .unary word
    else if (binariesOf isRich).contains word then .binary word
    else
      match word with
      | "!" => .not
      | "-a" => .and
      | "-o" => .or
      | "(" => if rest = [] then .operand else .opening
      | ")" => .closing
      | _ => .operand

/-! ## 2. Tests -/

/-- What can be seen of files and of the shell. -/
structure View where
  here : String
  files : FileTree
  /-- There are a few more operators. -/
  isRich : Bool := false
  /-- A variable or an element is set. -/
  isSet : String → Bool := fun _ => false
  /-- An option is on. -/
  isOn : String → Bool := fun _ => false

/-- What a path leads to. -/
def View.entry? (view : View) (path : String) : Option Entry :=
  view.files.find? (pathFrom view.here path)

/-- When what a path leads to was changed last. -/
def View.stamp? (view : View) (path : String) : Option Int := do
  let place ← view.files.locate? (pathFrom view.here path)
  let _ ← view.files.entryAt? place
  return view.files.stampOf place

/-- A test of one operand. -/
def testOne (view : View) (name operand : String) : Except String Bool := do
  let entry := view.entry? operand
  let bit (mask : Nat) : Bool := entry.any fun entry => entry.mode &&& mask ≠ 0
  match name with
  | "-n" => return operand ≠ ""
  | "-z" => return operand = ""
  | "-e" | "-r" | "-w" | "-O" | "-G" => return entry.isSome
  | "-f" => return entry.any Entry.isFile
  | "-d" => return entry.any Entry.isDirectory
  | "-c" => return entry.any Entry.isDevice
  | "-p" => return entry.any Entry.isPipe
  | "-h" | "-L" => return (view.files.findLink? (pathFrom view.here operand)).any Entry.isLink
  | "-x" => return bit 0o111
  | "-u" => return bit 0o4000
  | "-g" => return bit 0o2000
  | "-k" => return bit 0o1000
  | "-v" => return view.isSet operand
  | "-o" => return view.isOn operand
  | "-a" => return entry.isSome
  | "-s" =>
    return match entry with
      | some (.file _ content) => content.bytes ≠ []
      | some (.directory _) => true
      | _ => false
  | "-t" =>
    if (integer? false operand.toList).isNone then throw ("Illegal number: " ++ operand)
    return false
  | _ => return false

/-- The number that an operand is. -/
def numberOf (view : View) (operand : String) : Except String Int :=
  let bad : Except String Int := .error (
    if view.isRich then operand ++ ": integer expression expected"
    else "Illegal number: " ++ operand)
  match integer? false operand.toList with
  | some n => if clamp n = n then .ok n else bad
  | none => bad

/-- A test of two operands. -/
def testTwo (view : View) (name first second : String) : Except String Bool := do
  let numbers (holds : Int → Int → Bool) : Except String Bool := do
    let a ← numberOf view first
    let b ← numberOf view second
    return holds a b
  match name with
  | "=" | "==" => return first = second
  | "!=" => return first ≠ second
  | "<" => return first < second
  | ">" => return second < first
  | "-eq" => numbers (· = ·)
  | "-ne" => numbers (· ≠ ·)
  | "-ge" => numbers (· ≥ ·)
  | "-gt" => numbers (· > ·)
  | "-le" => numbers (· ≤ ·)
  | "-lt" => numbers (· < ·)
  | "-ef" =>
    let place (path : String) : Option Place := view.files.locate? (pathFrom view.here path)
    return (view.entry? first).isSome && (view.entry? second).isSome && place first = place second
  | "-nt" =>
    return match view.stamp? first, view.stamp? second with
      | some a, some b => b < a
      | found, none => found.isSome
      | none, some _ => false
  | "-ot" =>
    return match view.stamp? first, view.stamp? second with
      | some a, some b => a < b
      | none, found => found.isSome
      | some _, none => false
  | _ => return false

/-! ## 3. Conditions -/

/-- The words that are left, and the last one that was used. -/
structure Words where
  last : String
  rest : List String

/-- Decides while words are used up. -/
abbrev Decide := StateT Words (Except String)

/-- Uses the next word. -/
def advance : Decide Unit :=
  modify fun words => ⟨words.rest.headD words.last, words.rest.tail⟩

/-- The meaning of the next word. -/
def look (view : View) : Decide Meaning := do return meaning view.isRich (← get).rest

mutual

/-- Conditions of which one has to hold; the next word is an operand if `forced` says so. -/
def decideAny (view : View) (forced : Bool) : (fuel : Nat) → Decide Bool
  | 0 => return false
  | fuel + 1 => do
    let first ← decideAll view forced fuel
    if (← look view) = .or then
      advance
      return first || (← decideAny view false fuel)
    else return first

/-- Conditions all of which have to hold. -/
def decideAll (view : View) (forced : Bool) : (fuel : Nat) → Decide Bool
  | 0 => return false
  | fuel + 1 => do
    let first ← decideNot view forced fuel
    if (← look view) = .and then
      advance
      return (← decideAll view false fuel) && first
    else return first

/-- A condition that may be turned round. -/
def decideNot (view : View) (forced : Bool) : (fuel : Nat) → Decide Bool
  | 0 => return false
  | fuel + 1 => do
    if !forced && (← look view) = .not then
      advance
      return !(← decideNot view false fuel)
    else decideOne view forced fuel

/-- A condition by itself. -/
def decideOne (view : View) (forced : Bool) : (fuel : Nat) → Decide Bool
  | 0 => return false
  | fuel + 1 => do
    let kind ← if forced then pure .operand else look view
    match kind with
    | .finish => return false
    | .opening =>
      advance
      if (← look view) = .closing then
        advance
        return false
      let holds ← decideAny view false fuel
      if (← look view) ≠ .closing then throw "closing paren expected"
      advance
      return holds
    | .unary name =>
      advance
      advance
      testOne view name (← get).last
    | _ =>
      advance
      let first := (← get).last
      match ← look view with
      | .binary name =>
        advance
        if (← get).rest = [] then throw (name ++ ": argument expected")
        advance
        testTwo view name first (← get).last
      | _ => return first ≠ ""

end

/-- Decides a condition of which no word may be left. -/
def decideWhole (view : View) (forced : Bool) (words : List String) : Except String Bool := do
  let (holds, left) ← (decideAny view forced (4 * words.length + 4)).run ⟨"", words⟩
  if left.rest = [] then return holds else throw (left.last ++ ": unexpected operator")

/-- Whether a condition holds; a complaint if it makes no sense.  `fuel` bounds how often it is
turned round in front. -/
def holdsFuel (view : View) : (fuel : Nat) → List String → Except String Bool
  | 0, _ | _, [] => return false
  | fuel + 1, words =>
    let others : Except String Bool :=
      if words.length = 3 || words.length = 4 then
        if words.head? = some "(" && words.getLast? = some ")" then
          decideWhole view false (words.drop 1).dropLast
        else if words.head? = some "!" then do return !(← holdsFuel view fuel (words.drop 1))
        else decideWhole view false words
      else decideWhole view false words
    match words with
    | [_, middle, _] =>
      if (binariesOf view.isRich).contains middle then decideWhole view true words else others
    | [sign, operand] =>
      if view.isRich && (sign = "-o" || sign = "-a") then testOne view sign operand else others
    | _ => others

/-- Whether a condition holds; a complaint if it makes no sense. -/
def holds (view : View) (words : List String) : Except String Bool :=
  holdsFuel view (words.length + 1) words

end RenderSync.Shell.Condition
