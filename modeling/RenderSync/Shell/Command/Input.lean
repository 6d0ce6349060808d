import RenderSync.Shell.Command.Basic
import RenderSync.Shell.Duration

/-!
# Input

Commands that read into variables: a line, which is cut into fields, or many lines as elements.
-/

namespace RenderSync.Shell.Command

/-! ## 1. Fields of a line -/

/-- How far a text goes that ends with some octet, which a backslash protects. -/
def protectedEnd (ending : UInt8) : List UInt8 → Option Nat
  | [] => none
  | 92 :: _ :: rest => (protectedEnd ending rest).map (· + 2)
  | b :: rest => if b = ending then some 1 else (protectedEnd ending rest).map (· + 1)

/-- Up to the end of a line that a backslash may continue. -/
def lineOfMany (more : Bool) (there : List UInt8) : Option Nat :=
  match protectedEnd 10 there with
  | some n => some n
  | none => if more then none else some there.length

/-- Octets with backslashes taken as such; what they protect is marked. -/
def protect : List Char → Marked
  | [] => []
  | '\\' :: '\n' :: rest => protect rest
  | '\\' :: c :: rest => (c, true) :: protect rest
  | ['\\'] => []
  | c :: rest => (c, false) :: protect rest

/-- A mark separates fields. -/
def separates (among : List Char) (mark : Char × Bool) : Bool :=
  !mark.2 && among.contains mark.1

/-- A mark is a separator that may be repeated. -/
def isSoft (among : List Char) (mark : Char × Bool) : Bool :=
  separates among mark && (mark.1 = ' ' || mark.1 = '\t' || mark.1 = '\n')

/-- The text of marks. -/
def plainText (marks : Marked) : String := String.ofList (marks.map Prod.fst)

/-- What the last of some names gets: all, without the separators at its end.  One that may not be
repeated counts only if it is the only one. -/
def remainder (among : List Char) (marks : Marked) : Marked :=
  let cut := (marks.reverse.dropWhile (isSoft among)).reverse
  let (field, rest) := cut.span fun mark => !separates among mark
  match rest.dropWhile (isSoft among) with
  | [mark] => if separates among mark then field else cut
  | _ => cut

/-- The fields of a line, one for each of `count` names. -/
def fieldsFor (among : List Char) : (count : Nat) → Marked → List String
  | 0, _ => []
  | 1, marks => [plainText (remainder among (marks.dropWhile (isSoft among)))]
  | count + 1, marks =>
    let (field, rest) := (marks.dropWhile (isSoft among)).span fun mark => !separates among mark
    let rest := rest.dropWhile (isSoft among)
    let rest := match rest with
      | mark :: more => if separates among mark then more else rest
      | [] => []
    plainText field :: fieldsFor among count rest

/-- Reads a line into variables. -/
def readPlainly : Command := fun arguments turn =>
  let arguments := match arguments with
    | "-p" :: _ :: rest => rest
    | arguments => arguments
  withLetters "r" arguments fun letters names =>
    let raw := letters.contains 'r'
    if names = [] then .fault "arg count"
    else
      let finish (bytes : List UInt8) (turn : Turn) : Answer :=
        let complete := bytes.getLast? = some 10
        let text := (Octets.ofBytes (if complete then bytes.dropLast else bytes)).toList
        let text := text.filter (· ≠ '\x00')
        let marks := if raw then text.map (·, false) else protect text
        let fields := fieldsFor (separators turn.me) names.length marks
        withValue ((names.zip fields).foldlM (fun (me : Process) (name, value) =>
          if isName name.toList then me.assign name value
          else .error (name ++ ": bad variable name")) turn.me)
          fun me => .done ({ turn with me }.withStatus (if complete then 0 else 1))
      match turn.read 0 (if raw then Turn.lineOf else lineOfMany) with
      | .blocked => .blocked
      | .failed _ => finish [] turn
      | .done none turn => finish [] turn
      | .done (some bytes) turn => finish bytes turn

/-! ## 2. More ways to read -/

/-- The options of a rich shell for reading. -/
def readGrammar : Grammar := ⟨"ersτ", "adinNptu", "", [], true⟩

/-- All fields of a line. -/
def allFields (among : List Char) : (fuel : Nat) → Marked → List String
  | 0, _ => []
  | fuel + 1, marks =>
    match marks.dropWhile (isSoft among) with
    | [] => []
    | marks =>
      let (field, rest) := marks.span fun mark => !separates among mark
      let rest := rest.dropWhile (isSoft among)
      let rest := match rest with
        | mark :: more => if separates among mark then more else rest
        | [] => []
      plainText field :: allFields among fuel rest

/-- How much is read: up to an octet or to some number of octets. -/
def enoughOf (ending : UInt8) (raw : Bool) (most : Option Nat) (exactly : Bool) (more : Bool)
    (there : List UInt8) : Option Nat :=
  let stop : Option Nat := if exactly then none
    else if raw then (there.idxOf? ending).map (· + 1) else protectedEnd ending there
  match stop, most with
  | some n, some most => some (min n most)
  | some n, none => some n
  | none, some most =>
    if most ≤ there.length then some most else if more then none else some there.length
  | none, none => if more then none else some there.length

/-- Reads into variables of a rich shell. -/
def readRichly : Command := fun arguments turn =>
  match readGrammar.split arguments with
  | .error message => .refused 2 message
  | .ok options =>
    let raw := options.has 'r'
    let numberOf (letter : Char) : Option Nat :=
      (options.value? letter).bind fun text => Digits.toNat? 10 text.toList
    let exactly := options.has 'N'
    let most := if exactly then numberOf 'N' else numberOf 'n'
    let ending : UInt8 := match options.value? 'd' with
      | none => 10
      | some text => ((text.toList.head?).getD '\x00').toNat.toUInt8
    let descriptor := (numberOf 'u').getD 0
    let finish (bytes : List UInt8) (turn : Turn) : Answer :=
      let isFull := most.any (· ≤ bytes.length)
      let isWhole := !exactly && bytes.getLast? = some ending
      let text := (Octets.ofBytes (if isWhole then bytes.dropLast else bytes)).toList
      let text := text.filter (· ≠ '\x00')
      let marks := if raw then text.map (·, false) else protect text
      let among := separators turn.me
      let names := options.operands
      let changed : Except String Process := match options.value? 'a' with
        | some name =>
          (turn.me.bind name { turn.me.entry name with content := .list [] }).fill name false
            ((allFields among (marks.length + 1) marks).map (none, ·))
        | none =>
          if names = [] then turn.me.assign "REPLY" (plainText marks)
          else
            let fields := if exactly then plainText marks :: names.tail.map (fun _ => "")
              else fieldsFor among names.length marks
            (names.zip fields).foldlM (fun (me : Process) (name, value) =>
              let (bare, key) := Process.withKey name
              if isName bare.toList then me.store bare key false value
              else .error ("\x60" ++ name ++ "': not a valid identifier")) turn.me
      withValue changed fun me =>
        .done ({ turn with me }.withStatus (if isWhole || isFull then 0 else 1))
    let isReady : Bool := match turn.read descriptor Turn.anything with
      | .blocked => false
      | _ => true
    if options.value? 't' = some "0" then .done (turn.succeeded isReady)
    else
      match turn.read descriptor (enoughOf ending raw most exactly) with
      | .blocked =>
        if options.has 'τ' then
          match finish [] turn with
          | .done turn => .done (turn.withStatus 142)
          | answer => answer
        else
          match (options.value? 't').bind duration? with
          | none => .blocked
          | some wait =>
            let turn := turn.mine fun me => { me with wakeAt := some (turn.now + wait) }
            .done (turn.plan [.invoke ("read" :: "-τ" :: arguments) false .plain])
      | .failed _ => finish [] turn
      | .done none turn => finish [] turn
      | .done (some bytes) turn => finish bytes turn

/-- Reads a line into variables. -/
def read : Command := fun arguments turn =>
  if turn.me.isRich then readRichly arguments turn else readPlainly arguments turn

/-- The lengths of so many texts that end with an octet, together. -/
def manyEnds (ending : UInt8) : (count : Nat) → List UInt8 → Option Nat
  | 0, _ => some 0
  | count + 1, there =>
    match there.idxOf? ending with
    | none => none
    | some n => (manyEnds ending count (there.drop (n + 1))).map (· + n + 1)

/-- Reads lines as the elements of a variable. -/
def mapfile : Command := fun arguments turn =>
  match (⟨"t", "dnOsucC", "", [], true⟩ : Grammar).split arguments with
  | .error message => .refused 2 message
  | .ok options =>
    let numberOf (letter : Char) : Option Nat :=
      (options.value? letter).bind fun text => Digits.toNat? 10 text.toList
    let separator : Char := match options.value? 'd' with
      | none => '\n'
      | some text => (text.toList.head?).getD '\x00'
    let skip := (numberOf 's').getD 0
    let most := (numberOf 'n').filter (0 < ·)
    let enough (more : Bool) (there : List UInt8) : Option Nat :=
      match most.bind fun n => manyEnds separator.toNat.toUInt8 (skip + n) there with
      | some n => some n
      | none => if more then none else some there.length
    let name := options.operands.headD "MAPFILE"
    let finish (bytes : List UInt8) (turn : Turn) : Answer :=
      let text := Octets.ofBytes bytes
      let isWhole := text.toList.getLast? = some separator
      let lines := (Call.linesBy separator text).drop skip
      let lines := (most.map fun n => lines.take n).getD lines
      let count := lines.length
      let items := lines.zipIdx.map fun (line, n) =>
        String.ofList (if options.has 't' || (n + 1 = count && !isWhole) then line
          else line ++ [separator])
      let first := (numberOf 'O').getD 0
      let me := if options.has 'O' then turn.me
        else turn.me.bind name { turn.me.entry name with content := .list [] }
      withValue (me.fill name true (items.zipIdx.map fun (item, n) =>
        (some (decimal (first + n)), item))) fun me => .done ({ turn with me }.withStatus 0)
    match turn.read ((numberOf 'u').getD 0) enough with
    | .blocked => .blocked
    | .failed message => .fault message
    | .done none turn => finish [] turn
    | .done (some bytes) turn => finish bytes turn

end RenderSync.Shell.Command
