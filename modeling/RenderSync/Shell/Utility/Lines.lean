import RenderSync.Shell.Format
import RenderSync.Shell.Regex
import RenderSync.Shell.Utility.Basic

/-!
# Lines

Utilities that show texts line by line, or a part of their lines.
-/

namespace RenderSync.Shell.Call

/-- Pieces of a text that end with the end of a line, the last one perhaps without it. -/
def piecesBy (separator : Char) (text : String) : List (List Char) :=
  let lines := Text.splitAt separator text.toList
  let whole := lines.dropLast.map (· ++ [separator])
  match lines.getLast? with
  | some (c :: rest) => whole ++ [c :: rest]
  | _ => whole

/-- What ends a line: the end of a line or, with the option `z`, a NUL. -/
def separatorOf (options : Options) : Char := if options.has 'z' then '\x00' else '\n'

/-! ## 1. Whole texts -/

/-- An octet as it is made visible. -/
def visible (tabs : Bool) (c : Char) : List Char :=
  let low (c : Char) : List Char :=
    if c < ' ' then ['^', Char.ofNat (c.toNat + 64)] else if c = '\x7f' then ['^', '?'] else [c]
  if c = '\t' then if tabs then ['^', 'I'] else [c]
  else if c = '\n' then [c]
  else if '\x80' ≤ c then 'M' :: '-' :: low (Char.ofNat (c.toNat - 128))
  else low c

/-- How far texts were printed one after the other. -/
structure Printed where
  output : List Char
  number : Nat
  isStart : Bool
  blanks : Nat

/-- Prints a piece of a text that ends with the end of a line. -/
def printPiece (options : Options) (printed : Printed) (piece : List Char) : Printed :=
  let isEmpty := piece = ['\n'] && printed.isStart
  let blanks := if isEmpty then printed.blanks + 1 else 0
  if options.has 's' && blanks > 1 then { printed with blanks }
  else
    let counts := printed.isStart &&
      (if options.has 'b' then !isEmpty else options.has 'n')
    let number := if counts then printed.number + 1 else printed.number
    let lead := if counts then (padded 6 number).toList ++ ['\t'] else []
    let tabs := options.hasAny "TAt"
    let body := if options.hasAny "vAet" then piece.flatMap (visible tabs)
      else if tabs then piece.flatMap fun c => if c = '\t' then ['^', 'I'] else [c]
      else piece
    let body := if options.hasAny "EAe" && body.getLast? = some '\n' then
      body.dropLast ++ ['$', '\n'] else body
    ⟨printed.output ++ lead ++ body, number, piece.getLast? = some '\n', blanks⟩

/-- Prints texts. -/
def concatenate (call : Call) (options : Options) : Deed :=
  let step (state : Deed × Printed) (operand : String) : Deed × Printed :=
    let (deed, printed) := state
    match call.contents operand with
    | .ok text =>
      let printed := if options.chosen.all (·.1 = 'u') then { printed with output := text.toList }
        else (piecesBy '\n' text).foldl (printPiece options) { printed with output := [] }
      ({ deed with said := deed.said ++ [(1, String.ofList printed.output)] }, printed)
    | .error problem =>
      ({ deed with said := deed.said ++ [call.complaint (about operand problem)], status := 1 },
        printed)
  ((orInput options.operands).foldl step (call.answers 0, ⟨[], 0, true, 0⟩)).1

/-- What goes wrong when a text is opened, and what goes wrong when it is read. -/
def openProblem (act operand problem : String) : String :=
  if problem = PathTrouble.isDirectory.message then
    "error reading " ++ inQuotes operand ++ ": " ++ problem
  else act ++ " " ++ inQuotes operand ++ " for reading: " ++ problem

/-- Pieces of a text, each ending with a separator that may have several octets. -/
def cutAfter (separator : List Char) : List Char → List (List Char)
  | [] => []
  | text@(c :: rest) =>
    if separator ≠ [] && separator.isPrefixOf text then
      separator :: cutAfter separator (rest.drop (separator.length - 1))
    else
      match cutAfter separator rest with
      | [] => [[c]]
      | piece :: pieces => (c :: piece) :: pieces
termination_by text => text.length

/-- The lines of every text in reverse. -/
def reverseLines (call : Call) (options : Options) : Deed :=
  let separator := ((options.value? 's').getD "\n").toList
  call.eachContent options.operands 1
    (fun operand problem =>
      if problem = PathTrouble.isDirectory.message then
        (if operand = "-" then "standard input" else asNeeded operand) ++
          ": read error: " ++ problem
      else openProblem "failed to open" operand problem)
    fun _ text =>
      if options.has 'b' then
        let pieces := (cutAfter separator.reverse text.toList.reverse).map List.reverse
        String.ofList pieces.flatten
      else String.ofList (cutAfter separator text.toList).reverse.flatten

/-- Every line in reverse. -/
def reverseEach (call : Call) (options : Options) : Deed :=
  call.eachContent options.operands 1
    (fun operand problem => "cannot open " ++ operand ++ ": " ++ problem) fun _ text =>
    String.ofList ((piecesBy '\n' text).flatMap fun piece =>
      let (body, ending) := piece.span (· ≠ '\n')
      Octets.ofCharacters (Octets.characters body).reverse ++ ending)

/-! ## 2. First and last lines -/

/-- What a letter behind a number multiplies it by. -/
def multiplier? (suffix : List Char) : Option Nat :=
  let powers := "KMGTPEZY".toList
  let power (base : Nat) (c : Char) : Option Nat :=
    (powers.idxOf? c.toUpper).map fun n => Nat.pow base (n + 1)
  match suffix with
  | [] => some 1
  | ['b'] => some 512
  | [c] => if c = 'k' || powers.contains c then power 1024 c else none
  | [c, 'B'] => if c = 'k' || powers.contains c then power 1000 c else none
  | [c, 'i', 'B'] => if powers.contains c then power 1024 c else none
  | _ => none

/-- A number that may have a letter behind it. -/
def size? (text : List Char) : Option Nat :=
  let (digits, suffix) := text.span Digits.isDecimal
  (Digits.toNat? 10 digits).bind fun n => (multiplier? suffix).map (n * ·)

/-- The number of an option that says how many, and the sign in front of it. -/
def howMany (text : String) : Option (Char × Nat) :=
  match text.toList with
  | '-' :: digits => (size? digits).map ('-', ·)
  | '+' :: digits => (size? digits).map ('+', ·)
  | digits => (size? digits).map (' ', ·)

/-- Goes on with how many lines or octets the options ask for. -/
def withCount (call : Call) (options : Options) (act : Bool → Char × Nat → Deed) : Deed :=
  let octets := options.last? "nc" = some 'c'
  let text := ((options.value? (if octets then 'c' else 'n')).getD "10")
  match howMany text with
  | some count => act octets count
  | none =>
    let unit := if octets then "bytes" else "lines"
    let shown := String.ofList (text.toList.dropWhile fun c => c = '-' || c = '+')
    call.complains ("invalid number of " ++ unit ++ ": " ++ curly shown) 1

/-- Prints a part of every text, with a title if there are several. -/
def eachPart (call : Call) (options : Options) (part : String → String) : Deed :=
  let operands := orInput options.operands
  let titled := match options.last? "qv" with
    | some 'v' => true
    | some _ => false
    | none => operands.length > 1
  let title (isFirst : Bool) (name : String) : String :=
    if titled then
      (if isFirst then "" else "\n") ++ "==> " ++
        (if name = "-" then "standard input" else name) ++ " <==\n"
    else ""
  let step (state : Deed × Bool) (operand : String) : Deed × Bool :=
    let (deed, isFirst) := state
    match call.contents operand with
    | .ok text =>
      ({ deed with said := deed.said ++ [(1, title isFirst operand ++ part text)] }, false)
    | .error problem =>
      let isDirectory := problem = PathTrouble.isDirectory.message
      let shown := if isDirectory then title isFirst operand else ""
      ({ deed with
        said := deed.said ++
          [(1, shown), call.complaint (openProblem "cannot open" operand problem)]
        status := 1 }, isFirst && !isDirectory)
  (operands.foldl step (call.answers 0, true)).1

/-- The first lines or octets of texts. -/
def head (call : Call) (options : Options) : Deed :=
  call.withCount options fun octets (sign, n) =>
    call.eachPart options fun text =>
      let take {α : Type} (items : List α) : List α :=
        if sign = '-' then items.take (items.length - n) else items.take n
      if octets then String.ofList (take text.toList)
      else String.ofList (take (piecesBy (separatorOf options) text)).flatten

/-- The last lines or octets of texts. -/
def tail (call : Call) (options : Options) : Deed :=
  call.withCount options fun octets (sign, n) =>
    call.eachPart options fun text =>
      let take {α : Type} (items : List α) : List α :=
        if sign = '+' then items.drop (n - 1) else items.drop (items.length - n)
      if octets then String.ofList (take text.toList)
      else String.ofList (take (piecesBy (separatorOf options) text)).flatten

/-! ## 3. Counting -/

/-- The words of a text. -/
def wordCount (text : List Char) : Nat :=
  (text.foldl (fun (count, inside) c =>
    if isSpace c then (count, false) else (if inside then count else count + 1, true))
    (0, false)).1

/-- How wide a line is, tabs counted. -/
def lineWidth (line : List Char) : Nat :=
  (Octets.characters line).foldl (fun width c =>
    if c = '\t' then (width / 8 + 1) * 8
    else if c < ' ' || c = '\x7f' || Octets.isStray c then width else width + 1) 0

/-- What is counted of a text: lines, words, characters, octets, and the longest line. -/
def countsOf (options : Options) (text : String) : List Nat :=
  let all := !options.hasAny "lwmcL"
  (if all || options.has 'l' then [text.toList.count '\n'] else []) ++
    (if all || options.has 'w' then [wordCount text.toList] else []) ++
    (if options.has 'm' then
      [((Octets.characters text.toList).filter fun c => !Octets.isStray c).length] else []) ++
    (if all || options.has 'c' then [text.length] else []) ++
    (if options.has 'L' then [((linesOf text).map lineWidth).foldl max 0] else [])

/-- How wide the numbers are, which depends on the sizes of the files. -/
def countWidth (call : Call) (options : Options) : Nat :=
  let operands := options.operands
  let single := (countsOf options "").length = 1
  if operands.length ≤ 1 && single then 1
  else
    let sizes := (orInput operands).map fun operand =>
      match (call.inputs.lookup operand).isSome, call.files.find? (call.path operand) with
      | true, _ => if call.isSized then (some call.input.length, true) else (none, true)
      | false, some (.file _ content) => (some content.bytes.length, true)
      | false, some _ => (none, true)
      | false, none => (none, false)
    let total := sizes.foldl (fun sum size => sum + size.1.getD 0) 0
    max (decimal total).length (if sizes.any fun size => size.1.isNone && size.2 then 7 else 1)

/-- How many lines, words and octets texts have. -/
def count (call : Call) (options : Options) : Deed :=
  let operands := orInput options.operands
  let width := call.countWidth options
  let row (numbers : List Nat) (name : String) : String :=
    " ".intercalate (numbers.map (padded width)) ++ (if name = "" then "" else " " ++ name) ++ "\n"
  let named (operand : String) : String := if options.operands = [] then "" else operand
  let zero := (countsOf options "").map fun _ => 0
  let isLongest := options.has 'L'
  let sum (total numbers : List Nat) : List Nat :=
    let added := (total.zip numbers).map fun (a, b) => a + b
    if isLongest then
      added.dropLast ++ [max (total.getLast?.getD 0) (numbers.getLast?.getD 0)]
    else added
  let step (state : Deed × List Nat) (operand : String) : Deed × List Nat :=
    let (deed, total) := state
    match call.contents operand with
    | .ok text =>
      let numbers := countsOf options text
      ({ deed with said := deed.said ++ [(1, row numbers (named operand))] }, sum total numbers)
    | .error problem =>
      let shown := if problem = PathTrouble.isDirectory.message then row zero operand else ""
      ({ deed with
        said := deed.said ++ [call.complaint (about operand problem), (1, shown)]
        status := 1 }, total)
  let (deed, total) := operands.foldl step (call.answers 0, zero)
  let shown := match options.value? 'τ' with
    | some "always" => row total "total"
    | some "never" => ""
    | some "only" => row total ""
    | _ => if operands.length > 1 then row total "total" else ""
  let said := if options.value? 'τ' = some "only" then deed.complaints else deed.said
  { deed with said := said ++ [(1, shown)] }

/-- Lines with their numbers. -/
def numberLines (call : Call) (options : Options) : Deed :=
  let style := ((options.value? 'b').getD "t").toList
  let number (letter : Char) (default : Nat) : Nat :=
    ((options.value? letter).bind fun text => Digits.toNat? 10 text.toList).getD default
  let width := number 'w' 6
  let separator := (options.value? 's').getD "\t"
  let regex := match style with
    | 'p' :: pattern => Regex.ofText? false pattern
    | _ => none
  let counts (line : List Char) : Bool := match style with
    | ['a'] => true
    | ['n'] => false
    | 'p' :: _ => regex.any fun regex => (regex.find? false [] line).isSome
    | _ => line ≠ []
  let shown (n : Nat) : String := match options.value? 'n' with
    | some "ln" => decimal n ++ String.ofList (List.replicate (width - (decimal n).length) ' ')
    | some "rz" => String.ofList (List.replicate (width - (decimal n).length) '0') ++ decimal n
    | _ => padded width n
  if !"atnp".toList.contains (style.headD 't') then
    call.misused ("invalid body numbering style: " ++ curly (String.ofList style)) 1
  else
    let blank := String.ofList (List.replicate (width + separator.length) ' ')
    let step (state : List String × Nat) (line : List Char) : List String × Nat :=
      if counts line then
        (state.1 ++ [shown state.2 ++ separator ++ String.ofList line ++ "\n"],
          state.2 + number 'i' 1)
      else (state.1 ++ [blank ++ String.ofList line ++ "\n"], state.2)
    call.filters options.operands 1 fun text =>
      String.join ((linesOf text).foldl step ([], number 'v' 1)).1

/-! ## 4. Equal lines -/

/-- Runs of lines that are equal in what is compared. -/
def runsBy (key : List Char → List Char) : List (List Char) → List (List (List Char))
  | [] => []
  | line :: rest =>
    match runsBy key rest with
    | (other :: run) :: runs =>
      if key line = key other then (line :: other :: run) :: runs
      else [line] :: (other :: run) :: runs
    | runs => [line] :: runs

/-- A line without some of its first fields, each with the blanks in front of it. -/
def withoutFields : (count : Nat) → List Char → List Char
  | 0, line => line
  | count + 1, line =>
    let isBlank (c : Char) : Bool := c = ' ' || c = '\t'
    withoutFields count ((line.dropWhile isBlank).dropWhile fun c => !isBlank c)

/-- Every run of equal lines once. -/
def unique (call : Call) (options : Options) : Deed :=
  let number? (letter : Char) : Option Nat :=
    (options.value? letter).bind fun text => Digits.toNat? 10 text.toList
  let key (line : List Char) : List Char :=
    let rest := (withoutFields ((number? 'f').getD 0) line).drop ((number? 's').getD 0)
    let rest := match number? 'w' with
      | some n => rest.take n
      | none => rest
    if options.has 'i' then rest.map Char.toLower else rest
  let separator := separatorOf options
  let make (text : String) : String :=
    let kept := (runsBy key (linesBy separator text)).filter fun run =>
      (!options.hasAny "dD" || run.length > 1) && (!options.has 'u' || run.length = 1)
    ofLinesBy separator (kept.flatMap fun run =>
      if options.has 'D' then run
      else (run.take 1).map fun line =>
        if options.has 'c' then (padded 7 run.length).toList ++ ' ' :: line else line)
  match options.operands with
  | _ :: _ :: extra :: _ => call.misused ("extra operand " ++ curly extra) 1
  | [source, target] =>
    let deed := call.filters [source] 1 make
    match call.writing deed.files target deed.output.toList with
    | some files => ⟨deed.complaints, deed.status, files⟩
    | none => call.complains (about target (call.unreadable target)) 1
  | operands => call.filters operands 1 make

end RenderSync.Shell.Call
