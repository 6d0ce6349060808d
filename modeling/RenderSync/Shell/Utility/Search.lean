import RenderSync.Shell.Regex
import RenderSync.Shell.Utility.Modes

/-!
# Searching lines

A utility that looks for regular expressions in the lines of texts and prints the lines where there
are matches, the lines around these, the matches alone, or no more than how many there are.

A text with a NUL, or with octets that belong to no character, is no text: that it has a match is
all that is said about it.
-/

namespace RenderSync.Shell.Call

/-! ## 1. What is looked for -/

/-- The expressions of a search, which are written in lines. -/
structure Quest where
  regex : Regex
  folded : Bool
  /-- Lines without a match are looked for. -/
  inverted : Bool
  /-- What ends a line. -/
  separator : Char

/-- An expression that matches whole lines or whole words only, if options ask for that. -/
def bounded (options : Options) (regex : Regex) : Regex :=
  let word : Regex := .one (.among false [.named "alnum", .range '_' '_'])
  if options.has 'x' then .sequence .start (.sequence regex .finish)
  else if options.has 'w' then .sequence (.behind false word) (.sequence regex (.ahead false word))
  else regex

/-- The expression that a line writes. -/
def questLine (options : Options) (line : List Char) : Except Regex.Trouble Regex :=
  match options.last? "EFGP" with
  | some 'F' => .ok (Regex.ofLiteral line)
  | some 'P' => Regex.read Regex.searchingRichly line
  | some 'E' => Regex.read (Regex.searching true) line
  | _ => Regex.read (Regex.searching false) line

/-- What is looked for, as the options and the lines of some texts say. -/
def quest (options : Options) (texts : List String) : Except Regex.Trouble Quest := do
  let lines := texts.flatMap fun text => Text.splitAt '\n' text.toList
  let regexes ← lines.mapM fun line => questLine options (Octets.characters line)
  let regex := match regexes.reverse with
    | [] => Regex.one (.among false [])
    | last :: others => others.foldl (fun whole regex => .either regex whole) last
  return ⟨bounded options regex, options.last? "iyν" = some 'i' || options.last? "iyν" = some 'y',
    options.has 'v', if options.has 'z' then '\x00' else '\n'⟩

/-- Warnings about an expression that starts with a sign that repeats. -/
def questWarnings (call : Call) (options : Options) (texts : List String) :
    List (Nat × String) :=
  let lines := texts.flatMap fun text => Text.splitAt '\n' text.toList
  if options.last? "EFGP" ≠ some 'E' then []
  else lines.filterMap fun line =>
    match line with
    | c :: _ =>
      if "*+?".toList.contains c then
        some (call.complaint ("warning: " ++ c.toString ++ " at start of expression"))
      else none
    | [] => none

namespace Quest

/-- A line is one of those that are looked for. -/
def accepts (quest : Quest) (line : List Char) : Bool :=
  (quest.regex.find? quest.folded [] (Octets.characters line)).isSome != quest.inverted

/-- All matches in a line that are not empty, with where they start; `fuel` bounds how many. -/
def hits (quest : Quest) : (fuel : Nat) → (before : List Char) → List Char →
    List (Nat × List Char)
  | 0, _, _ => []
  | fuel + 1, before, rest =>
    match quest.regex.find? quest.folded before rest with
    | none => []
    | some found =>
      match found.text, found.after with
      | [], [] => []
      | [], c :: after => hits quest fuel (c :: found.before.reverse) after
      | text, after =>
        ((Octets.ofCharacters found.before).length, Octets.ofCharacters text) ::
          hits quest fuel (text.reverse ++ found.before.reverse) after

end Quest

/-! ## 2. What is printed -/

/-- A line of a text, with its number and with how many octets are in front of it. -/
structure SearchLine where
  text : List Char
  number : Nat
  offset : Nat
  isHit : Bool
deriving Inhabited

/-- The lines of a text. -/
def searchLines (quest : Quest) (text : String) : List SearchLine :=
  (linesBy quest.separator text).foldl (fun (lines : List SearchLine × Nat × Nat) line =>
    (⟨line, lines.2.1, lines.2.2, quest.accepts line⟩ :: lines.1, lines.2.1 + 1,
      lines.2.2 + line.length + 1)) ([], 1, 0) |>.1.reverse

/-- How many lines in front of a hit and behind it are printed, too. -/
def surroundings (options : Options) : Nat × Nat :=
  let number (letters : String) : Nat :=
    ((options.last? letters).bind options.value?).bind (fun text => Digits.toNat? 10 text.toList)
      |>.getD 0
  (number "BC", number "AC")

/-- The hits of a text, as many as are wanted, and the lines around them. -/
def chosenLines (limit : Option Nat) (before after : Nat) (lines : List SearchLine) :
    List SearchLine :=
  let hits := lines.filter (·.isHit)
  let hits := match limit with
    | some n => hits.take n
    | none => hits
  let numbers := hits.map (·.number)
  let last := numbers.getLast?.getD 0
  lines.filterMap fun line =>
    if numbers.contains line.number then some line
    else if numbers.any (fun n => (line.number < n && n ≤ line.number + before) ||
        (n < line.number && line.number ≤ n + after)) &&
        !(line.isHit && last < line.number) then
      some { line with isHit := false }
    else none

/-- What is printed in front of something. -/
def searchLead (options : Options) (name : Option String) (sign : Char) (number offset : Nat) :
    String :=
  let named := match name with
    | some name => name ++ if options.has 'Z' then "\x00" else sign.toString
    | none => ""
  named ++ (if options.has 'n' then decimal number ++ sign.toString else "") ++
    (if options.has 'b' then decimal offset ++ sign.toString else "") ++
    (if options.has 'T' && (options.hasAny "nb" || name.isSome) then "\t" else "")

/-- What separates lines that do not follow each other. -/
def groupSign (options : Options) : String :=
  if options.has 'γ' then "" else (options.value? 'σ').getD "--" ++ "\n"

/-- What a chosen line looks like. -/
def searchShown (quest : Quest) (options : Options) (name : Option String) (line : SearchLine) :
    String :=
  let ending := quest.separator.toString
  let sign := if line.isHit then ':' else '-'
  if options.has 'o' then
    if line.isHit && !quest.inverted then
      String.join ((quest.hits (line.text.length + 1) [] (Octets.characters line.text)).map
        fun (offset, text) =>
          searchLead options name sign line.number (line.offset + offset) ++
            String.ofList text ++ ending)
    else ""
  else searchLead options name sign line.number line.offset ++ String.ofList line.text ++ ending

/-- Chosen lines with what separates those that do not follow each other; `printed` says that
something was printed before. -/
def searchBlocks (quest : Quest) (options : Options) (name : Option String) :
    (previous : Option Nat) → (printed : Bool) → List SearchLine → String
  | _, _, [] => ""
  | previous, printed, line :: rest =>
    let (before, after) := surroundings options
    let apart := printed && previous.all fun n => n + 1 < line.number
    (if apart && (before > 0 || after > 0) then groupSign options else "") ++
      searchShown quest options name line ++
      searchBlocks quest options name (some line.number) true rest

/-- What comes of one text: what is printed, complaints, and whether there was a hit. -/
structure Finding where
  output : String
  complaints : List (Nat × String)
  found : Bool

/-- Searches one text; `printed` says that something was printed before. -/
def searchText (call : Call) (quest : Quest) (options : Options) (limit : Option Nat)
    (named printed : Bool) (operand text : String) : Finding :=
  let label := if operand = "-" then (options.value? 'λ').getD "(standard input)" else operand
  let name := if named then some label else none
  let (before, after) := surroundings options
  let lines := chosenLines limit before after (searchLines quest text)
  let hits := lines.filter (·.isHit)
  let found := hits ≠ []
  let asText := options.has 'a' || options.value? 'β' = some "text"
  let skipsBinary := options.has 'I' || options.value? 'β' = some "without-match"
  let hasZero := text.toList.contains '\x00' && !options.has 'z'
  if skipsBinary && hasZero then ⟨"", [], false⟩
  else if options.has 'q' then ⟨"", [], found⟩
  else if options.last? "lL" = some 'l' then
    ⟨if found then label ++ (if options.has 'Z' then "\x00" else "\n") else "", [], found⟩
  else if options.last? "lL" = some 'L' then
    ⟨if found then "" else label ++ (if options.has 'Z' then "\x00" else "\n"), [], found⟩
  else if options.has 'c' then
    ⟨(name.map fun name => name ++ if options.has 'Z' then "\x00" else ":").getD "" ++
      decimal hits.length ++ "\n", [], found⟩
  else
    let isOdd (line : SearchLine) : Bool := (Octets.characters line.text).any Octets.isStray
    let plain := if asText then lines
      else if hasZero then []
      else lines.takeWhile fun line => !isOdd line
    let hidden := if asText then false else if hasZero then found else plain.length < lines.length
    ⟨searchBlocks quest options name none printed plain,
      if hidden && !skipsBinary then [call.complaint (label ++ ": binary file matches")] else [],
      found⟩

/-! ## 3. Where it is looked for -/

/-- The files below an operand, as their names are written; `follows` says that links are
followed. -/
def filesBelow (call : Call) (options : Options) (skipped : List Char → Bool)
    (kept : List Char → Bool) : (fuel : Nat) → (top : Bool) → (operand : String) → List String
  | 0, _, _ => []
  | fuel + 1, top, operand =>
    let path := call.path (if operand = "" then "." else operand)
    let place := if top || options.has 'R' then call.files.locate? path
      else call.files.locateLink? path
    match place.bind fun place => (call.files.entryAt? place).map (place, ·) with
    | none => if top then [operand] else []
    | some (place, .directory _) =>
      let name := (operand.toList.reverse.takeWhile (· ≠ '/')).reverse
      if !top && skipped name then []
      else
        (call.files.namesBelow place).flatMap fun child =>
          let child := Octets.ofString child
          filesBelow call options skipped kept fuel false
            (if operand = "" then child
              else if operand.toList.getLast? = some '/' then operand ++ child
              else operand ++ "/" ++ child)
    | some (_, .file ..) =>
      if kept (operand.toList.reverse.takeWhile (· ≠ '/')).reverse then [operand] else []
    | some (_, .link _) => if top then [operand] else []
    | some _ => if top then [operand] else []

/-- A pattern of names covers one. -/
def covers (pattern : String) (name : List Char) : Bool :=
  Marked.covers (pattern.toList.map (·, false)) name

/-- The operands of a search, with what is below directories if an option asks for that. -/
def searched (call : Call) (options : Options) (operands : List String) : List String :=
  let included := options.values 'ι'
  let excluded := options.values 'ε'
  let kept (name : List Char) : Bool :=
    (included = [] || included.any (covers · name)) && !excluded.any (covers · name)
  let skipped (name : List Char) : Bool := (options.values 'δ').any (covers · name)
  if options.hasAny "rR" || options.value? 'd' = some "recurse" then
    (if operands = [] then [""] else operands).flatMap fun operand =>
      if operand = "-" then [operand]
      else filesBelow call options skipped kept (deepest call.files + 1) true operand
  else (orInput operands).filter fun operand =>
    operand = "-" || kept (operand.toList.reverse.takeWhile (· ≠ '/')).reverse

/-- How a search is called. -/
def searchUsage (call : Call) : List (Nat × String) :=
  [(2, "Usage: " ++ call.name ++ " [OPTION]... PATTERNS [FILE]...\n" ++ hint call.name ++ "\n")]

/-- What one text after the other adds to a search. -/
def searchStep (call : Call) (quest : Quest) (options : Options) (limit : Option Nat)
    (named : Bool) (state : Deed × Bool × Bool) (operand : String) : Deed × Bool × Bool :=
  let (deed, any, failed) := state
  if options.has 'q' && any then state
  else
    match call.contents operand with
    | .ok text =>
      let printed := deed.said.any fun (descriptor, text) => descriptor = 1 && text ≠ ""
      let finding := call.searchText quest options limit named printed operand text
      ({ deed with said := deed.said ++ [(1, finding.output)] ++ finding.complaints },
        any || finding.found, failed)
    | .error problem =>
      let isDirectory := problem = PathTrouble.isDirectory.message
      if isDirectory && options.value? 'd' = some "skip" then state
      else
        let told := if options.has 's' then []
          else [call.complaint (operand ++ ": " ++ problem)]
        ({ deed with said := deed.said ++ told }, any, true)

/-- The texts that write expressions, among them those of files. -/
def questTexts (call : Call) (options : Options) : Except String (List String) :=
  options.chosen.foldlM (fun texts (letter, value) =>
    if letter = 'e' then .ok (texts ++ [value])
    else if letter = 'f' then
      match call.contents value with
      | .ok text =>
        .ok (if text = "" then texts
          else texts ++ [if text.toList.getLast? = some '\n' then
            String.ofList text.toList.dropLast else text])
      | .error problem => .error (value ++ ": " ++ problem)
    else .ok texts) []

/-- How many operands are no files: one, unless an option takes its place. -/
def leadingOne (options : Options) : Nat := if options.hasAny "ef" then 0 else 1

/-- Prints lines with a match. -/
def search (call : Call) (options : Options) : Deed :=
  let operands := options.operands.drop (leadingOne options)
  let bad := (['A', 'B', 'C'].filterMap fun letter => options.value? letter).find? fun text =>
    (Digits.toNat? 10 text.toList).isNone
  let limit := options.value? 'm'
  if let some text := bad then call.complains (text ++ ": invalid context length argument") 2
  else if limit.any fun text =>
      (Digits.toNat? 10 (text.toList.dropWhile (· = '-'))).isNone then
    call.complains "invalid max count" 2
  else
    match call.questTexts options with
    | .error message => call.complains message 2
    | .ok given =>
      let texts := if leadingOne options = 1 then options.operands.take 1 else given
      if leadingOne options = 1 && options.operands = [] then ⟨call.searchUsage, 2, call.files⟩
      else
        let isClass (text : String) : Bool := options.last? "EFGP" ≠ some 'F' &&
          match text.toList, text.toList.reverse with
          | '[' :: ':' :: _ :: _, ']' :: ':' :: _ :: _ => true
          | _, _ => false
        if texts.any isClass then
          call.complains "character class syntax is [[:space:]], not [:space:]" 2
        else
          match quest options texts with
          | .error trouble =>
            let message := if options.last? "EFGP" = some 'P' && trouble = .openGroup then
              "missing closing parenthesis" else trouble.message
            call.complains message 2
          | .ok quest =>
            let limit := (limit.bind fun text => Digits.toNat? 10 text.toList)
            let files := call.searched options operands
            let isDeep := options.hasAny "rR" || options.value? 'd' = some "recurse"
            let isPlain (operand : String) : Bool := !call.files.isDirectory (call.path operand)
            let named := match options.last? "hH" with
              | some 'H' => true
              | some _ => false
              | none => operands.length > 1 ||
                  (isDeep && !(operands.length = 1 && operands.all isPlain))
            let start : Deed × Bool × Bool :=
              (⟨call.questWarnings options texts, 0, call.files⟩, false, false)
            let (deed, any, failed) :=
              files.foldl (call.searchStep quest options limit named) start
            { deed with
              status := if any && options.has 'q' then 0 else if failed then 2
                else if any then 0 else 1 }

end RenderSync.Shell.Call
