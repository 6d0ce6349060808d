import RenderSync.Shell.Utility.Dates
import RenderSync.Shell.Utility.Files

/-!
# Comparing files

Utilities that say where two texts differ: at which octet, or in which lines.  Lines that both texts
have in common are as many as possible; what lies between them was changed.
-/

namespace RenderSync.Shell.Call

/-! ## 1. Octet by octet -/

/-- The options of the utility that compares octets. -/
def octetGrammar : Grammar :=
  ⟨"bls", "in", "", [("print-bytes", 'b'), ("verbose", 'l'), ("silent", 's'), ("quiet", 's'),
    ("ignore-initial", 'i'), ("bytes", 'n')], false⟩

/-- The places where two texts differ, with the octets there. -/
def differences : (place : Nat) → List Char → List Char → List (Nat × Char × Char)
  | place, a :: first, b :: second =>
    if a = b then differences (place + 1) first second
    else (place, a, b) :: differences (place + 1) first second
  | _, _, _ => []

/-- Says where two texts differ first. -/
def compareOctets (call : Call) (options : Options) : Deed :=
  match options.operands with
  | [] => call.misused "missing operand after 'cmp'" 2
  | first :: others =>
    let second := others.headD "-"
    let quiet := options.has 's'
    let fails (operand problem : String) : Deed :=
      if quiet then call.answers 2 else call.complains (operand ++ ": " ++ problem) 2
    match call.contents first, call.contents second with
    | .error problem, _ => fails first problem
    | _, .error problem => fails second problem
    | .ok a, .ok b =>
      let number (letter : Char) : Option Nat :=
        (options.value? letter).bind fun text => Digits.toNat? 10 (text.toList.takeWhile (· ≠ ':'))
      let cut (text : String) : List Char :=
        let text := text.toList.drop ((number 'i').getD 0)
        match number 'n' with
        | some n => text.take n
        | none => text
      let (a, b) := (cut a, cut b)
      let found := differences 1 a b
      let octal (c : Char) : String :=
        let digits := Digits.ofNat (c.toNat / 64 * 100 + c.toNat / 8 % 8 * 10 + c.toNat % 8)
        String.ofList (List.replicate (3 - digits.length) ' ' ++ digits)
      let shorter := if a.length < b.length then first else second
      let length := min a.length b.length
      let linesIn (text : List Char) : Nat := text.count '\n'
      let ending : List (Nat × String) :=
        if a.length = b.length || quiet then []
        else if length = 0 then [call.complaint ("EOF on " ++ shorter ++ " which is empty")]
        else if options.has 'l' then
          [call.complaint ("EOF on " ++ shorter ++ " after byte " ++ decimal length)]
        else
          let shown := a.take length
          let line := if shown.getLast? = some '\n' then linesIn shown else linesIn shown + 1
          [call.complaint ("EOF on " ++ shorter ++ " after byte " ++ decimal length ++
            (if shown.getLast? = some '\n' then ", line " else ", in line ") ++ decimal line)]
      if quiet then call.answers (if found = [] && a.length = b.length then 0 else 1)
      else if options.has 'l' then
        let width := (decimal (max a.length b.length)).length
        ⟨found.map (fun (n, c, d) =>
            (1, padded width n ++ " " ++ octal c ++ " " ++ octal d ++ "\n")) ++ ending,
          if found = [] && ending = [] then 0 else 1, call.files⟩
      else
        match found with
        | (n, _, _) :: _ =>
          { call.gives (first ++ " " ++ second ++ " differ: byte " ++ decimal n ++ ", line " ++
              decimal (linesIn (a.take (n - 1)) + 1) ++ "\n") with status := 1 }
        | [] => ⟨ending, if ending = [] then 0 else 1, call.files⟩

/-! ## 2. Line by line -/

/-- What becomes of a line on the way from one text to another. -/
inductive LineChange where
  | same
  | gone
  | added
deriving DecidableEq, Repr, Inhabited

/-- The lengths of the longest common parts of a row of lines and all ends of another text, the
longest end first. -/
def commonRow (first : List Bool) (below : List Nat) : List Nat :=
  match first, below with
  | equal :: first, n :: m :: below =>
    let rest := commonRow first (m :: below)
    (if equal then m + 1 else max n (rest.headD 0)) :: rest
  | _, _ => [0]

/-- The table of the lengths of longest common parts: a row for every end of the first text. -/
def commonTable (equal : List Char → List Char → Bool) (second : List (List Char)) :
    List (List Char) → List (List Nat)
  | [] => [List.replicate (second.length + 1) 0]
  | line :: rest =>
    match commonTable equal second rest with
    | [] => []
    | row :: rows => commonRow (second.map (equal line)) row :: row :: rows

/-- The way through a table from one text to the other; lines go before others come. -/
def changesAlong (equal : List Char → List Char → Bool) : (fuel : Nat) → (table : List (List Nat)) →
    List (List Char) → List (List Char) → List LineChange
  | 0, _, _, _ => []
  | _, _, [], second => second.map fun _ => .added
  | _, _, first, [] => first.map fun _ => .gone
  | fuel + 1, table, a :: first, b :: second =>
    let row := table.headD []
    let below := (table.drop 1).headD []
    if equal a b then
      .same :: changesAlong equal fuel ((table.drop 1).map (·.drop 1)) first second
    else if (row.drop 1).headD 0 ≤ below.headD 0 then
      .gone :: changesAlong equal fuel (table.drop 1) first (b :: second)
    else .added :: changesAlong equal fuel (table.map (·.drop 1)) (a :: first) second

/-- The changes from one text to another; what both have at their ends is not looked at. -/
def changesBetween (equal : List Char → List Char → Bool) (first second : List (List Char)) :
    List LineChange :=
  let rec shared : List (List Char) → List (List Char) → Nat
    | a :: first, b :: second => if equal a b then shared first second + 1 else 0
    | _, _ => 0
  let front := shared first second
  let first := first.drop front
  let second := second.drop front
  let back := shared first.reverse second.reverse
  let first := first.take (first.length - back)
  let second := second.take (second.length - back)
  let table := commonTable equal second first
  List.replicate front .same ++
    changesAlong equal (first.length + second.length + 1) table first second ++
    List.replicate back .same

/-- Lines in a row that were changed: how many lines stand in front of them in each text, and how
many of each there are. -/
structure Hunk where
  before : Nat × Nat
  gone : Nat
  added : Nat
deriving DecidableEq, Repr, Inhabited

/-- Changes as hunks. -/
def hunksOf (place : Nat × Nat) : List LineChange → List Hunk
  | [] => []
  | .same :: rest => hunksOf (place.1 + 1, place.2 + 1) rest
  | change :: rest =>
    let isGone := change = .gone
    let next := if isGone then (place.1 + 1, place.2) else (place.1, place.2 + 1)
    let own : Hunk := ⟨place, if isGone then 1 else 0, if isGone then 0 else 1⟩
    match hunksOf next rest with
    | hunk :: others =>
      if hunk.before = next && (rest.head? ≠ some .same) then
        ⟨place, hunk.gone + own.gone, hunk.added + own.added⟩ :: others
      else own :: hunk :: others
    | [] => [own]

/-- A text as lines, and whether the last one is complete. -/
structure Compared where
  name : String
  lines : List (List Char)
  isWhole : Bool

/-- A line with a sign in front of it, and what is said if it is not complete. -/
def signedLine (sign : String) (text : Compared) (n : Nat) : String :=
  sign ++ String.ofList ((text.lines[n]?).getD []) ++ "\n" ++
    if n + 1 = text.lines.length && !text.isWhole then "\\ No newline at end of file\n" else ""

/-- Lines of a text from one to another, the last one apart. -/
def signedLines (sign : String) (text : Compared) (from_ count : Nat) : String :=
  String.join ((List.range count).map fun n => signedLine sign text (from_ + n))

/-- Hunks in the plain format. -/
def plainHunks (a b : Compared) (hunks : List Hunk) : String :=
  let range (before count : Nat) : String :=
    if count = 0 then decimal before
    else if count = 1 then decimal (before + 1)
    else decimal (before + 1) ++ "," ++ decimal (before + count)
  String.join (hunks.map fun hunk =>
    let kind := if hunk.gone = 0 then "a" else if hunk.added = 0 then "d" else "c"
    range hunk.before.1 hunk.gone ++ kind ++ range hunk.before.2 hunk.added ++ "\n" ++
      signedLines "< " a hunk.before.1 hunk.gone ++
      (if kind = "c" then "---\n" else "") ++ signedLines "> " b hunk.before.2 hunk.added)

/-- Hunks with no more lines between them than belong to their surroundings. -/
def groupsOf (context : Nat) : List Hunk → List (List Hunk)
  | [] => []
  | hunk :: rest =>
    match groupsOf context rest with
    | (next :: group) :: groups =>
      if next.before.1 - (hunk.before.1 + hunk.gone) ≤ 2 * context then
        (hunk :: next :: group) :: groups
      else [hunk] :: (next :: group) :: groups
    | groups => [hunk] :: groups

/-- Hunks with lines around them. -/
def unifiedHunks (context : Nat) (a b : Compared) (hunks : List Hunk) : String :=
  String.join ((groupsOf context hunks).map fun group =>
    let first := group.headD default
    let last := group.getLastD default
    let front := min context first.before.1
    let stop := min a.lines.length (last.before.1 + last.gone + context)
    let start := first.before.1 - front
    let startB := first.before.2 - front
    let countB := (last.before.2 + last.added) + (stop - (last.before.1 + last.gone)) - startB
    let range (start count : Nat) : String :=
      if count = 1 then decimal (start + 1)
      else decimal (if count = 0 then start else start + 1) ++ "," ++ decimal count
    let (body, at_) := group.foldl (fun (body, at_) hunk =>
      (body ++ signedLines " " a at_ (hunk.before.1 - at_) ++
        signedLines "-" a hunk.before.1 hunk.gone ++ signedLines "+" b hunk.before.2 hunk.added,
        hunk.before.1 + hunk.gone)) ("", start)
    "@@ -" ++ range start (stop - start) ++ " +" ++ range startB countB ++ " @@\n" ++ body ++
      signedLines " " a at_ (stop - at_))

/-- The options of the utility that compares lines. -/
def lineGrammar : Grammar :=
  ⟨"abBcdeEiNnqrstTuwyZσ", "CUxXILWF", "", [("text", 'a'), ("ignore-space-change", 'b'),
    ("ignore-blank-lines", 'B'), ("ignore-case", 'i'), ("new-file", 'N'), ("brief", 'q'),
    ("recursive", 'r'), ("report-identical-files", 's'), ("ignore-all-space", 'w'),
    ("ignore-trailing-space", 'Z'), ("unified", 'u'), ("label", 'L'), ("exclude", 'x'),
    ("strip-trailing-cr", 'σ'), ("side-by-side", 'y')], false⟩

/-- Lines are the same, as far as the options tell them apart. -/
def sameLine (options : Options) (a b : List Char) : Bool :=
  let blank (c : Char) : Bool := c = ' ' || c = '\t' || c = '\r' || c = '\x0b' || c = '\x0c'
  let trimmed (line : List Char) : List Char := (line.reverse.dropWhile blank).reverse
  let rec joined : List Char → List Char
    | c :: d :: rest =>
      if blank c then if blank d then joined (d :: rest) else ' ' :: joined (d :: rest)
      else c :: joined (d :: rest)
    | rest => rest
  let shape (line : List Char) : List Char :=
    let line := if options.has 'σ' && line.getLast? = some '\r' then line.dropLast else line
    let line := if options.has 'w' then line.filter fun c => !blank c
      else if options.has 'b' then joined (trimmed line)
      else if options.has 'Z' then trimmed line else line
    if options.has 'i' then line.map Char.toLower else line
  a = b || shape a = shape b

/-- Compares two texts. -/
def compareTexts (options : Options) (first second : String) (a b : String)
    (stamps : Int × Int) (command : String) : String × Bool :=
  let text (name text : String) : Compared :=
    ⟨name, linesOf text, text = "" || text.toList.getLast? = some '\n'⟩
  let a := text first a
  let b := text second b
  let odd (text : Compared) (lines : List (List Char)) : List (List Char) :=
    -- A last line that is not complete is another line.
    if text.isWhole then lines
    else lines.modify (lines.length - 1) (· ++ ['\n'])
  let hunks := hunksOf (0, 0)
    (changesBetween (sameLine options) (odd a a.lines) (odd b b.lines))
  let isBlank (line : List Char) : Bool := line = []
  let hunks := if options.has 'B' then hunks.filter fun hunk =>
      !(((a.lines.drop hunk.before.1).take hunk.gone).all isBlank &&
        ((b.lines.drop hunk.before.2).take hunk.added).all isBlank)
    else hunks
  if hunks = [] then
    (if options.has 's' then "Files " ++ first ++ " and " ++ second ++ " are identical\n" else "",
      false)
  else if options.has 'q' then
    (command ++ "Files " ++ first ++ " and " ++ second ++ " differ\n", true)
  else
    let context := match options.last? "uU" with
      | some 'U' =>
        some (((options.value? 'U').bind fun text => Digits.toNat? 10 text.toList).getD 3)
      | some _ => some 3
      | none => none
    let labels := options.values 'L'
    let header (sign name : String) (stamp : Int) (label : Option String) : String :=
      sign ++ " " ++ (label.getD (name ++ "\t" ++ dated stamp "%Y-%m-%d %H:%M:%S.%N %z")) ++ "\n"
    match context with
    | some context =>
      (command ++ header "---" first stamps.1 labels.head? ++
        header "+++" second stamps.2 labels[1]? ++ unifiedHunks context a b hunks, true)
    | none => (command ++ plainHunks a b hunks, true)

/-- When an operand was changed last. -/
def stampOfOperand (call : Call) (operand : String) : Int :=
  match call.files.locate? (call.path operand) with
  | some place => call.files.stampOf place
  | none => call.clock

/-- A name in a directory. -/
def below (directory name : String) : String :=
  if directory.toList.getLast? = some '/' then directory ++ name else directory ++ "/" ++ name

/-- Compares two files, or two directories if that is asked for; `fuel` bounds their depth. -/
def compareOperands (call : Call) (options : Options) (top : Bool) : (fuel : Nat) →
    (first second : String) → Deed
  | 0, _, _ => call.answers 0
  | fuel + 1, first, second =>
    let isDirectory (operand : String) : Bool :=
      operand ≠ "-" && call.files.isDirectory (call.path operand)
    let name (operand : String) : String := (FileTree.lastPiece ⟨Octets.toString operand⟩)
    match isDirectory first, isDirectory second with
    | true, true =>
      if !top && !options.has 'r' then
        call.gives ("Common subdirectories: " ++ first ++ " and " ++ second ++ "\n")
      else
        let names (operand : String) : List String :=
          (((call.files.locate? (call.path operand)).map call.files.namesBelow).getD []).map
            Octets.ofString
        let all := ((names first ++ names second).eraseDups.mergeSort (· ≤ ·)).filter fun name =>
          !(options.values 'x').any fun pattern =>
            Marked.covers (pattern.toList.map (·, false)) name.toList
        all.foldl (fun deed name =>
          let hasFirst := (names first).contains name
          let hasSecond := (names second).contains name
          if (hasFirst && hasSecond) || options.has 'N' then
            deed.followedBy (compareOperands call options false fuel (below first name)
              (below second name))
          else deed.followedBy
            { call.gives
                ("Only in " ++ (if hasFirst then first else second) ++ ": " ++ name ++ "\n")
              with status := 1 }) (call.answers 0)
    | true, false =>
      if top then compareOperands call options false fuel
        (below first (Octets.ofString (name second))) second
      else { call.gives ("File " ++ first ++ " is a directory while file " ++ second ++
          " is a regular file\n") with status := 1 }
    | false, true =>
      if top then compareOperands call options false fuel first
        (below second (Octets.ofString (name first)))
      else { call.gives ("File " ++ first ++ " is a regular file while file " ++ second ++
          " is a directory\n") with status := 1 }
    | false, false =>
      let read (operand : String) : Except String String :=
        match call.contents operand with
        | .ok text => .ok text
        | .error problem => if options.has 'N' then .ok "" else .error problem
      match read first, read second with
      | .error problem, other =>
        let more := match other with
          | .error problem => [call.complaint (second ++ ": " ++ problem)]
          | .ok _ => []
        ⟨call.complaint (first ++ ": " ++ problem) :: more, 2, call.files⟩
      | _, .error problem => call.complains (second ++ ": " ++ problem) 2
      | .ok a, .ok b =>
        let shown := options.chosen.flatMap fun (letter, value) =>
          if "σ".toList.contains letter then []
          else [" -" ++ letter.toString ++ (if value = "" then "" else " " ++ value)]
        let command := if top || !options.has 'r' || options.has 'q' then ""
          else "diff" ++ String.join shown ++ " " ++ first ++ " " ++ second ++ "\n"
        let (text, differs) := compareTexts options first second a b
          (call.stampOfOperand first, call.stampOfOperand second) command
        { call.gives text with status := if differs then 1 else 0 }

/-- Says in which lines files differ. -/
def compareFiles (call : Call) (options : Options) : Deed :=
  match options.operands with
  | [first, second] => call.compareOperands options true (deepest call.files + 3) first second
  | [] => call.misused "missing operand after 'diff'" 2
  | [only] => call.misused ("missing operand after " ++ inQuotes only) 2
  | _ :: _ :: extra :: _ => call.misused ("extra operand " ++ inQuotes extra) 2

end RenderSync.Shell.Call
