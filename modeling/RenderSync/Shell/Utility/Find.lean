import RenderSync.Shell.Utility.Listing

/-!
# Looking through directories

The utility that goes through directories and asks for each file what an expression says: tests,
joined by operators, and acts, which print the file, take it away, or run a command for it.

`Find.visits` keeps the files that are still to be looked at in a list; what is asked of one of them
comes back through what is to be done next.
-/

namespace RenderSync.Shell.Find

/-! ## 1. Expressions -/

/-- How a number compares. -/
inductive Measure where
  | exactly (n : Nat)
  | more (n : Nat)
  | less (n : Nat)
deriving DecidableEq, Repr

/-- A number compares as asked for. -/
def Measure.holds (n : Nat) : Measure → Bool
  | exactly m => n = m
  | more m => m < n
  | less m => n < m

/-- How permission bits are asked for. -/
inductive ModeTest where
  | exactly
  | all
  | any
deriving DecidableEq, Repr

/-- What is asked of a file, or done with it. -/
inductive Step where
  | constant (holds : Bool)
  /-- Its name, or its whole path, fits a pattern. -/
  | named (whole folded : Bool) (pattern : String)
  | regex (regex : Regex) (folded : Bool)
  | kind (letters : List Char)
  | empty
  | size (measure : Measure) (unit : Nat)
  /-- Its age in units of time. -/
  | age (measure : Measure) (unit : Nat) (whole : Bool)
  | newer (moment : Int)
  | mode (test : ModeTest) (bits : Nat)
  | links (measure : Measure)
  | executable
  | target (pattern : String)
  | same (place : Place)
  | print (ending : String)
  | printf (format : String)
  /-- Runs a command for each file, or in the directory where it is. -/
  | run (words : List String) (inPlace : Bool)
  /-- Runs a command for many files at once. -/
  | gather (number : Nat) (words : List String)
  | delete
  | prune
  | quit
  | not (inner : Step)
  | both (first second : Step)
  | either (first second : Step)
  | list (first second : Step)
deriving Inhabited

namespace Step

/-- It has an act that stands for printing. -/
def hasAct : Step → Bool
  | print _ | printf _ | run .. | gather .. | delete => true
  | not inner => inner.hasAct
  | both first second | either first second | list first second => first.hasAct || second.hasAct
  | _ => false

/-- The commands for many files at once. -/
def gatherings : Step → List (Nat × List String)
  | gather number words => [(number, words)]
  | not inner => inner.gatherings
  | both first second | either first second | list first second =>
    first.gatherings ++ second.gatherings
  | _ => []

end Step

/-- How directories are gone through. -/
structure Manner where
  most : Option Nat := none
  least : Nat := 0
  /-- What is in a directory comes before the directory. -/
  inside : Bool := false
  /-- Links are passed through: always, or where they are operands. -/
  follows : Bool := false
  followsOperands : Bool := false
deriving Repr, Inhabited

/-! ## 2. Reading expressions -/

/-- What is known while an expression is read. -/
structure Reading where
  rest : List String
  manner : Manner
  gathered : Nat
  extended : Bool := false

/-- Reads a part of an expression. -/
abbrev Read := StateT Reading (Except String)

/-- The next word. -/
def nextWord? : Read (Option String) := do return (← get).rest.head?

/-- Goes on behind the next word. -/
def skipWord : Read Unit := modify fun reading => { reading with rest := reading.rest.tail }

/-- The argument of a test. -/
def argument (name : String) : Read String := do
  match ← nextWord? with
  | some word =>
    skipWord
    return word
  | none => throw ("missing argument to \x60" ++ name ++ "'")

/-- A number with a sign that says how it compares. -/
def measure? (text : String) : Option Measure :=
  match text.toList with
  | '+' :: digits => (Digits.toNat? 10 digits).map .more
  | '-' :: digits => (Digits.toNat? 10 digits).map .less
  | digits => (Digits.toNat? 10 digits).map .exactly

/-- A measure as the argument of a test. -/
def measured (name : String) : Read Measure := do
  let text ← argument name
  match measure? text with
  | some measure => return measure
  | none => throw ("invalid argument \x60" ++ text ++ "' to \x60" ++ name ++ "'")

/-- The sizes that letters stand for. -/
def sizeUnits : List (Char × Nat) :=
  [('c', 1), ('w', 2), ('b', 512), ('k', 1024), ('M', 1048576), ('G', 1073741824)]

/-- The words of a command up to its end, and whether they end with a plus behind braces. -/
def commandWords : (fuel : Nat) → Read (Option (List String × Bool))
  | 0 => return none
  | fuel + 1 => do
    match (← get).rest with
    | [] => return none
    | ";" :: rest =>
      modify fun reading => { reading with rest }
      return some ([], false)
    | "\x7b\x7d" :: "+" :: rest =>
      modify fun reading => { reading with rest }
      return some ([], true)
    | word :: rest =>
      modify fun reading => { reading with rest }
      return (← commandWords fuel).map fun (words, many) => (word :: words, many)

/-- An expression in the notation of this utility: plus and question marks are operators, brackets
and bars have a backslash. -/
def inNotation : List Char → List Char
  | '\\' :: c :: rest =>
    (if c = '+' || c = '?' then [c] else ['\\', c]) ++ inNotation rest
  | c :: rest => (if c = '+' || c = '?' then ['\\', c] else [c]) ++ inNotation rest
  | [] => []

/-- A test, an act or an option by its name; `none` if there is no such thing. -/
def stepNamed (call : Call) (name : String) : Read (Option Step) := do
  let named (whole folded : Bool) : Read (Option Step) := do
    return some (.named whole folded (← argument name))
  let age (unit : Nat) (whole : Bool) : Read (Option Step) := do
    return some (.age (← measured name) unit whole)
  let regex (folded : Bool) : Read (Option Step) := do
    let text := (← argument name).toList
    let extended := (← get).extended
    match Regex.read (Regex.searching extended) (if extended then text else inNotation text) with
    | .ok regex => return some (.regex regex folded)
    | .error trouble => throw trouble.message
  let option (change : Manner → Manner) : Read (Option Step) := do
    modify fun reading => { reading with manner := change reading.manner }
    return some (.constant true)
  let number : Read Nat := do
    let text ← argument name
    match Digits.toNat? 10 text.toList with
    | some n => return n
    | none => throw ("Expected a positive decimal integer argument to " ++ name ++ ", but got " ++
        curly text)
  let run (inPlace : Bool) : Read (Option Step) := do
    match ← commandWords ((← get).rest.length + 1) with
    | some (word :: words, false) => return some (.run (word :: words) inPlace)
    | some (word :: words, true) =>
      let number := (← get).gathered
      modify fun reading => { reading with gathered := number + 1 }
      return some (.gather number (word :: words))
    | _ => throw ("missing argument to \x60" ++ name ++ "'")
  match name with
  | "-true" => return some (.constant true)
  | "-false" => return some (.constant false)
  | "-name" => named false false
  | "-iname" => named false true
  | "-path" | "-wholename" => named true false
  | "-ipath" | "-iwholename" => named true true
  | "-regex" => regex false
  | "-iregex" => regex true
  | "-regextype" =>
    let kind ← argument name
    modify fun reading => { reading with extended := kind = "posix-extended" || kind = "egrep" }
    return some (.constant true)
  | "-type" | "-xtype" =>
    let text ← argument name
    let letters := text.toList.filter (· ≠ ',')
    match letters.find? fun c => !"bcdpflsD".toList.contains c with
    | some c => throw ("Unknown argument to " ++ name ++ ": " ++ c.toString)
    | none => return some (.kind letters)
  | "-empty" => return some .empty
  | "-size" =>
    let text ← argument name
    let (digits, unit) : List Char × List Char := text.toList.span fun c => !c.isAlpha
    let unit := match unit with
      | [] => some 512
      | [c] => sizeUnits.lookup c
      | _ => none
    match measure? (String.ofList digits), unit with
    | some measure, some unit => return some (.size measure unit)
    | _, _ => throw ("Invalid argument \x60" ++ text ++ "' to -size")
  | "-mtime" | "-ctime" | "-atime" => age 86400 true
  | "-mmin" | "-cmin" | "-amin" => age 60 false
  | "-newer" | "-anewer" | "-cnewer" =>
    let file ← argument name
    match call.files.locate? (call.path file) with
    | some place => return some (.newer (call.files.stampOf place))
    | none => throw (curly file ++ ": " ++ (call.files.trouble (call.path file)).message)
  | "-newermt" =>
    let text ← argument name
    match moment? call.clock text with
    | some moment => return some (.newer moment)
    | none => throw ("I cannot figure out how to interpret " ++ curly text ++ " as a date or time")
  | "-perm" =>
    let text ← argument name
    let (test, body) : ModeTest × String := match text.toList with
      | '-' :: body => (.all, String.ofList body)
      | '/' :: body => (.any, String.ofList body)
      | _ => (.exactly, text)
    match Call.modeOf? 0 false 0 body with
    | some bits => return some (.mode test bits)
    | none => throw ("invalid mode " ++ curly text)
  | "-links" => return some (.links (← measured name))
  | "-user" | "-group" =>
    let who ← argument name
    if who = "root" || who = "0" then return some (.constant true)
    else if who.toList.all Digits.isDecimal then return some (.constant false)
    else throw (curly who ++ " is not the name of " ++
      (if name = "-user" then "a known user" else "an existing group"))
  | "-uid" | "-gid" => return some (.constant ((← measured name).holds 0))
  | "-nouser" | "-nogroup" => return some (.constant false)
  | "-readable" | "-writable" => return some (.constant true)
  | "-executable" => return some .executable
  | "-lname" => return some (.target (← argument name))
  | "-samefile" =>
    let file ← argument name
    match call.files.locateLink? (call.path file) with
    | some place => return some (.same place)
    | none => throw (curly file ++ ": " ++ (call.files.trouble (call.path file)).message)
  | "-print" => return some (.print "\n")
  | "-print0" => return some (.print "\x00")
  | "-printf" => return some (.printf (← argument name))
  | "-exec" | "-ok" => run false
  | "-execdir" | "-okdir" => run true
  | "-delete" =>
    let _ ← option fun manner => { manner with inside := true }
    return some .delete
  | "-prune" => return some .prune
  | "-quit" => return some .quit
  | "-depth" | "-d" => option fun manner => { manner with inside := true }
  | "-follow" => option fun manner => { manner with follows := true }
  | "-maxdepth" =>
    let n ← number
    option fun manner => { manner with most := some n }
  | "-mindepth" =>
    let n ← number
    option fun manner => { manner with least := n }
  | "-xdev" | "-mount" | "-noleaf" | "-daystart" | "-warn" | "-nowarn"
  | "-ignore_readdir_race" => return some (.constant true)
  | _ => return none

mutual

/-- Expressions side by side: the last one counts. -/
def readListed (call : Call) : (fuel : Nat) → Read Step
  | 0 => throw "invalid expression"
  | fuel + 1 => do
    let first ← readEither call fuel
    if (← nextWord?) = some "," then
      skipWord
      return .list first (← readListed call fuel)
    else return first

/-- Expressions of which one has to hold. -/
def readEither (call : Call) : (fuel : Nat) → Read Step
  | 0 => throw "invalid expression"
  | fuel + 1 => do
    let first ← readBoth call fuel
    match ← nextWord? with
    | some "-o" | some "-or" =>
      skipWord
      return .either first (← readEither call fuel)
    | _ => return first

/-- Expressions that all have to hold. -/
def readBoth (call : Call) : (fuel : Nat) → Read Step
  | 0 => throw "invalid expression"
  | fuel + 1 => do
    let first ← readOne call fuel
    match ← nextWord? with
    | none | some ")" | some "," | some "-o" | some "-or" => return first
    | some "-a" | some "-and" =>
      skipWord
      return .both first (← readBoth call fuel)
    | _ => return .both first (← readBoth call fuel)

/-- One expression. -/
def readOne (call : Call) : (fuel : Nat) → Read Step
  | 0 => throw "invalid expression"
  | fuel + 1 => do
    match ← nextWord? with
    | none => throw "invalid expression; you have used a binary operator with nothing after it."
    | some "!" | some "-not" =>
      skipWord
      return .not (← readOne call fuel)
    | some "(" =>
      skipWord
      let inner ← readListed call fuel
      if (← nextWord?) = some ")" then
        skipWord
        return inner
      else
        throw "invalid expression; I was expecting to find a ')' somewhere but did not see one."
    | some name =>
      skipWord
      match ← stepNamed call name with
      | some step => return step
      | none =>
        if name.toList.head? = some '-' && 1 < name.length then
          throw ("unknown predicate \x60" ++ name ++ "'")
        else throw ("paths must precede expression: \x60" ++ name ++ "'")

end

/-- A word with which an expression starts. -/
def startsExpression (word : String) : Bool :=
  (word.toList.head? = some '-' && 1 < word.length) || word = "(" || word = "!"

/-- Options in front of the paths. -/
def leadingOptions (manner : Manner) : List String → Manner × List String
  | "-P" :: rest => leadingOptions { manner with follows := false, followsOperands := false } rest
  | "-L" :: rest => leadingOptions { manner with follows := true } rest
  | "-H" :: rest => leadingOptions { manner with followsOperands := true } rest
  | words => (manner, words)

/-- The paths, the expression, and the manner that arguments ask for. -/
def ofArguments (call : Call) : Except String (List String × Step × Manner) := do
  let (manner, words) := leadingOptions {} call.arguments
  let (paths, words) := words.span fun word => !startsExpression word
  let paths := if paths = [] then ["."] else paths
  if words = [] then return (paths, .print "\n", manner)
  else
    let (step, reading) ← (readListed call (4 * words.length + 8)).run ⟨words, manner, 0, false⟩
    match reading.rest with
    | ")" :: _ => throw "you have too many ')'"
    | word :: _ => throw ("paths must precede expression: \x60" ++ word ++ "'")
    | [] =>
      return (paths, if step.hasAct then step else .both step (.print "\n"), reading.manner)

/-! ## 3. Files -/

/-- A file on the way. -/
structure Found where
  /-- The path from the operand on, the operand, and how far below it. -/
  path : String
  operand : String
  depth : Nat
  place : Place
  entry : Entry

/-- How far a search has got. -/
structure Progress where
  /-- Files for commands that run for many at once, the last first. -/
  gathered : List (Nat × List String) := []
  status : Nat := 0
  /-- Nothing more is looked for. -/
  stops : Bool := false
  /-- What is in this directory is not looked at. -/
  skips : Bool := false

/-- The name at the end of a path. -/
def nameOf (path : String) : String :=
  match (path.toList.reverse.dropWhile (· = '/')) with
  | [] => "/"
  | body => String.ofList (body.takeWhile (· ≠ '/')).reverse

/-- The path in front of the name at the end. -/
def directoryOf (path : String) : String :=
  match (path.toList.reverse.dropWhile (· = '/')).dropWhile (· ≠ '/') with
  | [] => if path.toList.head? = some '/' then "" else "."
  | ['/'] => ""
  | body => String.ofList (body.drop 1).reverse

/-- A text fits a pattern. -/
def fits (folded : Bool) (pattern text : String) : Bool :=
  let lower (text : String) : String := if folded then text.map Char.toLower else text
  Marked.covers ((lower pattern).toList.map (·, false)) (lower text).toList

/-- The letter for the kind of an entry. -/
def letterOf (entry : Entry) : Char :=
  match Call.kindLetter entry with
  | '-' => 'f'
  | c => c

/-- What a directive of a format stands for. -/
def fieldText (call : Call) (files : FileTree) (found : Found) : List Char →
    Option (String × List Char)
  | letter :: rest =>
    let moment := files.stampOf found.place
    let plain (text : String) : Option (String × List Char) := some (text, rest)
    match letter with
    | 'p' => plain found.path
    | 'f' => plain (nameOf found.path)
    | 'h' => plain (directoryOf found.path)
    | 'H' => plain found.operand
    | 'P' => plain (String.ofList
        ((found.path.toList.drop found.operand.length).dropWhile (· = '/')))
    | 'd' => plain (decimal found.depth)
    | 's' => plain (decimal (Call.sizeOf found.entry))
    | 'b' => plain (decimal (Call.blocksOf found.entry))
    | 'k' => plain (decimal (Call.blocksOf found.entry / 2))
    | 'y' | 'Y' => plain (letterOf found.entry).toString
    | 'm' => plain (Call.octalMode 1 found.entry.mode)
    | 'M' => plain ((Call.kindLetter found.entry).toString ++ Call.modeLetters found.entry.mode)
    | 'n' => plain (decimal (Call.linksOf files found.place))
    | 'u' | 'g' => plain "root"
    | 'U' | 'G' | 'S' => plain "0"
    | 'i' => (call.statField found.place found.entry "" 'i').map (·, rest)
    | 'l' => plain (match found.entry with
        | .link target => Octets.ofString target
        | _ => "")
    | 't' | 'a' | 'c' => plain (dated moment "%a %b %e %H:%M:%S.%N0 %Y")
    | 'T' | 'A' | 'C' =>
      match rest with
      | '@' :: rest => some (dated moment "%s.%N0", rest)
      | '+' :: rest => some (dated moment "%Y-%m-%d+%H:%M:%S.%N0", rest)
      | c :: rest => some (dated moment (String.ofList ['%', c]), rest)
      | [] => none
    | '%' => plain "%"
    | _ => none
  | [] => none

/-- A file printed by a format; `fuel` bounds its length. -/
def formatText (call : Call) (files : FileTree) (found : Found) : (fuel : Nat) → List Char →
    List Char
  | 0, _ | _, [] => []
  | _, '\\' :: 'c' :: _ => []
  | fuel + 1, '\\' :: rest =>
    let (c, rest) := Format.escape rest
    c :: formatText call files found fuel rest
  | fuel + 1, '%' :: rest =>
    let (flags, behind) := rest.span "-0 #+".toList.contains
    let (digits, behind) := behind.span Digits.isDecimal
    match fieldText call files found behind with
    | some (text, rest) =>
      let directive : Format.Directive :=
        ⟨flags, (Digits.toNat? 10 digits).getD 0, none, 's'⟩
      directive.pad text.toList ++ formatText call files found fuel rest
    | none => '%' :: formatText call files found fuel rest
  | fuel + 1, c :: rest => c :: formatText call files found fuel rest

/-! ## 4. Asking -/

/-- A command with a path in the place of braces. -/
def withPath (words : List String) (path : String) : List String :=
  words.map fun word =>
    let rec replaced : List Char → List Char
      | '\x7b' :: '\x7d' :: rest => path.toList ++ replaced rest
      | c :: rest => c :: replaced rest
      | [] => []
    String.ofList (replaced word.toList)

/-- Whether a test holds that is no act. -/
def holds (call : Call) (files : FileTree) (found : Found) : Step → Bool
  | .constant holds => holds
  | .named whole folded pattern =>
    fits folded pattern (if whole then found.path else nameOf found.path)
  | .regex regex folded =>
    match regex.matchAt? folded ⟨[], found.path.toList, []⟩ with
    | some result => result.after = []
    | none => false
  | .kind letters => letters.contains (letterOf found.entry)
  | .empty =>
    match found.entry with
    | .file _ content => content.bytes = []
    | .directory _ => files.namesBelow found.place = []
    | _ => false
  | .size measure unit => measure.holds ((Call.sizeOf found.entry + unit - 1) / unit)
  | .age measure unit whole =>
    let age := (call.clock - files.stampOf found.place).toNat
    let span := unit * RenderSync.second
    match measure with
    | .exactly n => (if whole then age / span else (age + span - 1) / span) = n
    | .more n => if whole then n < age / span else n * span < age
    | .less n => if whole then age / span < n else age < n * span
  | .newer moment => moment < files.stampOf found.place
  | .mode test bits =>
    let mode := found.entry.mode
    match test with
    | .exactly => mode = bits
    | .all => mode &&& bits = bits
    | .any => bits = 0 || mode &&& bits ≠ 0
  | .links measure => measure.holds (Call.linksOf files found.place)
  | .executable => found.entry.isDirectory || found.entry.mode &&& 0o111 ≠ 0
  | .target pattern =>
    match found.entry with
    | .link target => fits false pattern (Octets.ofString target)
    | _ => false
  | .same place => found.place = place
  | _ => true

/-- Does what is asked for, and goes on with whether it holds. -/
def asks (call : Call) (found : Found) : Step → (next : Bool → Progress → Course) → Progress →
    Course
  | .not inner, next, progress =>
    asks call found inner (fun holds progress => next (!holds) progress) progress
  | .both first second, next, progress =>
    asks call found first (fun holds progress =>
      if holds && !progress.stops then asks call found second next progress
      else next holds progress) progress
  | .either first second, next, progress =>
    asks call found first (fun holds progress =>
      if holds || progress.stops then next holds progress
      else asks call found second next progress) progress
  | .list first second, next, progress =>
    asks call found first (fun _ progress =>
      if progress.stops then next true progress else asks call found second next progress) progress
  | .print ending, next, progress => .write 1 (found.path ++ ending) (next true progress)
  | .printf format, next, progress =>
    .look fun files =>
      .printing (String.ofList (formatText call files found (format.length + 1) format.toList))
        (next true progress)
  | .run words inPlace, next, progress =>
    let errand : List String :=
      if inPlace then
        let directory := directoryOf found.path
        "env" :: "-C" :: (if directory = "" then "/" else directory) ::
          withPath words ("./" ++ nameOf found.path)
      else withPath words found.path
    .run { words := errand } fun report =>
      match report.outcome with
      | .ok ended => next (statusOf ended = 0) progress
      | .error fault =>
        .complaining (call.name ++ ": " ++ curly (words.headD "") ++ ": " ++ fault.problem ++ "\n")
          (next false progress)
  | .gather number _, next, progress =>
    let paths := (progress.gathered.lookup number).getD []
    next true { progress with
      gathered := (number, found.path :: paths) :: progress.gathered.filter (·.1 ≠ number) }
  | .delete, next, progress =>
    if nameOf found.path = "." then next true progress
    else
      .look fun files =>
        if found.entry.isDirectory && files.namesBelow found.place ≠ [] then
          .complaining (call.name ++ ": cannot delete " ++ curly found.path ++
            ": Directory not empty\n") (next false { progress with status := 1 })
        else .put (files.erase found.place) (next true progress)
  | .prune, next, progress => next true { progress with skips := true }
  | .quit, next, progress => next true { progress with stops := true }
  | step, next, progress => .look fun files => next (holds call files found step) progress

/-! ## 5. Going through directories -/

/-- What is still to be done: a file is looked at, or, behind what is in it, asked for. -/
inductive Visit where
  | look (path operand : String) (depth : Nat)
  | ask (found : Found)

/-- The path of a name within a directory. -/
def within (path name : String) : String :=
  if path.toList.getLast? = some '/' then path ++ name else path ++ "/" ++ name

/-- The end of a search: commands for many files run. -/
def finishes (call : Call) (progress : Progress) : List (Nat × List String) → Course
  | [] => .finish progress.status
  | (number, words) :: rest =>
    match ((progress.gathered.lookup number).getD []).reverse with
    | [] => finishes call progress rest
    | paths =>
      .run { words := words ++ paths } fun report =>
        match report.outcome with
        | .ok ended =>
          finishes call
            { progress with status := if statusOf ended = 0 then progress.status else 1 } rest
        | .error fault =>
          .complaining
            (call.name ++ ": " ++ curly (words.headD "") ++ ": " ++ fault.problem ++ "\n")
            (finishes call { progress with status := 1 } rest)

/-- Goes through files; `fuel` bounds how many. -/
def visits (call : Call) (step : Step) (manner : Manner) : (fuel : Nat) → List Visit → Progress →
    Course
  | 0, _, progress | _, [], progress => finishes call progress step.gatherings
  | fuel + 1, visit :: rest, progress =>
    if progress.stops then finishes call progress step.gatherings
    else
      match visit with
      | .ask found =>
        asks call found step (fun _ progress =>
          visits call step manner fuel rest { progress with skips := false }) progress
      | .look path operand depth =>
        .look fun files =>
          let follows := manner.follows || (manner.followsOperands && depth = 0)
          let place := (if follows then files.locate? (call.path path) else none).orElse fun _ =>
            files.locateLink? (call.path path)
          match place.bind fun place => (files.entryAt? place).map (place, ·) with
          | none =>
            let problem := (files.trouble (call.path path)).message
            .complaining (call.name ++ ": " ++ curly path ++ ": " ++ problem ++ "\n")
              (visits call step manner fuel rest { progress with status := 1 })
          | some (place, entry) =>
            let found : Found := ⟨path, operand, depth, place, entry⟩
            let children : List Visit :=
              if entry.isDirectory && manner.most.all (depth < ·) then
                (files.namesBelow place).map fun name =>
                  .look (within path (Octets.ofString name)) operand (depth + 1)
              else []
            let isAsked := manner.least ≤ depth
            if manner.inside then
              visits call step manner fuel
                (children ++ (if isAsked then [Visit.ask found] else []) ++ rest) progress
            else if isAsked then
              asks call found step (fun _ progress =>
                visits call step manner fuel
                  (if progress.skips then rest else children ++ rest)
                  { progress with skips := false }) progress
            else visits call step manner fuel (children ++ rest) progress

/-- How many files are gone through at most. -/
def mostVisits : Nat := 1000000

end Find

/-- Looks through directories. -/
def Call.findFiles (call : Call) : Course :=
  match Find.ofArguments call with
  | .error message => (call.complains message 1).course
  | .ok (paths, step, manner) =>
    Find.visits call step manner Find.mostVisits (paths.map fun path => .look path path 0) {}

end RenderSync.Shell
