import RenderSync.Shell.Utility.Basic

/-!
# Running a command in batches

A utility that makes commands of what it reads: it takes its input apart into words and runs a
command with some of them at a time, until a command tells it to stop.
-/

namespace RenderSync.Shell.Call

/-- A word of the input, and the line that it stands on. -/
structure BatchWord where
  text : String
  line : Nat
deriving DecidableEq, Repr, Inhabited

/-- Takes the input apart; words on a line that ends with a blank belong to the next line, too.
The word under construction is `none` before its first octet. -/
def batchWords (byLine : Bool) : (fuel : Nat) → (line : Nat) → (word : Option (List Char)) →
    List Char → Except String (List BatchWord)
  | 0, _, _, _ => .ok []
  | _, line, word, [] => .ok (word.toList.map fun word => ⟨String.ofList word.reverse, line⟩)
  | fuel + 1, line, word, c :: rest =>
    let finish (nextLine : Nat) (rest : List Char) : Except String (List BatchWord) :=
      (batchWords byLine fuel nextLine none rest).map
        ((word.toList.map fun word => ⟨String.ofList word.reverse, line⟩) ++ ·)
    let add (text rest : List Char) : Except String (List BatchWord) :=
      batchWords byLine fuel line (some (text.reverse ++ word.getD [])) rest
    if c = '\n' then finish (line + 1) rest
    else if c = ' ' || c = '\t' then
      if byLine && word.isSome then add [c] rest
      else if !byLine && (rest.head? = some '\n') then finish line (rest.drop 1)
      else finish line rest
    else if c = '\'' || c = '"' then
      let (text, after) := rest.span fun d => d ≠ c && d ≠ '\n'
      match after with
      | d :: after =>
        if d = c then add text after else .error (unmatched c)
      | [] => .error (unmatched c)
    else if c = '\\' then
      match rest with
      | d :: rest => add [d] rest
      | [] => .error "backslash at EOF"
    else add [c] rest
where
  /-- What is said about a quote without another one. -/
  unmatched (c : Char) : String :=
    "unmatched " ++ (if c = '\'' then "single" else "double") ++
      " quote; by default quotes are special to xargs unless you use the -0 option"

/-- The separator that a text writes. -/
def batchSeparator (text : String) : Char :=
  match text.toList with
  | ['\\', 'n'] => '\n'
  | ['\\', 't'] => '\t'
  | ['\\', '0'] => '\x00'
  | ['\\', 'r'] => '\r'
  | c :: _ => c
  | [] => '\x00'

/-- How words are put together: at most so many of them, so many lines, so many octets. -/
structure BatchLimits where
  words : Option Nat
  lines : Option Nat
  size : Nat

/-- The next batch of words, and the others; `taken` are words of the batch, the last one first. -/
def nextBatch (limits : BatchLimits) (taken : List BatchWord) (size : Nat) :
    List BatchWord → List BatchWord × List BatchWord
  | [] => (taken.reverse, [])
  | word :: rest =>
    let lines := (word :: taken).map (·.line) |>.eraseDups.length
    let size := size + word.text.length + 1
    if taken ≠ [] && ((limits.words.any (· ≤ taken.length)) || (limits.lines.any (· < lines)) ||
        limits.size < size) then (taken.reverse, word :: rest)
    else nextBatch limits (word :: taken) size rest

/-- All batches; `fuel` bounds how many. -/
def batchesOf (limits : BatchLimits) (size : Nat) : (fuel : Nat) → List BatchWord →
    List (List String)
  | 0, _ | _, [] => []
  | fuel + 1, words =>
    let (batch, rest) := nextBatch limits [] size words
    batch.map (·.text) :: batchesOf limits size fuel rest

/-- A text with another one put in the place of each mark. -/
def withMark (mark word : List Char) : (fuel : Nat) → List Char → List Char
  | 0, text => text
  | _, [] => []
  | fuel + 1, c :: rest =>
    if mark ≠ [] && mark.isPrefixOf (c :: rest) then
      word ++ withMark mark word fuel ((c :: rest).drop mark.length)
    else c :: withMark mark word fuel rest

/-- Runs commands one after the other until one of them tells to stop. -/
def runBatches (name : String) (input : Option String) (shows : Bool) :
    List (List String) → (status : Nat) → Course
  | [], status => .finish status
  | words :: rest, status =>
    let complain (message : String) (status : Nat) : Course :=
      .complaining (name ++ ": " ++ message ++ "\n") (.finish status)
    let shown := if shows then " ".intercalate words ++ "\n" else ""
    .complaining shown (.run { words, input } fun report =>
      let command := words.headD ""
      match report.outcome with
      | .error fault => complain (command ++ ": " ++ fault.problem) fault.status
      | .ok (.exited 255) => complain (command ++ ": exited with status 255; aborting") 124
      | .ok (.exited code) => runBatches name input shows rest (if code = 0 then status else 123)
      | .ok (.signaled number) =>
        complain (command ++ ": terminated by signal " ++ decimal number) 125)

/-- The options of the utility. -/
def batchGrammar : Grammar :=
  ⟨"0prtxo", "adEILnPs", "eil", [("null", '0'), ("arg-file", 'a'), ("delimiter", 'd'), ("eof", 'e'),
    ("replace", 'i'), ("max-lines", 'l'), ("max-args", 'n'), ("max-procs", 'P'),
    ("interactive", 'p'), ("no-run-if-empty", 'r'), ("max-chars", 's'), ("verbose", 't'),
    ("exit", 'x'), ("open-tty", 'o')], true⟩

/-- Runs a command with the words of the input. -/
def inBatches (call : Call) : Course :=
  match batchGrammar.split call.arguments with
  | .error message => (call.misused message 1).course
  | .ok options =>
    let number (letters : String) : Option Nat :=
      ((options.last? letters).bind options.value?).bind fun text =>
        if text = "" then some 1 else Digits.toNat? 10 text.toList
    let mark := (options.last? "Ii").bind fun letter =>
      (options.value? letter).map fun text => if text = "" then "\x7b\x7d" else text
    let lines := number "Ll"
    let words := if mark.isSome then none else number "n"
    let command := if options.operands = [] then ["echo"] else options.operands
    let file := options.value? 'a'
    match call.contents (file.getD "-") with
    | .error problem =>
      (call.complains ("Cannot open input file " ++ inQuotes (file.getD "-") ++ ": " ++ problem)
        1).course
    | .ok text =>
      let separator := match options.last? "0d" with
        | some '0' => some '\x00'
        | some _ => (options.value? 'd').map batchSeparator
        | none => none
      let read : Except String (List BatchWord) := match separator with
        | some separator =>
          .ok ((linesBy separator text).zipIdx.map fun (line, n) => ⟨String.ofList line, n⟩)
        | none => batchWords mark.isSome (text.length + 1) 0 none text.toList
      match read, words with
      | .error message, _ => (call.complains message 1).course
      | .ok _, some 0 => (call.misused "value 0 for -n option should be >= 1" 1).course
      | .ok found, _ =>
        let found := match options.last? "eE", separator with
          | some letter, none =>
            match options.value? letter with
            | some "" | none => found
            | some last => found.takeWhile fun word => word.text ≠ last
          | _, _ => found
        let size := (command.map fun word => word.length + 1).foldl (· + ·) 0
        let limits : BatchLimits := ⟨words, lines, (number "s").getD 131072⟩
        let commands : List (List String) := match mark with
          | some mark => found.map fun word =>
              command.map fun text => String.ofList
                (withMark mark.toList word.text.toList (text.length + 1) text.toList)
          | none =>
            if found = [] then if options.has 'r' then [] else [command]
            else (batchesOf limits size (found.length + 1) found).map (command ++ ·)
        runBatches call.name (if file.isSome then none else some "") (options.has 't') commands 0

end RenderSync.Shell.Call
