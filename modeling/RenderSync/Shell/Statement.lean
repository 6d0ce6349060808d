import RenderSync.Shell.Command
import RenderSync.Shell.Redirection

/-!
# Running statements

A statement becomes tasks.  Words are expanded first; if one of them holds a script that was not
run yet, a child runs it, and the statement starts over with its output.  A program runs in a child
that the shell waits for, unless nothing comes after it.
-/

namespace RenderSync.Shell

/-- Statements one after the other; what is said of the place of all holds for the last. -/
def runs (context : Context) : List Statement → List Task
  | [] => []
  | [last] => [.run last [] context]
  | first :: rest => .run first [] context.inner :: runs context rest

/-- What follows a statement on a line whose failure may end the shell. -/
def checks (context : Context) (line : Nat) : List Task :=
  if context.tested then [] else [.check line]

/-- The line of the first of some statements that says one. -/
def firstLine (assumed : Nat) : List Statement → Nat
  | .simple line .. :: _ | .check line _ :: _ | .sum line _ :: _ | .redirected line .. :: _ => line
  | _ => assumed

namespace Turn

/-! ## 1. Expansion -/

/-- An error ends the shell; in a rich one nothing more of the line is done. -/
def fails (message : String) (turn : Turn) : Turn :=
  if turn.me.isRich then Command.discards 1 (turn.complain message)
  else Command.exits 2 ((turn.complain message).withStatus 2)

/-- A parameter that is missing ends the shell. -/
def failsUnbound (message : String) (turn : Turn) : Turn :=
  let status := if turn.me.hasGivenScript then 127 else 1
  Command.exits status ((turn.complain message).withStatus status)

/-- How many descriptors lead to scripts at most. -/
def firstConduit : Nat := 63

/-- The descriptor that leads to a script next. -/
def freeConduit (me : Process) : Nat :=
  let free := (List.range (firstConduit + 1)).reverse.find? fun n => (me.stream? n).isNone
  free.getD firstConduit

/-- Starts a script whose output, or whose input, a path leads to. -/
def connects (reads : Bool) (script : List Statement) (copied : Process) (statement : Statement)
    (captured : List String) (context : Context) (turn : Turn) : Turn :=
  let (_, source, sink, turn) := turn.openPipe
  let (_, turn) := { turn with me := copied }.fork (runs ⟨false, true⟩ script) (fun me =>
    if reads then me.lead 0 source else me.lead 1 sink)
  let descriptor := freeConduit turn.me
  let path := "/dev/fd/" ++ decimal descriptor
  { turn with
    me := (turn.me.lead descriptor (if reads then sink else source)).plan
      [.run statement (captured ++ [path]) context, .restore [(descriptor, none)]] }

/-- Lets a child run a script, which is a copy of `copied`, and takes what it writes. -/
def captures (script : List Statement) (copied : Process) (statement : Statement)
    (captured : List String) (context : Context) (turn : Turn) : Turn :=
  let (_, source, sink, turn) := turn.openPipe
  let me := turn.me
  let copied := if copied.isRich && !copied.hasFeature "inherit_errexit" then
      { copied with options := copied.options.filter (· ≠ 'e') }
    else copied
  let (child, turn) := { turn with me := copied }.fork (runs ⟨false, true⟩ script) (·.lead 1 sink)
  let aside := me.asideFor
  { turn with
    me := (me.lead aside source).plan [.capture aside child [] statement captured context] }

/-- Expands something for a statement and uses it. -/
def expanding {α : Type} (statement : Statement) (captured : List String) (context : Context)
    (expand : Expand α) (use : α → Turn → Turn) (turn : Turn) : Turn :=
  match expand.run ⟨turn.me, turn.files, captured, turn.now⟩ with
  | .ok (value, expansion) => use value { turn with me := expansion.me }
  | .error (.fault message) => turn.fails message
  | .error (.unbound message) => turn.failsUnbound message
  | .error (.connects reads script me) =>
    turn.connects reads script me statement captured context
  | .error (.needs script me) => turn.captures script me statement captured context

end Turn

/-! ## 2. Simple commands -/

/-- Commands whose arguments are assignments. -/
def declaringNames (isRich : Bool) : List String :=
  ["export", "readonly", "local", "alias"] ++ if isRich then ["declare", "typeset"] else []

/-- The command among some fields declares. -/
def declares (isRich : Bool) (fields : List String) : Bool :=
  (fields.find? fun field => field ≠ "command" && !(isRich && field = "builtin")).any
    (declaringNames isRich).contains

/-- The elements that a word says, if it says some. -/
def elements? : Word → Option (List (Word × Word))
  | [.elements items] | [.literal [] false, .elements items] => some items
  | _ => none

/-- The fields of words behind those that were found already. -/
def fieldsOf (found : List String) : List Word → Expand (List String)
  | [] => return found
  | word :: rest => do
    let isRich := (← get).me.isRich
    let fields ← match assigned? isRich word with
      | some ⟨name, index, appends, value⟩ =>
        if declares isRich found then
          if (elements? value).isSome then pure [name]
          else do
            let key ← match index with
              | some index => pure ("[" ++ (← expandText index) ++ "]")
              | none => pure ""
            pure [name ++ key ++ (if appends then "+=" else "=") ++ (← expandValue value)]
        else expandFields word
      | none => expandFields word
    fieldsOf (found ++ fields) rest

/-- Elements that a command which declares gives a variable. -/
structure Filling where
  name : String
  appends : Bool
  items : List (Option String × String)
deriving Inhabited

/-- The elements among the words of a command. -/
def fillingsOf : List Word → Expand (List Filling)
  | [] => return []
  | word :: rest => do
    let found : List Filling ← match assigned? true word with
      | some ⟨name, _, appends, value⟩ =>
        match elements? value with
        | some items => do pure [⟨name, appends, ← expandItems items⟩]
        | none => pure []
      | none => pure []
    return found ++ (← fillingsOf rest)

/-- A text that names a descriptor with one digit, or says with a dash that none is meant. -/
def isDescriptor (text : String) : Bool :=
  match text.toList with
  | [c] => c = '-' || Digits.isDecimal c
  | _ => false

/-- Redirections with their targets. -/
def leadsOf : List Redirect → Expand (List Lead)
  | [] => return []
  | .mk descriptor direction target :: rest => do
    let text ← match direction with
      | .document place =>
        let body := ((← get).me.documents[place]?).getD []
        pure (textOf (← expandWord false body))
      | _ => expandText target
    let isRich := (← get).me.isRich
    if direction = .duplicate && !isRich && !isDescriptor text then
      fault "Syntax error: Bad fd number"
    return ⟨descriptor, direction, text⟩ :: (← leadsOf rest)

/-- A change that an assignment makes: what is shown of it, and the variable before. -/
structure Change where
  shown : String
  name : String
  before : Option Variable
deriving Inhabited

/-- Assigns what stands in front of a command.  If that is for the command only, the variables are
exported. -/
def assignsOf (passing : Bool) : List Word → Expand (List Change)
  | [] => return []
  | word :: rest => do
    let me := (← get).me
    match assigned? me.isRich word with
    | none => assignsOf passing rest
    | some ⟨name, index, appends, value⟩ =>
      let before := me.bindings.lookup name
      let key ← match index with
        | none => pure none
        | some index => do
          let text ← expandText index
          let content := (me.entry (me.meant name)).content
          if content.isTable then pure (some text)
          else do
            let n ← sumOf text
            match Process.keyOf content n with
            | some key => pure (some key)
            | none => fault (name ++ "[" ++ text ++ "]: bad array subscript")
      let sign := if appends then "+=" else "="
      match elements? value with
      | some items =>
        let items ← expandItems items
        let s ← get
        match s.me.fill name appends items with
        | .ok me => set { s with me }
        | .error message => fault message
        return ⟨name ++ sign ++ "(" ++ " ".intercalate (items.map Prod.snd) ++ ")", name, before⟩ ::
          (← assignsOf passing rest)
      | none =>
        let value ← expandValue value
        let s ← get
        match s.me.store name key appends value with
        | .ok me => set { s with me }
        | .error message => fault message
        if passing then
          modify fun s =>
            { s with me := s.me.bind name { s.me.entry name with exported := true } }
        return ⟨name ++ sign ++ value, name, before⟩ :: (← assignsOf passing rest)

/-- A simple command whose words are expanded. -/
structure Prepared where
  fields : List String
  leads : List Lead
  /-- The process before any assignment. -/
  before : Process
  /-- The assignments, as they are shown. -/
  assigned : List String
  /-- What is uncovered when the command is done. -/
  covered : Covered
  /-- What a command that declares gives its variables. -/
  fillings : List Filling
deriving Inhabited

/-- The values assigned in front of these fields are passed on in the environment; in front of
nothing, or of a special command, they stay with the shell. -/
def passesAssignments (isRich : Bool) : List String → Bool
  | [] => false
  | "exec" :: _ :: _ => true
  | name :: _ => !Command.isSpecial isRich name

/-- Expands a simple command. -/
def prepare (assignments words : List Word) (redirects : List Redirect) : Expand Prepared := do
  let fields ← fieldsOf [] words
  let fillings ←
    if (← get).me.isRich && declares true fields then fillingsOf words else pure []
  let leads ← leadsOf redirects
  let before := (← get).me
  let passing := passesAssignments before.isRich fields
  let assigned ← assignsOf passing assignments
  return {
    fields, leads, before, fillings
    assigned := assigned.map Change.shown
    covered := if passing then assigned.reverse.map fun change => (change.name, change.before)
      else [] }

namespace Turn

/-- The shell has nothing to do about signals, so that another program may take its place. -/
def isReplaceable (turn : Turn) : Bool := turn.me.traps.all (·.2 = "")

/-- A rich shell that is about to give way is one level less. -/
def stepsDown (turn : Turn) : Turn :=
  match if turn.me.isRich then turn.me.lookup "SHLVL" else none with
  | some text =>
    let level := (Digits.toNat? 10 text.toList).getD 1
    turn.mine fun me => me.bind "SHLVL" (Variable.ofText (decimal (level - 1))).handedOn
  | none => turn

/-- Runs a command: a special one, a function, another command of the shell, or a program. -/
def dispatch (special functions : Bool) (context : Context) (tail : List Task) (turn : Turn) :
    List String → Turn
  | [] => (turn.withStatus 0).plan tail
  | name :: arguments =>
    let own (special : Bool) : Turn :=
      turn.plan (.invoke (name :: arguments) special context :: tail)
    if name = "command" then
      match arguments with
      | "-p" :: rest | "--" :: rest => dispatch false false context tail turn rest
      | word :: rest =>
        if word.toList.head? = some '-' then own false
        else dispatch false false context tail turn (word :: rest)
      | [] => own false
    else if name = "builtin" && turn.me.isRich then
      match arguments with
      | inner :: rest =>
        if Command.isOrdinary true inner then
          turn.plan (.invoke (inner :: rest) false context :: tail)
        else
          ((turn.complainAs "builtin: " (inner ++ ": not a shell builtin")).withStatus 1).plan tail
      | [] => (turn.withStatus 0).plan tail
    else if Command.isSpecial turn.me.isRich name then own special
    else
      match if functions then turn.me.functions.lookup name else none with
      | some body =>
        let old := turn.me.arguments
        let calling : Calling :=
          ⟨name, (turn.me.calls.head?.map (·.script)).getD turn.me.name, turn.me.line⟩
        (turn.mine fun me =>
          { me with arguments, frames := [] :: me.frames, calls := calling :: me.calls }).plan
          (.run body [] context.inner :: .leave old :: tail)
      | none =>
        if Command.isOrdinary turn.me.isRich name then own false
        else if context.last && turn.isReplaceable then
          turn.stepsDown.execute (name :: arguments)
        else
          let (child, turn) := turn.fork [.launch (name :: arguments)] id
          turn.plan (.await [child] :: tail)

/-- Shows a command before it runs. -/
def trace (words : List String) (turn : Turn) : Turn :=
  if turn.me.hasOption 'x' && words ≠ [] then
    let words := if turn.me.isRich then words.map Quoting.asNeeded else words
    turn.tell 2 ((turn.me.lookup "PS4").getD "" ++ " ".intercalate words ++ "\n")
  else turn

/-- Waits for the other side of pipes that were opened before anything else is done. -/
def meeting (turn : Turn) : Turn := if turn.me.knocks = [] then turn else turn.plan [.meet]

/-- Runs a simple command whose words are expanded. -/
def perform (context : Context) (prepared : Prepared) (turn : Turn) : Turn :=
  let isRich := turn.me.isRich
  let isSpecial := (prepared.fields.head?).any (Command.isSpecial isRich)
  let tally : List Task := if isRich then [.tally] else []
  let (problem, saved, turn) :=
    (turn.trace (prepared.assigned ++ prepared.fields)).redirect prepared.leads []
  match problem with
  | some message =>
    let status := if isRich then 1 else 2
    let turn := ((turn.complain message).withStatus status).mine fun me =>
      { me.putBack saved with bindings := prepared.before.bindings }
    if isSpecial then Command.exits 2 turn
    else if isRich && prepared.fields.head? = some "exec" then Command.exits 1 turn
    else turn.plan (tally ++ checks context turn.me.line)
  | none =>
    let uncover : List Task := if prepared.covered = [] then [] else [.uncover prepared.covered]
    match prepared.fields with
    | "exec" :: words =>
      ((turn.mine (·.forgetSaved saved)).plan
        (.invoke ("exec" :: words) true context :: uncover ++ checks context turn.me.line)).meeting
    | fields =>
      let restore : List Task := if saved = [] then [] else [.restore saved]
      let fill : List Task := prepared.fillings.map fun filling =>
        .fill filling.name filling.appends filling.items
      let tail := fill ++ restore ++ uncover ++ tally ++ checks context turn.me.line
      let turn := if isRich then
          turn.mine fun me => me.bind "_" (.ofText (fields.getLast?.getD ""))
        else turn
      (if fields = [] then (turn.withStatus turn.me.capturedStatus).plan tail
        else turn.dispatch true true context tail fields).meeting

/-! ## 3. Children -/

/-- The number of the next job. -/
def nextJob (turn : Turn) : Nat :=
  let mine := turn.processes.filter fun process =>
    process.parent = turn.me.number && !process.isNoted
  let taken := mine.filterMap Process.job
  ((List.range (taken.length + 1)).find? fun n => !taken.contains (n + 1)).getD taken.length + 1

/-- Sends a statement to the background as a part of a job: nothing is typed at it, nor is it
interrupted. -/
def detach (job : Nat) (agenda : List Task) (first : Bool) (change : Process → Process)
    (turn : Turn) : Nat × Turn :=
  let (nothing, turn) := turn.openStream (.device .null)
  let ignored : List (Signal × String) := [(.interrupt, ""), (⟨3⟩, "")]
  turn.fork agenda fun me =>
    let me := { me with
      traps := ignored ++ me.traps.filter fun entry => (ignored.lookup entry.1).isNone
      job := some job }
    change (if first then me.lead 0 nothing else me)

/-- Starts the stages of a pipeline, each reading what the one before writes; their numbers. -/
def startStages (start : List Task → Bool → (Process → Process) → Turn → Nat × Turn)
    (context : Context) : (input : Option Nat) → (first : Bool) → List Statement → Turn →
      List Nat × Turn
  | _, _, [], turn => ([], turn)
  | input, first, [stage], turn =>
    let (child, turn) := start [.run stage [] context] first
      (fun me => (input.map fun stream => me.lead 0 stream).getD me) turn
    ([child], turn)
  | input, first, stage :: rest, turn =>
    let (_, source, sink, turn) := turn.openPipe
    let (child, turn) := start [.run stage [] context] first
      (fun me => ((input.map fun stream => me.lead 0 stream).getD me).lead 1 sink) turn
    let (children, turn) := startStages start context (some source) false rest turn
    (child :: children, turn)

/-! ## 4. Statements -/

/-- The body of the first case with a pattern that matches. -/
def chosen (text : List Char) : List (List Word × List Statement) → Expand (List Statement)
  | [] => return []
  | (patterns, body) :: rest => do
    let isRich := (← get).me.isRich
    if ← patterns.anyM fun pattern => do
        return Marked.test isRich (← expandPattern pattern) text then
      return body
    else chosen text rest

/-- A condition between double brackets holds. -/
def checkHolds : Check → Expand Bool
  | .one name word => do
    let text ← expandText word
    let s ← get
    match Condition.testOne (Command.view s.me s.files) name text with
    | .ok holds => return holds
    | .error message => fault message
  | .two name left right => do
    let text ← expandText left
    if name = "=~" then matchesExpression text (← expandPattern right)
    else if name = "=" || name = "==" then
      return Marked.test true (← expandPattern right) text.toList
    else if name = "!=" then return !Marked.test true (← expandPattern right) text.toList
    else
      let other ← expandText right
      if ["-eq", "-ne", "-lt", "-le", "-gt", "-ge"].contains name then
        let a ← sumOf text
        let b ← sumOf other
        match name with
        | "-eq" => return a = b
        | "-ne" => return a ≠ b
        | "-lt" => return a < b
        | "-le" => return a ≤ b
        | "-gt" => return b < a
        | _ => return b ≤ a
      else
        let s ← get
        match Condition.testTwo (Command.view s.me s.files) name text other with
        | .ok holds => return holds
        | .error message => fault message
  | .not inner => do return !(← checkHolds inner)
  | .all first second => do if ← checkHolds first then checkHolds second else return false
  | .any first second => do if ← checkHolds first then return true else checkHolds second
where
  /-- An expression matches a part of a text; what its groups match is kept. -/
  matchesExpression (text : String) (pattern : Marked) : Expand Bool := do
    let means (c : Char) : Bool := "\\^$.[]|()*+?\x7b\x7d".toList.contains c
    let written := pattern.flatMap fun (c, quoted) => if quoted && means c then ['\\', c] else [c]
    match Regex.read (Regex.searching true) (Octets.characters written) with
    | .error _ => fault "invalid expression"
    | .ok regex =>
      let s ← get
      let found := regex.find? false [] (Octets.characters text.toList)
      let texts : List String := match found with
        | none => []
        | some found =>
          (found.text :: (List.range regex.groupCount).map fun n =>
            (found.groups.lookup (n + 1)).getD []).map fun wide =>
              String.ofList (Octets.ofCharacters wide)
      match (s.me.bind "BASH_REMATCH" ⟨.list [], false, false, []⟩).fill "BASH_REMATCH" false
          (texts.map (none, ·)) with
      | .ok me =>
        set { s with me }
        return found.isSome
      | .error message => fault message

/-- The condition of a loop, whose body gave a status. -/
def round (condition : List Statement) (loop : Statement) (status : Nat) (context : Context) :
    List Task :=
  runs .condition condition ++ [.judge loop status context]

/-- Works out a sum of a loop, if there is one. -/
def sums (line : Nat) (expression : Word) : List Task :=
  if isBlankWord expression then [] else [.run (.sum line expression) [] .condition]

/-- The condition of a loop over sums, whose body gave a status. -/
def countRound (line : Nat) (condition : Word) (loop : Statement) (status : Nat)
    (context : Context) : List Task :=
  (if isBlankWord condition then [.setStatus 0] else sums line condition) ++
    [.judge loop status context]

/-- Runs a statement. -/
def statement (body : Statement) (captured : List String) (context : Context) (turn : Turn) :
    Turn :=
  let expanding {α : Type} (line : Nat) (expand : Expand α) (use : α → Turn → Turn) : Turn :=
    (turn.mine fun me =>
      { me with line, capturedStatus := if captured = [] then 0 else me.capturedStatus }).expanding
        body captured context expand use
  match body with
  | .simple line assignments words redirects =>
    expanding line (prepare assignments words redirects) (perform context)
  | .both first second =>
    turn.plan [.run first [] .condition, .decide [.run second [] context] []]
  | .either first second =>
    turn.plan [.run first [] .condition, .decide [] [.run second [] context]]
  | .negated inner => turn.plan [.run inner [] .condition, .invert]
  | .pipeline stages =>
    let start (agenda : List Task) (_ : Bool) (change : Process → Process) (turn : Turn) :
        Nat × Turn := turn.fork agenda change
    let (children, turn) := startStages start { context with last := true } none true stages turn
    turn.plan (.await children :: checks context (firstLine turn.me.line stages))
  | .loop _ condition _ => turn.plan (round condition body 0 context.inner)
  | .branch condition yes no =>
    turn.plan (runs .condition condition ++
      [.decide (runs context yes) (if no.isEmpty then [.setStatus 0] else runs context no)])
  | .each name words inner =>
    expanding turn.me.line (fieldsOf [] words) fun items turn =>
      if items = [] then turn.withStatus 0
      else turn.plan [.next name items inner context.inner]
  | .select word cases =>
    expanding turn.me.line (do chosen (← expandText word).toList cases) fun inner turn =>
      turn.plan (if inner.isEmpty then [.setStatus 0] else runs context inner)
  | .group inner => turn.plan (runs context inner)
  | .subshell inner =>
    if context.last && turn.isReplaceable then turn.plan (runs context inner)
    else
      let (child, turn) := turn.fork (runs { context with last := true } inner) id
      turn.plan (.await [child] :: checks context (firstLine turn.me.line inner))
  | .background inner =>
    let stages := match inner with
      | .pipeline stages => stages
      | other => [other]
    let (children, turn) := startStages (detach turn.nextJob) ⟨false, true⟩ none true stages turn
    ((turn.withStatus 0).mine fun me => { me with background := children.getLast? }).plan
      (checks context turn.me.line)
  | .redirected line (.subshell inner) redirects =>
    let redirected : Statement := .redirected line (.group inner) redirects
    if context.last && turn.isReplaceable then turn.plan [.run redirected [] context]
    else
      let (child, turn) := turn.fork [.run redirected [] { context with last := true }] id
      turn.plan (.await [child] :: checks context line)
  | .redirected line inner redirects =>
    expanding line (leadsOf redirects) fun leads turn =>
      let (problem, saved, turn) := turn.redirect leads []
      match problem with
      | some message =>
        (((turn.complain message).withStatus 2).mine (·.putBack saved)).plan (checks context line)
      | none =>
        (if context.last then
          (turn.mine (·.forgetSaved saved)).plan [.run inner [] context.inner]
        else turn.plan [.run inner [] context.inner, .restore saved]).meeting
  | .check line check =>
    expanding line (checkHolds check) fun holds turn =>
      (turn.succeeded holds).plan (.tally :: checks context line)
  | .sum line expression =>
    expanding line (do expandText expression) fun text turn =>
      let worked : Except String (Int × Process) := do
        let (n, assigned) ← turn.me.sum text.toList
        return (n, ← turn.me.assignAll assigned)
      let turn := match worked with
        | .ok (n, me) => { turn with me }.succeeded (n ≠ 0)
        | .error message => (turn.complain ("((: " ++ message)).withStatus 1
      turn.plan (.tally :: checks context line)
  | .count line start condition _ _ =>
    turn.plan (sums line start ++ countRound line condition body 0 context.inner)
  | .define name inner =>
    (turn.withStatus 0).mine fun me =>
      { me with functions := (name, inner) :: me.functions.filter (·.1 != name) }

end Turn

end RenderSync.Shell
