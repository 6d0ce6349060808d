import RenderSync.Shell.Command.Variables

/-!
# Declarations

Commands of a rich shell that make variables what they are: they set properties, cover variables up
for as long as a function runs, and show what there is.
-/

namespace RenderSync.Shell.Command

/-- What is asked of variables. -/
structure Wish where
  /-- Letters of properties that are wanted. -/
  on : List Char
  /-- Letters of properties that are not. -/
  off : List Char
  /-- Variables are covered up. -/
  isLocal : Bool

/-- Options with one sign or the other, and operands. -/
def signedLetters : List String → List Char × List Char × List String
  | [] => ([], [], [])
  | word :: rest =>
    match word.toList with
    | ['-', '-'] => ([], [], rest)
    | '-' :: c :: letters =>
      let (on, off, operands) := signedLetters rest
      (c :: letters ++ on, off, operands)
    | '+' :: c :: letters =>
      let (on, off, operands) := signedLetters rest
      (on, c :: letters ++ off, operands)
    | _ => ([], [], word :: rest)

/-- The name, the key, whether it appends, and the value of an argument. -/
def assignmentOf (word : String) : String × Option String × Bool × Option String :=
  let (front, value) : List Char × Option String := match word.toList.span (· ≠ '=') with
    | (front, _ :: value) => (front, some (String.ofList value))
    | (front, []) => (front, none)
  let appends := value.isSome && front.getLast? = some '+'
  let (name, key) := Process.withKey (String.ofList (if appends then front.dropLast else front))
  (name, key, appends, value)

/-- Covers a variable up, unless this function has done so already. -/
def cover (name : String) (me : Process) : Process :=
  match me.frames with
  | frame :: others =>
    if frame.any (·.1 = name) then me
    else
      let covered := { me with frames := ((name, me.bindings.lookup name) :: frame) :: others }
      let exported := (me.entry name).exported
      covered.bind name ⟨.nothing, exported, false, []⟩
  | [] => me

/-- A variable with the properties that are wanted, apart from protection. -/
def wished (wish : Wish) (entry : Variable) : Variable :=
  let traits := entry.traits.filter fun c => !wish.off.contains c &&
    !(wish.on.contains 'l' && c = 'u') && !(wish.on.contains 'u' && c = 'l')
  let wanted := ['i', 'l', 'u', 'n'].filter fun c => wish.on.contains c && !traits.contains c
  { entry with
    traits := traits ++ wanted
    exported := (entry.exported || wish.on.contains 'x') && !wish.off.contains 'x'
    content :=
      if wish.on.contains 'A' then
        (match entry.content with
          | .table items => .table items
          | _ => .table [])
      else if wish.on.contains 'a' then
        (match entry.content with
          | .table items => .table items
          | content => .list content.asList)
      else entry.content }

/-- Makes a variable what an argument says. -/
def declareOne (wish : Wish) (word : String) (me : Process) : Except String Process := do
  let (name, key, appends, value) := assignmentOf word
  if !isName name.toList then throw ("\x60" ++ word ++ "': not a valid identifier")
  let isGlobal := me.frames.all fun frame => !frame.any (·.1 = name)
  if wish.isLocal && isGlobal && (me.entry name).readOnly then throw (me.protected_ name)
  let me := if wish.isLocal then cover name me else me
  let target := if wish.on.contains 'n' || wish.off.contains 'n' then name else me.meant name
  let old := me.entry target
  if old.readOnly && (value.isSome || wish.off.contains 'r') then throw (me.protected_ name)
  let me := me.bind target (wished wish old)
  let me ←
    match value with
    | none => pure me
    | some value =>
      if wish.on.contains 'n' then
        pure (me.bind target { me.entry target with content := .text value })
      else me.store target key appends value
  return me.bind target
    { me.entry target with readOnly := (me.entry target).readOnly || wish.on.contains 'r' }

/-- Does something for every argument; one that makes no sense is complained about. -/
def eachArgument (name : String) (words : List String)
    (act : String → Process → Except String Process) (turn : Turn) : Answer :=
  let (turn, status) := words.foldl (fun (state : Turn × Nat) word =>
    match act word state.1.me with
    | .ok me => ({ state.1 with me }, state.2)
    | .error message => (state.1.complainAs (name ++ ": ") message, 1)) (turn, 0)
  .done (turn.withStatus status)

/-- Variables with some property as the commands that make them what they are. -/
def declarations (chosen : Variable → Bool) (me : Process) : String :=
  let found := (me.bindings.filter fun entry => chosen entry.2).mergeSort fun a b => a.1 ≤ b.1
  String.join (found.map fun (name, entry) => declaration name entry ++ "\n")

/-- The variables that have all the properties of some letters. -/
def hasLetters (letters : List Char) (entry : Variable) : Bool :=
  let has := entry.letters.toList
  letters.all fun c => !"aAilnrux".toList.contains c || has.contains c

/-- Shows variables by their names. -/
def showDeclarations (name : String) (names : List String) (turn : Turn) : Answer :=
  let (text, turn, status) := names.foldl (fun (state : String × Turn × Nat) word =>
    match state.2.1.me.bindings.lookup word with
    | some entry => (state.1 ++ declaration word entry ++ "\n", state.2)
    | none =>
      (state.1, state.2.1.complainAs (name ++ ": ") (word ++ ": not found"), 1)) ("", turn, 0)
  match prints name text turn with
  | .done turn => .done (turn.withStatus status)
  | answer => answer

/-- Makes variables what the arguments say, or shows them. -/
def declare (name : String) : Command := fun arguments turn =>
  let (on, off, operands) := signedLetters arguments
  match (on ++ off).find? fun c => !"aAfFgiIlnprtux".toList.contains c with
  | some c => .refused 2 ("-" ++ c.toString ++ ": invalid option")
  | none =>
    let isLocal : Bool := turn.me.frames ≠ [] && !on.contains 'g'
    if name = "local" && turn.me.frames = [] then .fault "can only be used in a function"
    else if on.contains 'f' || on.contains 'F' then
      let names := (turn.me.functions.map Prod.fst).mergeSort (· ≤ ·)
      if operands = [] then
        prints name (String.join (names.map fun text => "declare -f " ++ text ++ "\n")) turn
      else
        let found := operands.filter names.contains
        match prints name (String.join (found.map (· ++ "\n"))) turn with
        | .done turn => .done (turn.succeeded (found.length = operands.length))
        | answer => answer
    else if operands = [] then
      if on.contains 'p' || on ≠ [] then prints name (declarations (hasLetters on) turn.me) turn
      else prints name (shown "" (turn.me.bindings.filter fun entry => entry.2.value.isSome)) turn
    else if on.contains 'p' then showDeclarations name operands turn
    else eachArgument name operands (declareOne ⟨on, off, isLocal⟩) turn

/-- Hands variables on to programs, or does so no more. -/
def exportRichly : Command := fun arguments turn =>
  let (on, _, operands) := signedLetters arguments
  match on.find? fun c => !"fnp".toList.contains c with
  | some c => .refused 2 ("-" ++ c.toString ++ ": invalid option")
  | none =>
    if operands = [] then prints "export" (declarations (·.exported) turn.me) turn
    else if on.contains 'f' then .done (turn.withStatus 0)
    else
      let wish : Wish := if on.contains 'n' then ⟨[], ['x'], false⟩ else ⟨['x'], [], false⟩
      eachArgument "export" operands (declareOne wish) turn

/-- Protects variables. -/
def readonlyRichly : Command := fun arguments turn =>
  let (on, _, operands) := signedLetters arguments
  match on.find? fun c => !"aAfp".toList.contains c with
  | some c => .refused 2 ("-" ++ c.toString ++ ": invalid option")
  | none =>
    if operands = [] then prints "readonly" (declarations (·.readOnly) turn.me) turn
    else if on.contains 'f' then .done (turn.withStatus 0)
    else eachArgument "readonly" operands
      (declareOne ⟨'r' :: on.filter (fun c => c = 'a' || c = 'A'), [], false⟩) turn

/-- Takes a variable or an element away. -/
def unsetOne (byName : Bool) (word : String) (me : Process) : Except String Process :=
  let (name, key) := Process.withKey word
  if !isName name.toList then .error ("\x60" ++ word ++ "': not a valid identifier")
  else
    let target := if byName then name else me.meant name
    let entry := me.entry target
    if entry.readOnly then .error (name ++ ": cannot unset: readonly variable")
    else
      match key with
      | none => .ok (me.unbind target)
      | some key =>
        if key = "@" || key = "*" then
          .ok (me.bind target { entry with
            content := if entry.content.isTable then .table [] else .list [] })
        else if entry.content.isTable then
          .ok (me.bind target { entry with content := entry.content.erase key })
        else do
          let (n, _) ← me.sum key.toList
          match Process.keyOf entry.content n with
          | some key => return me.bind target { entry with content := entry.content.erase key }
          | none => throw (word ++ ": bad array subscript")

/-- Takes variables, elements or functions away. -/
def unsetRichly : Command := fun arguments turn =>
  let (on, _, operands) := signedLetters arguments
  match on.find? fun c => !"fvn".toList.contains c with
  | some c => .refused 2 ("-" ++ c.toString ++ ": invalid option")
  | none =>
    eachArgument "unset" operands (fun word me =>
      let withoutFunction : Process :=
        { me with functions := me.functions.filter (·.1 ≠ word) }
      if on.contains 'f' then .ok withoutFunction
      else if !on.contains 'v' && (me.bindings.lookup word).isNone &&
          (me.functions.lookup word).isSome then .ok withoutFunction
      else unsetOne (on.contains 'n') word me) turn

/-- Works out sums; the last one says whether this succeeds. -/
def let_ : Command := fun arguments turn =>
  if arguments = [] then .fault "expression expected"
  else
    withValue (arguments.foldlM (fun (state : Process × Int) text => do
      let (n, assigned) ← state.1.sum text.toList
      return (← state.1.assignAll assigned, n)) (turn.me, (0 : Int)))
      fun (me, n) => .done ({ turn with me }.succeeded (n ≠ 0))

end RenderSync.Shell.Command
