import RenderSync.Shell.Command.Basic

/-!
# Commands for variables

Commands that set variables, arguments and options, or read into them.
-/

namespace RenderSync.Shell.Command

/-! ## 1. Properties -/

/-- The name and the value in an argument such as `name=value`. -/
def binding (word : String) : String × Option String :=
  match word.toList.span (· ≠ '=') with
  | (name, _ :: value) => (String.ofList name, some (String.ofList value))
  | (name, []) => (String.ofList name, none)

/-- Sets variables and changes their properties. -/
def mark (change : Variable → Variable) (words : List String) (turn : Turn) : Answer :=
  withValue (words.foldlM (fun (turn : Turn) word =>
    let (name, value) := binding word
    if !isName name.toList then .error (name ++ ": bad variable name")
    else do
      let me ← match value with
        | some value => turn.me.assign name value
        | none => .ok turn.me
      return { turn with me := me.bind name (change (me.entry name)) }) turn)
    fun turn => .done (turn.withStatus 0)

/-- Hands variables on to programs. -/
def export_ : Command := fun arguments turn =>
  withLetters "p" arguments fun _ words =>
    if words = [] then
      prints "export" (shown "export " (turn.me.bindings.filter fun entry => entry.2.exported)) turn
    else mark (fun entry => { entry with exported := true }) words turn

/-- Protects variables. -/
def readonly : Command := fun arguments turn =>
  withLetters "p" arguments fun _ words =>
    if words = [] then
      prints "readonly" (shown "readonly " (turn.me.bindings.filter fun entry => entry.2.readOnly))
        turn
    else mark (fun entry => { entry with readOnly := true }) words turn

/-- Covers up variables for as long as a function runs. -/
def local_ : Command := fun words turn =>
  match turn.me.frames with
  | [] => .fault "not in a function"
  | _ =>
    withValue (words.foldlM (fun (turn : Turn) word =>
      let (name, value) := binding word
      if !isName name.toList then .error (name ++ ": bad variable name")
      else
        let covered := turn.mine fun me =>
          match me.frames with
          | frame :: others =>
            if frame.any (·.1 = name) then me
            else { me with frames := ((name, me.bindings.lookup name) :: frame) :: others }
          | [] => me
        match value with
        | some value => (covered.me.assign name value).map fun me => { covered with me }
        | none => .ok covered) turn)
      fun turn => .done (turn.withStatus 0)

/-- Takes variables or functions away. -/
def unset : Command := fun arguments turn =>
  withLetters "fv" arguments fun letters names =>
    if letters.contains 'f' then
      .done ((turn.withStatus 0).mine fun me =>
        { me with functions := me.functions.filter fun entry => !names.contains entry.1 })
    else
      withValue (names.foldlM (fun (turn : Turn) name =>
        if !isName name.toList then .error (name ++ ": bad variable name")
        else if (turn.me.entry name).readOnly then .error (name ++ ": is read only")
        else .ok (turn.mine (·.unbind name))) turn)
        fun turn => .done (turn.withStatus 0)

/-! ## 2. Arguments and options -/

/-- Drops arguments. -/
def shift : Command := fun arguments turn =>
  withValue ((arguments.head?.map number).getD (.ok 1)) fun n =>
    if turn.me.arguments.length < n then
      if turn.me.isRich then .done (turn.withStatus 1) else .fault "can't shift that many"
    else .done ((turn.withStatus 0).mine fun me => { me with arguments := me.arguments.drop n })

/-- The options by name, with what they are. -/
def optionTable (me : Process) : String :=
  "Current option settings\n" ++ String.join (Process.optionNames.map fun (name, letter) =>
    name ++ String.ofList (List.replicate (16 - name.length) ' ') ++
      (if me.hasOption letter then "on" else "off") ++ "\n")

/-- The commands that make the options what they are. -/
def optionCommands (me : Process) : String :=
  String.join (Process.optionNames.map fun (name, letter) =>
    "set " ++ (if me.hasOption letter then "-o " else "+o ") ++ name ++ "\n")

/-- Sets options and arguments. -/
def set : Command := fun arguments turn =>
  match arguments with
  | [] => prints "set" (shown "" (turn.me.bindings.filter fun entry => entry.2.value.isSome)) turn
  | ["-o"] => prints "set" (optionTable turn.me) turn
  | ["+o"] => prints "set" (optionCommands turn.me) turn
  | _ =>
    withValue (turn.me.takeOptions arguments) fun wishes =>
      let me := wishes.process
      let replaces := wishes.operands ≠ [] || arguments.contains "--"
      .done ({ turn with
        me := if replaces then { me with arguments := wishes.operands } else me }.withStatus 0)

/-- What is left of the argument that options are read from, and where the next one is. -/
def optionRest (me : Process) (words : List String) (index : Nat) :
    Option (List Char × Nat) :=
  let current := if index ≤ 1 || me.optionPlace = 0 then []
    else ((words[index - 2]?).getD "").toList.drop me.optionPlace
  if current ≠ [] then some (current, index)
  else
    match (words[index - 1]?).map String.toList with
    | some ('-' :: letter :: letters) =>
      if letter = '-' && letters = [] then none else some (letter :: letters, index + 1)
    | _ => none

/-- An option is wanted, and whether with a value. -/
def wanted? (options : List Char) (letter : Char) : Option Bool :=
  match options with
  | [] => none
  | c :: ':' :: rest => if c = letter && c ≠ ':' then some true else wanted? rest letter
  | c :: rest => if c = letter && c ≠ ':' then some false else wanted? rest letter

/-- Reads the next option out of arguments. -/
def getopts : Command := fun arguments turn =>
  match arguments with
  | options :: name :: rest =>
    let me := turn.me
    let words := if rest = [] then me.arguments else rest
    let index := (((me.lookup "OPTIND").bind fun text => Digits.toNat? 10 text.toList).getD 1)
    let index := if words.length + 1 < index then 1 else index
    let silent := options.toList.head? = some ':'
    let finish (status place index : Nat) (value : Option String) (found : String)
        (turn : Turn) : Answer :=
      withValue (do
        let me ← turn.me.assign "OPTIND" (decimal index)
        let me ← match value with
          | some value => me.assign "OPTARG" value
          | none => pure (me.unbind "OPTARG")
        let me ← me.assign name found
        return { me with optionPlace := place })
        fun me => .done ({ turn with me }.withStatus status)
    match optionRest me words index with
    | none =>
      let index := if (words[index - 1]?) = some "--" then index + 1 else index
      finish 1 0 index (me.lookup "OPTARG") "?" turn
    | some ([], _) => finish 1 0 index (me.lookup "OPTARG") "?" turn
    | some (letter :: left, index) =>
      let place := ((words[index - 2]?).getD "").length - left.length
      let place := if left = [] then 0 else place
      match wanted? options.toList letter with
      | none =>
        if silent then finish 0 place index (some letter.toString) "?" turn
        else
          let turn := if me.isRich then
              turn.tell 2 (me.name ++ ": illegal option -- " ++ letter.toString ++ "\n")
            else turn.tell 2 ("Illegal option -" ++ letter.toString ++ "\n")
          finish 0 place index none "?" turn
      | some false => finish 0 place index (some "") letter.toString turn
      | some true =>
        match left, words[index - 1]? with
        | [], some value => finish 0 0 (index + 1) (some value) letter.toString turn
        | [], none =>
          if silent then finish 0 0 index (some letter.toString) ":" turn
          else
            finish 0 0 index none "?"
              (turn.tell 2 (if me.isRich then
                me.name ++ ": option requires an argument -- " ++ letter.toString ++ "\n"
                else "No arg for -" ++ letter.toString ++ " option\n"))
        | left, _ => finish 0 0 index (some (String.ofList left)) letter.toString turn
  | _ => .fault "Usage: getopts optstring var [arg...]"

/-! ## 3. The mask -/

/-- What a mask leaves to everybody, in letters. -/
def maskLetters (mask : Nat) : String :=
  let left := Call.unmasked 0o777 mask
  let part (who : String) (shift : Nat) : String :=
    let bits := left / shift % 8
    who ++ "=" ++ (if bits &&& 4 ≠ 0 then "r" else "") ++ (if bits &&& 2 ≠ 0 then "w" else "") ++
      (if bits &&& 1 ≠ 0 then "x" else "")
  ",".intercalate [part "u" 64, part "g" 8, part "o" 1]

/-- Shows or sets what new files do not get. -/
def umask : Command := fun arguments turn =>
  withLetters "S" arguments fun letters words =>
    let set (mask : Nat) : Answer :=
      .done ((turn.withStatus 0).mine fun me => { me with creationMask := mask &&& 0o777 })
    let mask := turn.me.creationMask
    match words with
    | [] =>
      let digits := Format.Directive.digitsIn 8 8 mask
      let text := if letters = [] then
        String.ofList (List.replicate (4 - digits.length) '0' ++ digits) else maskLetters mask
      prints "umask" (text ++ "\n") turn
    | text :: _ =>
      if text.toList.head?.any Digits.isDecimal then
        match Digits.toNat? 8 text.toList with
        | some mask => if mask ≤ 0o777 then set mask else .fault ("Illegal number: " ++ text)
        | none => .fault ("Illegal number: " ++ text)
      else
        match Call.modeOf? 0 true (Call.unmasked 0o777 mask) text with
        | some mode => set (Call.unmasked 0o777 mode)
        | none => .fault ("Illegal mode: " ++ text)

end RenderSync.Shell.Command
