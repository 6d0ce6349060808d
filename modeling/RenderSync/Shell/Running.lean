import RenderSync.Shell.Command.Control
import RenderSync.Shell.Duration
import RenderSync.Shell.Redirection

/-!
# Running programs

What a process does that has become a program of the system.  A utility reads first what it is going
to need and then follows its course; other programs wait, copy what comes in, print without end, or
give way to a program that they are called with.
-/

namespace RenderSync.Shell

namespace Turn

/-! ## 1. Ends -/

/-- Ends the process after it has printed something. -/
def concludes (output complaints : String) (status : Nat) (turn : Turn) : Turn :=
  turn.mine fun me =>
    { me with agenda := [.follow (.printing output (.complaining complaints (.finish status)))] }

/-- Ends the process after a complaint. -/
def refuses (message : String) (status : Nat) (turn : Turn) : Turn :=
  turn.concludes "" (turn.me.name ++ ": " ++ message ++ "\n") status

/-- Ends the process after a complaint about how it was called. -/
def misused (message : String) (status : Nat) (turn : Turn) : Turn :=
  turn.refuses (message ++ "\n" ++ Call.hint turn.me.name) status

/-- Goes on with options if they make sense. -/
def withGrammar (grammar : Grammar) (arguments : List String) (status : Nat)
    (act : Options → Turn) (turn : Turn) : Turn :=
  match grammar.split arguments with
  | .ok options => act options
  | .error message => turn.misused message status

/-! ## 2. Reading and working -/

/-- How a utility is called. -/
def callOf (arguments : List String) (inputs : List (String × String)) (turn : Turn) : Call where
  name := turn.me.name
  arguments := arguments
  here := turn.me.here
  environment := turn.me.environment
  creationMask := turn.me.creationMask
  files := turn.files
  inputs := inputs
  isSized := match (turn.me.stream? 0).bind fun number => turn.opened.lookup number with
    | some (.file ..) => true
    | _ => false
  number := turn.me.number
  now := turn.now

/-- A utility does its work. -/
def works (utility : Utility) (arguments : List String) (inputs : List (String × String))
    (turn : Turn) : Turn :=
  let (course, files) := (utility (turn.callOf arguments inputs)).settle turn.files
  { turn with files }.mine fun me => { me with agenda := [.follow course] }

/-- What an operand names is no file that can be looked at: it has to be read. -/
def isStreamed (turn : Turn) (operand : String) : Bool :=
  operand = "-" ||
    let place := placeNamed turn.files (pathFrom turn.me.here operand)
    (descriptorOf? place).isSome ||
      match turn.files.get? place with
      | some (.pipe _) | some (.device ..) => true
      | _ => false

/-- Goes on to the next operand that has to be read; when there is none, the utility does its
work. -/
def gathersNext (feed : Feed) (turn : Turn) : Turn :=
  match feed.fields, feed.waiting with
  | [], _ => turn
  | name :: arguments, [] =>
    match Utility.find? name with
    | some tool => turn.works tool.act arguments feed.inputs
    | none => turn.plan [.finish 127]
  | name :: arguments, operand :: waiting =>
    let start (descriptor : Nat) (turn : Turn) : Turn :=
      let task := Task.feed { feed with operand, descriptor, waiting, gathered := [] }
      turn.plan (if turn.me.knocks = [] then [task] else [.meet, task])
    if operand = "-" then start 0 turn
    else
      let opened := turn.openPath operand true false fun files path =>
        if files.contains path then some (files, false) else none
      match opened with
      | .ok (stream, turn) =>
        let aside := turn.me.asideFor
        start aside (turn.mine (·.lead aside stream))
      | .error _ =>
        turn.plan [.feed ⟨name :: arguments, feed.inputs, "", 0, [], waiting⟩]

/-- A program has come to the end of what it reads, or needs no more of it. -/
def hasRead (feed : Feed) (turn : Turn) : Turn :=
  let inputs := if feed.operand = "" then feed.inputs
    else feed.inputs ++ [(feed.operand, Octets.ofBytes feed.gathered)]
  gathersNext { feed with inputs } turn

/-- A program needs no more of what it reads. -/
def hasEnough (feed : Feed) (turn : Turn) : Bool :=
  match feed.fields with
  | name :: arguments =>
    (Utility.find? name).any fun tool => tool.enough
      (turn.callOf arguments (feed.inputs ++ [(feed.operand, Octets.ofBytes feed.gathered)]))
  | [] => false

/-- A program that reads goes on; `none` if there is nothing to read at this moment. -/
def feeds (feed : Feed) (turn : Turn) : Option Turn :=
  if feed.operand = "" then some (turn.gathersNext feed)
  else
    match turn.read feed.descriptor anything with
    | .blocked => none
    | .failed _ => some (turn.hasRead feed)
    | .done none turn => some (turn.hasRead feed)
    | .done (some bytes) turn =>
      let feed := { feed with gathered := feed.gathered ++ bytes }
      some (if turn.hasEnough feed then turn.hasRead feed else turn.plan [.feed feed])

/-- A shell reads its script. -/
def types (gathered : List UInt8) (turn : Turn) : Option Turn :=
  match turn.read 0 anything with
  | .blocked => none
  | .done (some bytes) turn => some (turn.plan [.typed (gathered ++ bytes)])
  | .failed _ => some (script turn)
  | .done none turn => some (script turn)
where
  /-- Runs the script. -/
  script (turn : Turn) : Turn :=
    turn.mine fun me =>
      { me with agenda := [.source (.start (Octets.ofBytes gathered).toList 1 []) .plain] }

/-- Copies what can be read at this moment. -/
def pours (descriptors : List Nat) (turn : Turn) : Option Turn :=
  match turn.read 0 anything with
  | .blocked => none
  | .done (some bytes) turn =>
    let text := Octets.ofBytes bytes
    some (turn.plan [.follow (descriptors.foldr (fun descriptor next =>
      .write descriptor text next) (.wait)), .pour descriptors])
  | .failed _ | .done none _ => some turn

/-- Prints what a file has got since. -/
def trails (place : Place) (offset : Nat) (turn : Turn) : Option Turn :=
  match turn.files.get? place with
  | some (.file _ content) =>
    let bytes := content.bytes
    if bytes.length < offset then
      some (turn.plan [.follow (.write 2 (turn.me.name ++ ": " ++
        (((FileTree.pathOf place).text.splitOn "/").getLastD "") ++ ": file truncated\n") .wait),
        .trail place 0])
    else if bytes.length = offset then none
    else
      some (turn.plan [.follow (.write 1 (Octets.ofBytes (bytes.drop offset)) .wait),
        .trail place bytes.length])
  | _ => none

/-! ## 3. Courses -/

/-- A program cannot write. -/
def cannotWrite (descriptor : Nat) (problem : String) (turn : Turn) : Turn :=
  let told := if problem = "Broken pipe" then turn.mine (·.signal .brokenPipe) else turn
  if told.me.ended.isSome || descriptor = 2 then told
  else
    let status := if ["grep", "sort", "diff", "cmp"].contains told.me.name then 2
      else if told.me.name = "sed" then 4 else 1
    let message := if told.me.name = "sed" then "couldn't flush stdout: " else "write error: "
    told.mine fun me =>
      { me with agenda := [.follow (.complaining (me.name ++ ": " ++ message ++ problem ++ "\n")
          (.finish status))] }

/-- Runs another program. -/
def sends (errand : Errand) (next : Report → Course) (turn : Turn) : Turn :=
  match errand.words with
  | [] => turn.plan [.follow (next { outcome := .error .missing })]
  | name :: arguments =>
    match turn.me.launch turn.files true name arguments with
    | .error fault => turn.plan [.follow (next { outcome := .error fault })]
    | .ok _ =>
      let (input, turn) : Option Nat × Turn := match errand.input with
        | some text =>
          let (number, turn) := turn.openStream (.document (Octets.toBytes text))
          (some number, turn)
        | none => (none, turn)
      let (output, turn) : Option (Nat × Nat) × Turn := if errand.captures then
          let (_, source, sink, turn) := turn.openPipe
          (some (source, sink), turn)
        else (none, turn)
      let files := turn.files
      let (child, turn) := turn.fork [] fun me =>
        let me := match me.launch files true name arguments with
          | .ok launched => launched
          | .error _ => me
        let me := (input.map fun number => me.lead 0 number).getD me
        (output.map fun (_, sink) => me.lead 1 sink).getD me
      let aside := turn.me.asideFor
      let turn := match output with
        | some (source, _) => turn.mine (·.lead aside source)
        | none => turn
      let hearing : Hearing :=
        ⟨child, output.map fun _ => aside, [], errand.watch,
          (errand.watch.bind Watch.limit).map (turn.now + ·), false⟩
      turn.plan [.hear hearing next]

/-- Goes on with a course up to the next act that others may see. -/
def follows (course : Course) (turn : Turn) : Option Turn :=
  let (course, files) := course.settle turn.files
  let settled := { turn with files }
  match course with
  | .wait => some settled
  | .finish status => some (settled.mine (·.end_ (.exited (status % 256))))
  | .fall signal => some (settled.mine (·.end_ (.signaled signal.number)))
  | .write descriptor text next =>
    match settled.write descriptor (Octets.toBytes text) with
    | .done _ turn => some (turn.plan [.follow next])
    | .blocked => none
    | .failed problem =>
      let told := settled.cannotWrite descriptor problem
      some (if descriptor = 2 && told.me.ended.isNone then told.plan [.follow next] else told)
  | .take descriptor most next =>
    let upTo (more : Bool) (there : List UInt8) : Option Nat :=
      (anything more there).map fun _ => min most there.length
    match settled.read descriptor upTo with
    | .done bytes turn => some (turn.plan [.follow (next (bytes.map Octets.ofBytes))])
    | .blocked => none
    | .failed _ => some (settled.plan [.follow (next none)])
  | .run errand next => some (settled.sends errand next)
  | .look _ | .put .. => some settled

/-- A program hears from another one. -/
def hears (hearing : Hearing) (next : Report → Course) (turn : Turn) : Option Turn :=
  let again (hearing : Hearing) (turn : Turn) : Option Turn :=
    some (turn.plan [.hear hearing next])
  let me := turn.me.number
  let group := turn.me.group
  -- The child is told something, and so is everybody else in the group.
  let tell (signal : Signal) (turn : Turn) : Turn :=
    let told (process : Process) : Process :=
      if process.number = hearing.child || process.group = group && process.number ≠ me then
        let process := process.signal signal
        if signal = .kill then process else process.signal .continue_
      else process
    let turn := { turn with processes := turn.processes.map told }
    if signal = .kill && group = me then turn.mine (·.signal .kill) else turn
  match hearing.watch, turn.me.caught with
  | some _, signal :: caught =>
    again hearing ((tell signal turn).mine fun me => { me with caught })
  | _, _ =>
    let ended := match turn.processes.find? (·.number = hearing.child) with
      | some process => process.ended
      | none => some (.exited 127)
    let finish (turn : Turn) : Option Turn :=
      match ended with
      | some ended =>
        let turn := { turn with
          processes := turn.processes.filter (·.number ≠ hearing.child) }
        let turn := match hearing.source with
          | some source => turn.mine (·.close source)
          | none => turn
        some (turn.plan [.follow (next
          ⟨.ok ended, Octets.ofBytes hearing.gathered, hearing.isLate⟩)])
      | none =>
        match hearing.watch, hearing.deadline with
        | some watch, some deadline =>
          if turn.now < deadline then none
          else
            let signal := if hearing.isLate then .kill else watch.signal
            again { hearing with
              isLate := true
              deadline := if hearing.isLate then none else watch.patience.map (turn.now + ·) }
              (tell signal turn)
        | _, _ => none
    match hearing.source with
    | none => finish turn
    | some source =>
      match turn.read source anything with
      | .blocked => none
      | .done (some bytes) turn =>
        again { hearing with gathered := hearing.gathered ++ bytes } turn
      | .failed _ | .done none _ => finish turn

/-! ## 4. Programs that run others -/

/-- Another program takes the place of this one. -/
def givesWay (problem : String → String) (words : List String) (turn : Turn) : Turn :=
  match words with
  | [] => turn.misused "missing operand" 125
  | name :: arguments =>
    match turn.me.launch turn.files true name arguments with
    | .ok me => { turn with me }
    | .error fault => turn.refuses (problem name ++ ": " ++ fault.problem) fault.status

/-- A command that cannot be run. -/
def failedToRun (name : String) : String := "failed to run command " ++ curly name

/-- Changes the environment as options and operands say, and gives way to what they leave. -/
def asEnvironment (options : Options) (turn : Turn) : Turn :=
  let cleared := options.has 'i'
  let turn := turn.mine fun me =>
    let me := if cleared then { me with bindings := [] } else me
    (options.values 'u').foldl (fun me name => me.unbind name) me
  let (assignments, words) := options.operands.span fun word => word.toList.contains '='
  let (cleared, assignments, words) : Bool × List String × List String :=
    match assignments, words with
    | [], "-" :: rest =>
      let (assignments, words) := rest.span fun word => word.toList.contains '='
      (true, assignments, words)
    | assignments, words => (false, assignments, words)
  let turn := turn.mine fun me =>
    assignments.foldl (fun me word =>
      let (name, value) := word.toList.span (· ≠ '=')
      me.bind (String.ofList name) (Variable.ofText (String.ofList value.tail)).handedOn)
      (if cleared then { me with bindings := [] } else me)
  let moved : Except String Turn := match options.value? 'C' with
    | none => .ok turn
    | some directory =>
      match turn.files.canonical? (pathFrom turn.me.here directory) with
      | some path =>
        if turn.files.isDirectory path then
          .ok (turn.mine fun me => { me with here := Octets.ofString path.text })
        else .error directory
      | none => .error directory
  match moved with
  | .error directory =>
    let problem := (turn.files.trouble (pathFrom turn.me.here directory)).message
    turn.refuses ("cannot change directory to " ++ inQuotes directory ++ ": " ++ problem) 125
  | .ok turn =>
    match words with
    | [] =>
      let ending := if options.has '0' then "\x00" else "\n"
      turn.concludes (String.join (turn.me.environment.map fun (name, value) =>
        name ++ "=" ++ value ++ ending)) "" 0
    | name :: arguments =>
      match turn.me.launch turn.files true name arguments with
      | .ok me => { turn with me }
      | .error fault =>
        let advice := if name.toList.any isSpace then
          "\nenv: use -[v]S to pass options in shebang lines" else ""
        turn.refuses (curly name ++ ": " ++ fault.problem ++ advice) fault.status

/-- The options of the program that changes the environment. -/
def environmentGrammar : Grammar :=
  ⟨"i0v", "uCS", "βδλι", [("ignore-environment", 'i'), ("null", '0'), ("unset", 'u'),
    ("chdir", 'C'), ("split-string", 'S'), ("block-signal", 'β'), ("default-signal", 'δ'),
    ("ignore-signal", 'ι'), ("list-signal-handling", 'λ'), ("debug", 'v')], true⟩

/-- The words of a text, as the program takes it apart that changes the environment; `fuel` bounds
its length. -/
def splitWords (environment : List (String × String)) : (fuel : Nat) → (word : Option (List Char)) →
    (quote : Option Char) → List Char → Except String (List String)
  | 0, _, _, _ => .ok []
  | _, word, none, [] => .ok (word.toList.map String.ofList)
  | _, _, some _, [] => .error "no terminating quote in -S string"
  | fuel + 1, word, quote, c :: rest =>
    let add (text : List Char) (rest : List Char) : Except String (List String) :=
      splitWords environment fuel (some (word.getD [] ++ text)) quote rest
    let cut (rest : List Char) : Except String (List String) :=
      (splitWords environment fuel none quote rest).map
        (word.toList.map String.ofList ++ ·)
    match quote, c with
    | some '\'', '\\' =>
      match rest with
      | '\\' :: rest => add ['\\'] rest
      | '\'' :: rest => add ['\''] rest
      | rest => add ['\\'] rest
    | _, '\\' =>
      match rest with
      | [] => .error "invalid backslash at end of string in -S"
      | d :: rest =>
        match d with
        | 'c' => if quote.isSome then .error "'\\c' must not appear in double-quoted -S string"
            else .ok (word.toList.map String.ofList)
        | 'f' => add ['\x0c'] rest
        | 'n' => add ['\n'] rest
        | 'r' => add ['\r'] rest
        | 't' => add ['\t'] rest
        | 'v' => add ['\x0b'] rest
        | '_' => if quote.isSome then add [' '] rest else cut rest
        | '#' | '$' | '\\' | '"' | '\'' => add [d] rest
        | d => .error ("invalid sequence '\\" ++ d.toString ++ "' in -S")
    | some q, c =>
      if c = q then splitWords environment fuel (some (word.getD [])) none rest
      else if c = '$' && q = '"' then reference fuel word quote rest
      else add [c] rest
    | none, c =>
      if c = '\'' || c = '"' then splitWords environment fuel (some (word.getD [])) (some c) rest
      else if isSpace c then cut rest
      else if c = '#' && word.isNone then .ok []
      else if c = '$' then reference fuel word quote rest
      else add [c] rest
where
  /-- The value of a variable. -/
  reference (fuel : Nat) (word : Option (List Char)) (quote : Option Char) (rest : List Char) :
      Except String (List String) :=
    match fuel, rest with
    | fuel + 1, '\x7b' :: rest =>
      let (name, rest) := rest.span (· ≠ '\x7d')
      let value := ((environment.lookup (String.ofList name)).getD "").toList
      splitWords environment fuel (if value = [] then word else some (word.getD [] ++ value)) quote
        (rest.drop 1)
    | _, _ => .error "only $\x7bVARNAME\x7d expansion is supported, error at: $"

/-- Reads arguments, among them texts that are to be taken apart; `fuel` bounds how many. -/
def environmentOptions (environment : List (String × String)) : (fuel : Nat) → List String →
    Except String Options
  | 0, _ => .ok ⟨[], []⟩
  | fuel + 1, arguments => do
    let options ← environmentGrammar.split arguments
    match options.chosen.findIdx? (·.1 = 'S') with
    | none => return options
    | some place =>
      let text := ((options.chosen[place]?).map Prod.snd).getD ""
      let words ← splitWords environment (2 * text.length + 2) none none text.toList
      -- What stands behind the text follows its words.
      let before := options.chosen.take place
      let later := (options.chosen.drop (place + 1)).map fun (letter, value) =>
        "-" ++ letter.toString ++ value
      let rest ← environmentOptions environment fuel (words ++ later ++ options.operands)
      return { rest with chosen := before ++ rest.chosen }

/-- The signals that a program passes on to the one which it watches. -/
def passedOn : List Signal := [⟨1⟩, ⟨2⟩, ⟨3⟩, .terminate, ⟨10⟩, ⟨12⟩, ⟨14⟩]

/-- Runs a program for no longer than some time. -/
def asWatch (options : Options) (turn : Turn) : Turn :=
  let named (text : String) : Option Signal :=
    Command.signal? (if "SIG".toList.isPrefixOf text.toList then
      String.ofList (text.toList.drop 3) else text)
  match options.operands with
  | [] | [_] => turn.concludes "" (Call.hint turn.me.name ++ "\n") 125
  | limit :: name :: arguments =>
    match (options.value? 's').map fun text => (text, named text) with
    | some (text, none) => turn.misused (curly text ++ ": invalid signal") 125
    | chosen =>
      let bad := ((options.value? 'k').toList ++ [limit]).find? fun text =>
        (duration? text).isNone
      match bad with
      | some text => turn.misused ("invalid time interval " ++ curly text) 125
      | none =>
        let signal := (chosen.bind Prod.snd).getD .terminate
        let turn := turn.mine fun me =>
          { me with
            group := if options.has 'φ' then me.group else me.number
            traps := passedOn.map (·, "pass") }
        let limit := match (duration? limit).getD 0 with
          | 0 => none
          | n => some n
        let patience := (options.value? 'k').bind duration?
        let errand : Errand :=
          { words := name :: arguments, watch := some ⟨limit, signal, patience⟩ }
        let said := if options.has 'v' then
          "timeout: sending signal " ++ Signal.name signal ++ " to command " ++ curly name ++ "\n"
          else ""
        turn.plan [.follow (.run errand fun report =>
          match report.outcome with
          | .error fault =>
            .complaining ("timeout: " ++ failedToRun name ++ ": " ++ fault.problem ++ "\n")
              (.finish fault.status)
          | .ok ended =>
            if report.isLate then
              .complaining said (match ended, options.has 'π' with
                | .signaled 9, _ => .finish 137
                | ended, true => .finish (statusOf ended)
                | _, false => .finish 124)
            else
              match ended with
              | .exited code => .finish code
              | .signaled number => .fall ⟨number⟩)]

/-- The options of the program that sets a limit. -/
def watchGrammar : Grammar :=
  ⟨"vφπ", "ks", "", [("foreground", 'φ'), ("kill-after", 'k'), ("preserve-status", 'π'),
    ("signal", 's'), ("verbose", 'v')], true⟩

/-- Copies what comes in to files as well. -/
def asCopy (options : Options) (turn : Turn) : Turn :=
  let mode := 0o666 - (0o666 &&& turn.me.creationMask)
  let (descriptors, complaints, turn) := options.operands.foldl
    (fun (state : List Nat × List String × Turn) operand =>
      let (descriptors, complaints, turn) := state
      let opened := turn.openPath operand false true fun files path =>
        if options.has 'a' && (files.read? path).isSome then some (files, true)
        else (files.writeWith mode path []).map (·, options.has 'a')
      match opened with
      | .ok (stream, turn) =>
        let aside := turn.me.asideFor
        (descriptors ++ [aside], complaints, turn.mine (·.lead aside stream))
      | .error _ =>
        let path := pathFrom turn.me.here operand
        let problem := if turn.files.isDirectory path then PathTrouble.isDirectory.message
          else (turn.files.trouble path).message
        (descriptors, complaints ++ [turn.me.name ++ ": " ++ Call.about operand problem ++ "\n"],
          turn)) ([], [], turn)
  let turn := if options.has 'i' then
    turn.mine fun me => { me with traps := (.interrupt, "") :: me.traps } else turn
  let told := turn.plan [.follow (.complaining (String.join complaints) .wait),
    .pour (1 :: descriptors), .finish (if complaints = [] then 0 else 1)]
  if told.me.knocks = [] then told else told.plan [.meet]

/-- Prints the end of a file, and then what it gets. -/
def asTrail (options : Options) (operand : String) (turn : Turn) : Turn :=
  let call := turn.callOf [] []
  match turn.files.locate? (pathFrom turn.me.here operand) with
  | none => turn.works (fun call => (call.tail options).course) [] []
  | some place =>
    match turn.files.get? place with
    | some (.file _ content) =>
      turn.plan [.follow ((call.tail options).said.foldr (fun (descriptor, text) next =>
        .write descriptor text next) .wait), .trail place content.bytes.length]
    | _ => turn.works (fun call => (call.tail options).course) [] []

/-! ## 5. Starting -/

/-- A utility starts: it reads first what it needs. -/
def asUtility (tool : Tool) (name : String) (arguments : List String) (turn : Turn) : Turn :=
  let wanted := ((tool.reads arguments).filter turn.isStreamed).eraseDups
  if wanted = [] then turn.works tool.act arguments []
  else turn.plan [.feed ⟨name :: arguments, [], "", 0, [], wanted⟩]

/-- Tells processes something, in the words of a program of its own. -/
def asMessenger (arguments : List String) (turn : Turn) : Turn :=
  let bare (word : String) : String :=
    if "-SIG".toList.isPrefixOf word.toList then String.ofList ('-' :: word.toList.drop 4)
    else if "SIG".toList.isPrefixOf word.toList then String.ofList (word.toList.drop 3)
    else word
  match Command.kill (arguments.map bare) turn with
  | .done turn => turn.plan [.finish turn.me.status]
  | .fault message | .refused _ message => turn.refuses message 1
  | .blocked => turn

/-- A program starts. -/
def begins (name : String) (arguments : List String) (turn : Turn) : Turn :=
  match name with
  | "sleep" =>
    turn.withGrammar ⟨"", "", "", [], false⟩ arguments 1 fun options =>
      match options.operands.mapM duration? with
      | some [] => turn.misused "missing operand" 1
      | some times =>
        turn.mine fun me =>
          { me with
            wakeAt := some (turn.now + times.foldl (· + ·) 0)
            agenda := [.finish 0] }
      | none =>
        let bad := options.operands.filter fun text => (duration? text).isNone
        turn.refuses ("\n".intercalate (bad.zipIdx.map fun (text, n) =>
          (if n = 0 then "" else turn.me.name ++ ": ") ++ "invalid time interval " ++ curly text) ++
          "\n" ++ Call.hint turn.me.name) 1
  | "yes" =>
    turn.withGrammar ⟨"", "", "", [], false⟩ arguments 1 fun options =>
      let words := options.operands
      let line := (if words = [] then "y" else " ".intercalate words) ++ "\n"
      turn.plan [.follow (.write 1 (String.join (List.replicate 512 line)) .wait),
        .program (name :: arguments)]
  | "env" =>
    match environmentOptions turn.me.environment (arguments.length + 8) arguments with
    | .ok options => turn.asEnvironment options
    | .error message => turn.misused message 125
  | "nohup" =>
    turn.withGrammar ⟨"", "", "", [], true⟩ arguments 125 fun options =>
      (turn.mine fun me => { me with traps := (⟨1⟩, "") :: me.traps }).givesWay
        (fun name => "failed to run command " ++ inQuotes name) options.operands
  | "setsid" =>
    turn.withGrammar ⟨"cfw", "", "", [("ctty", 'c'), ("fork", 'f'), ("wait", 'w')], true⟩
      arguments 1 fun options =>
        let refused (name : String) : String := "failed to execute " ++ name
        if options.operands = [] then turn.misused "no command specified" 1
        else if turn.me.group = turn.me.number || options.has 'f' then
          let (child, turn) := turn.fork [.program ("setsid" :: "--" :: options.operands)]
            fun me => { me with group := 0 }
          turn.mine fun me =>
            { me with agenda := if options.has 'w' then [.await [child]] else [.finish 0] }
        else (turn.mine fun me => { me with group := me.number }).givesWay refused options.operands
  | "nice" =>
    turn.withGrammar ⟨"", "n", "", [("adjustment", 'n')], true⟩ (Utility.numberFirst "-n" arguments)
      125 fun options =>
        if options.operands = [] then turn.concludes "0\n" "" 0
        else turn.givesWay (fun name => curly name) options.operands
  | "stdbuf" =>
    turn.withGrammar ⟨"", "ioe", "", [("input", 'i'), ("output", 'o'), ("error", 'e')], true⟩
      arguments 125 fun options => turn.givesWay failedToRun options.operands
  | "timeout" => turn.withGrammar watchGrammar arguments 125 fun options => turn.asWatch options
  | "tee" =>
    turn.withGrammar Utility.teeGrammar arguments 1 fun options => turn.asCopy options
  | "kill" => turn.asMessenger arguments
  | _ =>
    match Utility.find? name with
    | none => turn.mine fun me => { me with agenda := [.finish 127] }
    | some tool =>
      let plainly := turn.asUtility tool name arguments
      match name with
      | "cat" =>
        match Utility.catGrammar.split arguments with
        | .ok options =>
          if options.chosen.all (·.1 = 'u') && (options.operands = [] || options.operands = ["-"])
          then turn.plan [.pour [1], .finish 0]
          else plainly
        | .error _ => plainly
      | "tail" =>
        match Utility.tailGrammar.split (Utility.numberFirst "-n" arguments) with
        | .ok options =>
          match options.hasAny "fFφ", options.operands with
          | true, [operand] => if turn.isStreamed operand then plainly
              else turn.asTrail options operand
          | _, _ => plainly
        | .error _ => plainly
      | _ => plainly

end Turn

end RenderSync.Shell
