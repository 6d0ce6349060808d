import RenderSync.Shell.Utility.Records.Exchange

/-!
# Carrying out programs for records

Expressions are worked out and statements carried out with what is to be done next in hand: where a
program reads, prints or runs a command, its course ends for the moment, and what is next stands
behind the act.

All functions here get `fuel`, which bounds how long a program goes on.
-/

namespace RenderSync.Shell.Records

/-- Where a statement may go on. -/
structure Flow where
  /-- Behind it. -/
  done : Memory → Course
  /-- Behind the loop that it stands in. -/
  leave : Memory → Course
  /-- In the next round of that loop. -/
  again : Memory → Course
  /-- Behind the call of the function that it stands in. -/
  give : Next Cell
  /-- At the next record, or at that of the next file. -/
  record : (skips : Bool) → Memory → Course
  stop : Memory → Course

/-! ## 1. Functions -/

/-- A text without a part of it: where it starts is counted from one. -/
def partOf (text : List Char) (start : Int) (count : Option Int) : List Char :=
  let count := if start < 1 then count.map (· - start) else count
  let rest := text.drop ((max start 1).toNat - 1)
  match count with
  | some count => rest.take count.toNat
  | none => rest

/-- Where a text stands in another one, counted from one; zero if it does not. -/
def placeOf (part : List Char) : (place : Nat) → List Char → Nat
  | _, [] => 0
  | place, c :: rest =>
    if part.isPrefixOf (c :: rest) then place else placeOf part (place + 1) rest

/-- The moment of numbers such as `2020 01 02 03 04 05`. -/
def momentOf (text : String) : Int :=
  let numbers := (Separator.words (text.length + 1) text.toList).map fun word =>
    toInteger (leadingNumber word)
  match numbers with
  | year :: month :: day :: hour :: minute :: seconds :: _ =>
    Almanac.moment ⟨year.toNat, month.toNat, day.toNat⟩ (hour * 3600 + minute * 60 + seconds) 0 /
      RenderSync.second
  | _ => -1

/-- What a function makes of its arguments that does no more than that. -/
def simply (now : Int) (memory : Memory) : String → List Cell → Option Cell
  | "length", [cell] => some (.ofInt (memory.textOf cell).length)
  | "index", [text, part] =>
    some (.ofInt (placeOf (memory.textOf part).toList 1 (memory.textOf text).toList))
  | "substr", cell :: start :: count =>
    some (.text (String.ofList (partOf (memory.textOf cell).toList (toInteger start.toNumber)
      (count.head?.map fun count => toInteger count.toNumber))))
  | "tolower", [cell] => some (.text ((memory.textOf cell).map Char.toLower))
  | "toupper", [cell] => some (.text ((memory.textOf cell).map Char.toUpper))
  | "sin", [cell] => some (.number (double.sine cell.toNumber))
  | "cos", [cell] => some (.number (double.cosine cell.toNumber))
  | "atan2", [y, x] => some (.number (double.angle y.toNumber x.toNumber))
  | "exp", [cell] => some (.number (double.exponential cell.toNumber))
  | "log", [cell] => some (.number (double.logarithm cell.toNumber))
  | "sqrt", [cell] => some (.number (double.root cell.toNumber))
  | "int", [cell] => some (.number (double.whole cell.toNumber))
  | "systime", [] => some (.ofInt (now / RenderSync.second))
  | "mktime", cell :: _ => some (.ofInt (momentOf (memory.textOf cell)))
  | "strftime", [] => some (.text (dated now "%c"))
  | "strftime", [format] => some (.text (dated now (memory.textOf format)))
  | "strftime", format :: moment :: _ =>
    some (.text (dated (toInteger moment.toNumber * RenderSync.second) (memory.textOf format)))
  | _, _ => none

/-- Cells printed by the first one of them; `name` is what is to print them. -/
def printedBy (name : String) (memory : Memory) : List Cell → Except String String
  | [] => .ok ""
  | format :: cells =>
    let format := memory.textOf format
    match formatted memory.textOf Cell.toNumber (format.length + 1) 0 cells format.toList with
    | .ok text => .ok (String.ofList text)
    | .error .tooFew =>
      .error ("not enough arguments passed to " ++ name ++ "(\"" ++ format ++ "\")")
    | .error (.unknown number) =>
      .error ("improper conversion(number " ++ decimal number ++ ") in " ++ name ++ "(\"" ++
        format ++ "\")")

/-- The next random number below one. -/
def nextRandom (memory : Memory) : Cell × Memory :=
  let seed := (memory.seed * 1103515245 + 12345) % 2147483648
  (.number (double.round seed 2147483648), { memory with seed })

/-! ## 2. Expressions and statements -/

mutual

/-- Works out an expression. -/
def eval (setting : Setting) (flow : Flow) : (fuel : Nat) → Expr → Next Cell → Memory → Course
  | 0, _, _, memory => flow.stop memory
  | fuel + 1, expr, next, memory =>
    match expr with
    | .number bits => next (.number bits) memory
    | .text text => next (.text text) memory
    | .regex regex =>
      next (.ofBool (regex.find? false [] memory.record.toList).isSome) memory
    | .name name => next (memory.cell name) memory
    | .group inner => eval setting flow fuel inner next memory
    | .field index =>
      evalIndex setting flow fuel index (fun index memory => next (memory.field index) memory)
        memory
    | .element table keys =>
      evalKey setting flow fuel keys (fun key memory =>
        let (cell, memory) := memory.withTable table (·.get key)
        next cell memory) memory
    | .assign operator target value =>
      match operator with
      | none =>
        eval setting flow fuel value (fun cell memory =>
          assign setting flow fuel target cell next memory) memory
      | some operator =>
        eval setting flow fuel value (fun right memory =>
          eval setting flow fuel target (fun left memory =>
            assign setting flow fuel target
              (.number (operator.apply left.toNumber right.toNumber)) next memory) memory) memory
    | .step up before target =>
      eval setting flow fuel target (fun cell memory =>
        let old := cell.toNumber
        let one := double.round 1 1
        let new := if up then double.sum old one else double.difference old one
        assign setting flow fuel target (.number new) (fun _ memory =>
          next (.number (if before then old else new)) memory) memory) memory
    | .choose condition yes no =>
      eval setting flow fuel condition (fun cell memory =>
        eval setting flow fuel (if cell.holds then yes else no) next memory) memory
    | .both first second =>
      eval setting flow fuel first (fun cell memory =>
        if cell.holds then
          eval setting flow fuel second (fun cell memory => next (.ofBool cell.holds) memory) memory
        else next (.ofBool false) memory) memory
    | .either first second =>
      eval setting flow fuel first (fun cell memory =>
        if cell.holds then next (.ofBool true) memory
        else
          eval setting flow fuel second (fun cell memory => next (.ofBool cell.holds) memory)
            memory) memory
    | .not inner =>
      eval setting flow fuel inner (fun cell memory => next (.ofBool !cell.holds) memory) memory
    | .sign negative inner =>
      eval setting flow fuel inner (fun cell memory =>
        let bits := cell.toNumber
        next (.number (if negative then double.difference 0 bits else bits)) memory) memory
    | .binary operator left right =>
      eval setting flow fuel left (fun a memory =>
        eval setting flow fuel right (fun b memory =>
          next (.number (operator.apply a.toNumber b.toNumber)) memory) memory) memory
    | .join left right =>
      eval setting flow fuel left (fun a memory =>
        eval setting flow fuel right (fun b memory =>
          next (.text (memory.textOf a ++ memory.textOf b)) memory) memory) memory
    | .relate relation left right =>
      eval setting flow fuel left (fun a memory =>
        eval setting flow fuel right (fun b memory =>
          next (.ofBool (relation.holds memory.convention a b)) memory) memory) memory
    | .fits positive text pattern =>
      eval setting flow fuel text (fun cell memory =>
        let text := memory.textOf cell
        evalRegex setting flow fuel pattern (fun regex memory =>
          next (.ofBool ((regex.find? false [] text.toList).isSome = positive)) memory) memory)
        memory
    | .contains keys table =>
      evalKey setting flow fuel keys (fun key memory =>
        let (found, memory) := memory.withTable table (·.contains key)
        next (.ofBool found) memory) memory
    | .call name arguments => call setting flow fuel name arguments next memory
    | .builtin name arguments => builtin setting flow fuel name arguments next memory
    | .read origin source target => reads setting flow fuel origin source target next memory

/-- Works out the number of a field. -/
def evalIndex (setting : Setting) (flow : Flow) :
    (fuel : Nat) → Expr → Next Nat → Memory → Course
  | 0, _, _, memory => flow.stop memory
  | fuel + 1, expr, next, memory =>
    eval setting flow fuel expr (fun cell memory =>
      let index := toInteger cell.toNumber
      if index < 0 then
        failsAt setting ("negative field index $" ++ signedDecimal index) memory
      else next index.toNat memory) memory

/-- Works out expressions one after the other. -/
def evalAll (setting : Setting) (flow : Flow) :
    (fuel : Nat) → List Expr → Next (List Cell) → Memory → Course
  | 0, _, _, memory => flow.stop memory
  | _, [], next, memory => next [] memory
  | fuel + 1, expr :: rest, next, memory =>
    eval setting flow fuel expr (fun cell memory =>
      evalAll setting flow fuel rest (fun cells memory => next (cell :: cells) memory) memory)
      memory

/-- Works out the key of an element. -/
def evalKey (setting : Setting) (flow : Flow) :
    (fuel : Nat) → List Expr → Next Key → Memory → Course
  | 0, _, _, memory => flow.stop memory
  | fuel + 1, keys, next, memory =>
    evalAll setting flow fuel keys (fun cells memory => next (memory.keyOf cells) memory) memory

/-- Works out an expression for texts. -/
def evalRegex (setting : Setting) (flow : Flow) :
    (fuel : Nat) → Expr → Next Regex → Memory → Course
  | 0, _, _, memory => flow.stop memory
  | fuel + 1, expr, next, memory =>
    match expr with
    | .regex regex => next regex memory
    | expr =>
      eval setting flow fuel expr (fun cell memory =>
        next (expression (memory.textOf cell).toList) memory) memory

/-- Gives a place a cell. -/
def assign (setting : Setting) (flow : Flow) :
    (fuel : Nat) → Expr → Cell → Next Cell → Memory → Course
  | 0, _, _, _, memory => flow.stop memory
  | fuel + 1, target, cell, next, memory =>
    match target with
    | .name name => next cell (memory.assign name cell)
    | .field index =>
      evalIndex setting flow fuel index (fun index memory =>
        next cell (memory.withField index cell)) memory
    | .element table keys =>
      evalKey setting flow fuel keys (fun key memory =>
        let ((), memory) := memory.withTable table fun table => ((), table.put key cell)
        next cell memory) memory
    | _ => next cell memory

/-- Calls a function.  A name that stands for nothing yet may become a table within it. -/
def call (setting : Setting) (flow : Flow) :
    (fuel : Nat) → String → List Expr → Next Cell → Memory → Course
  | 0, _, _, _, memory => flow.stop memory
  | fuel + 1, name, arguments, next, memory =>
    match setting.program.functions.find? (·.name = name) with
    | none => fails setting ("function " ++ name ++ " never defined") memory
    | some function =>
      evalSlots setting flow fuel arguments (fun slots memory =>
        let frame := function.parameters.zipIdx.map fun (name, n) => (name, slots.getD n .unset)
        let back (cell : Cell) (memory : Memory) : Course :=
          next cell { memory with locals := memory.locals.tail }
        let inner : Flow := { flow with
          done := back .nothing
          leave := back .nothing
          again := back .nothing
          give := back }
        execAll setting fuel function.body inner
          { memory with locals := frame :: memory.locals }) memory

/-- Works out arguments. -/
def evalSlots (setting : Setting) (flow : Flow) :
    (fuel : Nat) → List Expr → Next (List Slot) → Memory → Course
  | 0, _, _, memory => flow.stop memory
  | _, [], next, memory => next [] memory
  | fuel + 1, expr :: rest, next, memory =>
    let goOn (slot : Slot) (memory : Memory) : Course :=
      evalSlots setting flow fuel rest (fun slots memory => next (slot :: slots) memory) memory
    let plainly : Course := eval setting flow fuel expr (fun cell => goOn (.cell cell)) memory
    match expr with
    | .name name =>
      match memory.slot name with
      | .cell cell => goOn (.cell cell) memory
      | _ =>
        let (number, memory) := memory.tableNumber name
        goOn (.table number) memory
    | _ => plainly

/-- Calls a function that is always there. -/
def builtin (setting : Setting) (flow : Flow) :
    (fuel : Nat) → String → List Expr → Next Cell → Memory → Course
  | 0, _, _, _, memory => flow.stop memory
  | fuel + 1, name, arguments, next, memory =>
    match name, arguments with
    | "length", [] => next (.ofInt memory.record.length) memory
    | "length", [.name table] =>
      match memory.slot table with
      | .table number => next (.ofInt (memory.tableAt number).size) memory
      | _ => next (.ofInt (memory.textOf (memory.cell table)).length) memory
    | "split", text :: .name table :: separator =>
      eval setting flow fuel text (fun cell memory =>
        let text := (memory.textOf cell).toList
        let split (separator : Separator) (memory : Memory) : Course :=
          let parts := separator.fields text
          let ((), memory) := memory.withTable table fun _ =>
            ((), .listed (parts.map fun part => .found (String.ofList part)))
          next (.ofInt parts.length) memory
        match separator with
        | [] => split memory.separator memory
        | .regex regex :: _ => split (.regex regex) memory
        | expr :: _ =>
          eval setting flow fuel expr (fun cell memory =>
            split (Separator.ofText (memory.textOf cell)) memory) memory) memory
    | "match", [text, pattern] =>
      eval setting flow fuel text (fun cell memory =>
        let text := (memory.textOf cell).toList
        evalRegex setting flow fuel pattern (fun regex memory =>
          let (start, length) : Int × Int := match regex.find? false [] text with
            | some found => ((found.before.length + 1 : Nat), (found.text.length : Nat))
            | none => (0, -1)
          next (.ofInt start)
            ((memory.setGlobal "RSTART" (.ofInt start)).setGlobal "RLENGTH" (.ofInt length)))
          memory) memory
    | "sprintf", arguments =>
      evalAll setting flow fuel arguments (fun cells memory =>
        match printedBy "sprintf" memory cells with
        | .ok text => next (.text text) memory
        | .error message => failsAt setting message memory) memory
    | "rand", _ =>
      let (cell, memory) := nextRandom memory
      next cell memory
    | "srand", arguments =>
      evalAll setting flow fuel arguments (fun cells memory =>
        let seed := match cells.head? with
          | some cell => toInteger cell.toNumber
          | none => setting.call.clock / RenderSync.second
        next (.ofInt memory.sown) { memory with seed := seed.natAbs, sown := seed }) memory
    | "system", [command] =>
      eval setting flow fuel command (fun cell memory =>
        let command := memory.textOf cell
        flushing setting (fun memory =>
          running command none false fun report => next (.ofInt (endingOf report)) memory) memory)
        memory
    | "close", [name] =>
      eval setting flow fuel name (fun cell memory =>
        closesNamed setting (memory.textOf cell) (fun status => next (.ofInt status)) memory) memory
    | "fflush", arguments =>
      evalAll setting flow fuel arguments (fun _ memory =>
        flushing setting (next (.number 0)) memory) memory
    | name, arguments =>
      if (name = "sub" || name = "gsub") && 2 ≤ arguments.length then
        substitute setting flow fuel (name = "gsub") arguments next memory
      else
        evalAll setting flow fuel arguments (fun cells memory =>
          match simply setting.call.clock memory name cells with
          | some cell => next cell memory
          | none => fails setting ("wrong number of arguments in call to " ++ name) memory) memory

/-- Replaces matches in a place, or in the record; how many there were. -/
def substitute (setting : Setting) (flow : Flow) :
    (fuel : Nat) → (all : Bool) → List Expr → Next Cell → Memory → Course
  | 0, _, _, _, memory => flow.stop memory
  | fuel + 1, all, arguments, next, memory =>
    match arguments with
    | pattern :: template :: target =>
      let target := target.headD (.field (.number 0))
      evalRegex setting flow fuel pattern (fun regex memory =>
        eval setting flow fuel template (fun template memory =>
          let template := (memory.textOf template).toList
          eval setting flow fuel target (fun cell memory =>
            let (count, text) := replaceMatches all regex template (memory.textOf cell).toList
            if count = 0 then next (.number 0) memory
            else
              assign setting flow fuel target (.text (String.ofList text)) (fun _ memory =>
                next (.ofInt count) memory) memory) memory) memory) memory
    | _ => next .nothing memory

/-- Reads a record: one, zero at the end, or minus one if it cannot be read. -/
def reads (setting : Setting) (flow : Flow) :
    (fuel : Nat) → Origin → Option Expr → Option Expr → Next Cell → Memory → Course
  | 0, _, _, _, _, memory => flow.stop memory
  | fuel + 1, origin, source, target, next, memory =>
    let got (status : Int) (text : Option String) (memory : Memory) : Course :=
      match text, target with
      | none, _ => next (.ofInt status) memory
      | some text, none => next (.ofInt status) (memory.withRecord text)
      | some text, some target =>
        assign setting flow fuel target (.found text) (fun _ memory =>
          next (.ofInt status) memory) memory
    match origin, source with
    | .main, _ | _, none =>
      nextRecord setting (fun text memory => got (if text.isSome then 1 else 0) text memory)
        mostPulls memory
    | origin, some source =>
      eval setting flow fuel source (fun cell memory =>
        readsNamed setting (origin = .command) (memory.textOf cell) got memory) memory

/-- Carries out a statement. -/
def exec (setting : Setting) : (fuel : Nat) → Statement → Flow → Memory → Course
  | 0, _, flow, memory => flow.stop memory
  | fuel + 1, statement, flow, memory =>
    match statement with
    | .expression value => eval setting flow fuel value (fun _ memory => flow.done memory) memory
    | .print items target =>
      let text (cells : List Cell) (memory : Memory) : String :=
        let format := (memory.global "OFMT").toText "%.6g"
        let shown := if cells = [] then [memory.record] else cells.map (Cell.toText format)
        (memory.text "OFS").intercalate shown ++ memory.text "ORS"
      evalAll setting flow fuel items (fun cells memory =>
        prints setting flow fuel (text cells memory) target memory) memory
    | .printf items target =>
      evalAll setting flow fuel items (fun cells memory =>
        match printedBy "printf" memory cells with
        | .ok text => prints setting flow fuel text target memory
        | .error message => failsAt setting message memory) memory
    | .branch condition yes no =>
      eval setting flow fuel condition (fun cell memory =>
        if cell.holds then exec setting fuel yes flow memory
        else
          match no with
          | some no => exec setting fuel no flow memory
          | none => flow.done memory) memory
    | .loop condition body =>
      let again (memory : Memory) : Course :=
        .look fun _ => exec setting fuel (.loop condition body) flow memory
      eval setting flow fuel condition (fun cell memory =>
        if cell.holds then
          exec setting fuel body { flow with done := again, leave := flow.done, again } memory
        else flow.done memory) memory
    | .loopAfter body condition =>
      let check (memory : Memory) : Course :=
        eval setting flow fuel condition (fun cell memory =>
          if cell.holds then
            .look fun _ => exec setting fuel (.loopAfter body condition) flow memory
          else flow.done memory) memory
      exec setting fuel body { flow with done := check, leave := flow.done, again := check } memory
    | .count start condition step body =>
      match start with
      | some start =>
        exec setting fuel start
          { flow with done := exec setting fuel (.count none condition step body) flow } memory
      | none =>
        let again (memory : Memory) : Course :=
          .look fun _ => exec setting fuel (.count none condition step body) flow memory
        let steps (memory : Memory) : Course :=
          match step with
          | some step => exec setting fuel step { flow with done := again } memory
          | none => again memory
        let round : Flow := { flow with done := steps, leave := flow.done, again := steps }
        match condition with
        | some condition =>
          eval setting flow fuel condition (fun cell memory =>
            if cell.holds then exec setting fuel body round memory else flow.done memory) memory
        | none => exec setting fuel body round memory
    | .each name table body =>
      let (keys, memory) := memory.withTable table Table.keys
      execEach setting fuel name keys body flow memory
    | .block body => execAll setting fuel body flow memory
    | .next => flow.record false memory
    | .nextFile => flow.record true memory
    | .exit status =>
      match status with
      | some status =>
        eval setting flow fuel status (fun cell memory =>
          flow.stop { memory with status := (toInteger cell.toNumber % 256).toNat }) memory
      | none => flow.stop memory
    | .return_ value =>
      match value with
      | some value => eval setting flow fuel value flow.give memory
      | none => flow.give .nothing memory
    | .break_ => flow.leave memory
    | .continue_ => flow.again memory
    | .delete table keys =>
      match keys with
      | some keys =>
        evalKey setting flow fuel keys (fun key memory =>
          let ((), memory) := memory.withTable table fun table => ((), table.erase key)
          flow.done memory) memory
      | none =>
        let ((), memory) := memory.withTable table fun _ => ((), .empty)
        flow.done memory

/-- Prints where a statement says. -/
def prints (setting : Setting) (flow : Flow) :
    (fuel : Nat) → String → Option (Direction × Expr) → Memory → Course
  | 0, _, _, memory => flow.stop memory
  | fuel + 1, text, target, memory =>
    match target with
    | none => memory.printed text flow.done
    | some (direction, name) =>
      eval setting flow fuel name (fun cell memory =>
        printsTo setting direction (memory.textOf cell) text flow.done memory) memory

/-- Carries out statements one after the other. -/
def execAll (setting : Setting) : (fuel : Nat) → List Statement → Flow → Memory → Course
  | 0, _, flow, memory => flow.stop memory
  | _, [], flow, memory => flow.done memory
  | fuel + 1, first :: rest, flow, memory =>
    exec setting fuel first
      { flow with
        done := fun memory => .look fun _ => execAll setting fuel rest flow memory } memory

/-- Carries out a statement for every key. -/
def execEach (setting : Setting) :
    (fuel : Nat) → String → List String → Statement → Flow → Memory → Course
  | 0, _, _, _, flow, memory => flow.stop memory
  | _, _, [], _, flow, memory => flow.done memory
  | fuel + 1, name, key :: keys, body, flow, memory =>
    let again (memory : Memory) : Course :=
      .look fun _ => execEach setting fuel name keys body flow memory
    exec setting fuel body { flow with done := again, leave := flow.done, again }
      (memory.assign name (.text key))

end

end RenderSync.Shell.Records
