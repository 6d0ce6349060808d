import RenderSync.Shell.Utility.Records.Matching
import RenderSync.Shell.Utility.Records.Syntax

/-!
# Reading programs for records

Operators bind in ten levels, from `||` up to powers.  What can be given a value binds tighter than
all of them if an assignment follows it.  Where something is printed, `>` is no relation: it says
where to.
-/

namespace RenderSync.Shell.Records

/-- Reads tokens from a program. -/
abbrev Reading := StateT (List Lexeme) (Except String)

/-- What is to be known about the place where an expression stands. -/
structure Surroundings where
  /-- The functions that the program has. -/
  functions : List String
  /-- A greater sign says where to print. -/
  printing : Bool

/-! ## 1. Tokens -/

/-- The next token. -/
def nextToken? : Reading (Option Token) := do return (← get).head?.map (·.token)

/-- Goes on behind the next token. -/
def skipToken : Reading Unit := modify List.tail

/-- A complaint about the next token. -/
def faulty {α : Type} : Reading α := do
  match ← get with
  | ⟨token, line⟩ :: _ =>
    throw ("line " ++ decimal line ++ ": syntax error at or near " ++ token.shown)
  | [] => throw "line 2: missing \x7d near end of file"

/-- Whether the next token is a sign, which is then skipped. -/
def takesSign (sign : String) : Reading Bool := do
  if (← nextToken?) = some (.sign sign) then
    skipToken
    return true
  else return false

/-- The next token is a sign. -/
def demandSign (sign : String) : Reading Unit := do
  if !(← takesSign sign) then faulty

/-- Skips ends of lines. -/
def skipLines : Reading Unit := modify fun tokens => tokens.dropWhile (·.token = .newline)

/-- Skips what stands between statements. -/
def skipEnds : Reading Unit :=
  modify fun tokens => tokens.dropWhile fun lexeme =>
    lexeme.token = .newline || lexeme.token = .sign ";"

/-- The end of a statement. -/
def endStatement : Reading Unit := do
  match ← nextToken? with
  | some .newline | some (.sign ";") =>
    skipToken
  | some (.sign "\x7d") | none => return ()
  | _ => faulty

/-- A name. -/
def demandName : Reading String := do
  match ← nextToken? with
  | some (.name name) =>
    skipToken
    return name
  | _ => faulty

/-- Whether something can stand behind another thing that it is joined with. -/
def startsOperand : Token → Bool
  | .number _ | .text _ | .regex _ | .name _ | .callee _ | .builtin _ => true
  | .sign text => ["(", "$", "!", "++", "--"].contains text
  | _ => false

/-- The operator of an assignment; the inner `none` is that of a plain one. -/
def assignment? : Token → Option (Option Operator)
  | .sign "=" => some none
  | .sign "+=" => some (some .add)
  | .sign "-=" => some (some .subtract)
  | .sign "*=" => some (some .multiply)
  | .sign "/=" => some (some .divide)
  | .sign "%=" => some (some .remainder)
  | .sign "^=" => some (some .power)
  | _ => none

/-- The operator of a level between two operands: sums are on the seventh, products on the eighth
level. -/
def operator? (level : Nat) : Token → Option Operator
  | .sign "+" => if level = 7 then some .add else none
  | .sign "-" => if level = 7 then some .subtract else none
  | .sign "*" => if level = 8 then some .multiply else none
  | .sign "/" => if level = 8 then some .divide else none
  | .sign "%" => if level = 8 then some .remainder else none
  | _ => none

/-- The relation that a token means. -/
def relation? (printing : Bool) : Token → Option Relation
  | .sign "<" => some .less
  | .sign "<=" => some .lessEqual
  | .sign "==" => some .equal
  | .sign "!=" => some .unequal
  | .sign ">=" => some .greaterEqual
  | .sign ">" => if printing then none else some .greater
  | _ => none

/-- Something that can be given a value. -/
def Expr.isPlace : Expr → Bool
  | .name _ | .field _ | .element .. => true
  | _ => false

/-! ## 2. Expressions -/

mutual

/-- An expression; `fuel` bounds its depth. -/
def readExpr (near : Surroundings) : (fuel : Nat) → Reading Expr
  | 0 => faulty
  | fuel + 1 => do
    let condition ← readLevel near fuel 1
    if ← takesSign "?" then
      skipLines
      let yes ← readExpr near fuel
      skipLines
      demandSign ":"
      skipLines
      return .choose condition yes (← readExpr near fuel)
    else return condition

/-- An expression whose operators are of a level or above. -/
def readLevel (near : Surroundings) : (fuel : Nat) → (level : Nat) → Reading Expr
  | 0, _ => faulty
  | fuel + 1, level => do
    if level < 9 then
      let first ← readLevel near fuel (level + 1)
      readMore near fuel level first
    else
      match ← nextToken? with
      | some (.sign "!") =>
        skipToken
        return .not (← readLevel near fuel 9)
      | some (.sign "-") =>
        skipToken
        return .sign true (← readLevel near fuel 9)
      | some (.sign "+") =>
        skipToken
        return .sign false (← readLevel near fuel 9)
      | _ => readPower near fuel

/-- What follows an operand on a level. -/
def readMore (near : Surroundings) : (fuel : Nat) → (level : Nat) → Expr → Reading Expr
  | 0, _, _ => faulty
  | fuel + 1, level, left => do
    match ← nextToken? with
    | none => return left
    | some token =>
      match level with
      | 1 =>
        if token = .sign "||" then
          skipToken
          skipLines
          let right ← readLevel near fuel 2
          readMore near fuel level (.either left right)
        else return left
      | 2 =>
        if token = .sign "&&" then
          skipToken
          skipLines
          let right ← readLevel near fuel 3
          readMore near fuel level (.both left right)
        else return left
      | 3 =>
        if token = .keyword "in" then
          skipToken
          let table ← demandName
          readMore near fuel level (.contains [left] table)
        else return left
      | 4 =>
        if token = .sign "~" || token = .sign "!~" then
          skipToken
          let right ← readLevel near fuel 5
          readMore near fuel level (.fits (token = .sign "~") left right)
        else return left
      | 5 =>
        match relation? near.printing token with
        | some relation =>
          skipToken
          let right ← readLevel near fuel 6
          readMore near fuel level (.relate relation left right)
        | none => return left
      | 6 =>
        if startsOperand token then
          let right ← readLevel near fuel 7
          readMore near fuel level (.join left right)
        else return left
      | level =>
        match operator? level token with
        | some operator =>
          skipToken
          let right ← readLevel near fuel (level + 1)
          readMore near fuel level (.binary operator left right)
        | none => return left

/-- A power, or less; what it says may be a command whose records are read. -/
def readPower (near : Surroundings) : (fuel : Nat) → Reading Expr
  | 0 => faulty
  | fuel + 1 => do
    let base ← readCounted near fuel
    let value ← do
      if ← takesSign "^" then pure (Expr.binary .power base (← readLevel near fuel 9))
      else pure base
    readPiped near fuel value

/-- What reads the records of a command. -/
def readPiped (near : Surroundings) : (fuel : Nat) → Expr → Reading Expr
  | 0, _ => faulty
  | fuel + 1, command => do
    match ← get with
    | ⟨.sign "|", _⟩ :: ⟨.keyword "getline", _⟩ :: _ =>
      if near.printing then return command
      else
        skipToken
        skipToken
        let target ← readTarget? near fuel
        readPiped near fuel (.read .command (some command) target)
    | _ => return command

/-- The place that a record is read into, if there is one. -/
def readTarget? (near : Surroundings) : (fuel : Nat) → Reading (Option Expr)
  | 0 => faulty
  | fuel + 1 => do
    match ← nextToken? with
    | some (.name _) | some (.sign "$") => return some (← readPrimary near fuel)
    | _ => return none

/-- An operand that may count up or down, or be given a value. -/
def readCounted (near : Surroundings) : (fuel : Nat) → Reading Expr
  | 0 => faulty
  | fuel + 1 => do
    match ← nextToken? with
    | some (.sign "++") =>
      skipToken
      return .step true false (← readPrimary near fuel)
    | some (.sign "--") =>
      skipToken
      return .step false false (← readPrimary near fuel)
    | _ =>
      let operand ← readPrimary near fuel
      if !operand.isPlace then return operand
      else
        match ← nextToken? with
        | some (.sign "++") =>
          skipToken
          return .step true true operand
        | some (.sign "--") =>
          skipToken
          return .step false true operand
        | some token =>
          match assignment? token with
          | some operator =>
            skipToken
            skipLines
            return .assign operator operand (← readExpr near fuel)
          | none => return operand
        | none => return operand

/-- An operand. -/
def readPrimary (near : Surroundings) : (fuel : Nat) → Reading Expr
  | 0 => faulty
  | fuel + 1 => do
    let inner : Surroundings := { near with printing := false }
    match ← nextToken? with
    | some (.number bits) =>
      skipToken
      return .number bits
    | some (.text text) =>
      skipToken
      return .text text
    | some (.regex text) =>
      skipToken
      return .regex (expression text)
    | some (.name name) =>
      skipToken
      if ← takesSign "[" then
        let keys ← readList inner fuel
        demandSign "]"
        return .element name keys
      else if near.functions.contains name && (← nextToken?) = some (.sign "(") then
        return .call name (← readArguments inner fuel)
      else return .name name
    | some (.callee name) =>
      skipToken
      if near.functions.contains name then
        return .call name (← readArguments inner fuel)
      else throw ("line 2: function " ++ name ++ " never defined")
    | some (.builtin name) =>
      skipToken
      if (← nextToken?) = some (.sign "(") then
        return .builtin name (← readArguments inner fuel)
      else if name = "length" then return .builtin name []
      else faulty
    | some (.sign "$") =>
      skipToken
      match ← nextToken? with
      | some (.sign "++") | some (.sign "--") => return .field (← readCounted near fuel)
      | some (.sign "-") =>
        skipToken
        return .field (.sign true (← readPrimary near fuel))
      | _ => return .field (← readPrimary near fuel)
    | some (.sign "(") =>
      skipToken
      let items ← readList inner fuel
      demandSign ")"
      match items with
      | [item] => return .group item
      | items =>
        if (← nextToken?) = some (.keyword "in") then
          skipToken
          return .contains items (← demandName)
        else faulty
    | some (.keyword "getline") =>
      skipToken
      let target ← readTarget? near fuel
      if ← takesSign "<" then
        return .read .file (some (← readPrimary near fuel)) target
      else return .read .main none target
    | some (.sign "-") =>
      skipToken
      return .sign true (← readPrimary near fuel)
    | some (.sign "!") =>
      skipToken
      return .not (← readPrimary near fuel)
    | _ => faulty

/-- Arguments between brackets. -/
def readArguments (near : Surroundings) : (fuel : Nat) → Reading (List Expr)
  | 0 => faulty
  | fuel + 1 => do
    demandSign "("
    if ← takesSign ")" then return []
    else
      let items ← readList near fuel
      demandSign ")"
      return items

/-- Expressions with commas between them. -/
def readList (near : Surroundings) : (fuel : Nat) → Reading (List Expr)
  | 0 => faulty
  | fuel + 1 => do
    let first ← readExpr near fuel
    if ← takesSign "," then
      skipLines
      return first :: (← readList near fuel)
    else return [first]

end

/-! ## 3. Statements -/

/-- Where a statement prints. -/
def readDirection (near : Surroundings) (fuel : Nat) : Reading (Option (Direction × Expr)) := do
  let direction : Option Direction := match ← nextToken? with
    | some (.sign ">") => some .write
    | some (.sign ">>") => some .append
    | some (.sign "|") => some .command
    | _ => none
  match direction with
  | none => return none
  | some direction =>
    skipToken
    return some (direction, ← readExpr { near with printing := false } fuel)

/-- What a statement prints: items, which may all stand between brackets. -/
def readItems (near : Surroundings) (fuel : Nat) : Reading (List Expr) := do
  let plainly : Reading (List Expr) := do
    match ← nextToken? with
    | none | some .newline | some (.sign ";") | some (.sign "\x7d") | some (.sign ">")
    | some (.sign ">>") | some (.sign "|") => return []
    | _ => readList { near with printing := true } fuel
  let tokens ← get
  if (← nextToken?) = some (.sign "(") then
    match (readArguments { near with printing := false } fuel).run tokens with
    | .ok (items, rest) =>
      let isAll := match rest.head?.map (·.token) with
        | none | some .newline | some (.sign ";") | some (.sign "\x7d") | some (.sign ">")
        | some (.sign ">>") | some (.sign "|") => true
        | _ => false
      if isAll then
        set rest
        return items
      else plainly
    | .error _ => plainly
  else plainly

/-- A statement that is no more than a line. -/
def readSimple (near : Surroundings) (fuel : Nat) : Reading Statement := do
  match ← nextToken? with
  | some (.keyword "print") =>
    skipToken
    let items ← readItems near fuel
    return .print items (← readDirection near fuel)
  | some (.keyword "printf") =>
    skipToken
    let items ← readItems near fuel
    if items.isEmpty then faulty
    else return .printf items (← readDirection near fuel)
  | some (.keyword "delete") =>
    skipToken
    let table ← demandName
    if ← takesSign "[" then
      let keys ← readList near fuel
      demandSign "]"
      return .delete table (some keys)
    else return .delete table none
  | some (.keyword "next") =>
    skipToken
    return .next
  | some (.keyword "nextfile") =>
    skipToken
    return .nextFile
  | some (.keyword "break") =>
    skipToken
    return .break_
  | some (.keyword "continue") =>
    skipToken
    return .continue_
  | some (.keyword word) =>
    if word = "exit" || word = "return" then
      skipToken
      let value ← match ← nextToken? with
        | none | some .newline | some (.sign ";") | some (.sign "\x7d") => pure none
        | _ => do pure (some (← readExpr near fuel))
      return if word = "exit" then .exit value else .return_ value
    else return .expression (← readExpr near fuel)
  | _ => return .expression (← readExpr near fuel)

mutual

/-- A statement; `fuel` bounds its depth. -/
def readStatement (near : Surroundings) : (fuel : Nat) → Reading Statement
  | 0 => faulty
  | fuel + 1 => do
    match ← nextToken? with
    | some (.sign "\x7b") =>
      skipToken
      return .block (← readBlock near fuel)
    | some (.sign ";") =>
      skipToken
      return .block []
    | some (.keyword "if") =>
      skipToken
      let condition ← readCondition near fuel
      let yes ← readBody near fuel
      let tokens ← get
      skipEnds
      if (← nextToken?) = some (.keyword "else") then
        skipToken
        return .branch condition yes (some (← readBody near fuel))
      else
        set tokens
        return .branch condition yes none
    | some (.keyword "while") =>
      skipToken
      let condition ← readCondition near fuel
      return .loop condition (← readBody near fuel)
    | some (.keyword "do") =>
      skipToken
      let body ← readBody near fuel
      skipEnds
      if (← nextToken?) = some (.keyword "while") then
        skipToken
        let condition ← readCondition near fuel
        endStatement
        return .loopAfter body condition
      else faulty
    | some (.keyword "for") =>
      skipToken
      demandSign "("
      match ← get with
      | ⟨.name name, _⟩ :: ⟨.keyword "in", _⟩ :: ⟨.name table, _⟩ :: ⟨.sign ")", _⟩ :: rest =>
        set rest
        return .each name table (← readBody near fuel)
      | _ =>
        let part (ending : String) : Reading (Option Statement) := do
          if (← nextToken?) = some (.sign ending) then return none
          else return some (← readSimple near fuel)
        let start ← part ";"
        demandSign ";"
        skipLines
        let condition ← do
          if (← nextToken?) = some (.sign ";") then pure none
          else pure (some (← readExpr near fuel))
        demandSign ";"
        skipLines
        let step ← part ")"
        demandSign ")"
        return .count start condition step (← readBody near fuel)
    | _ =>
      let statement ← readSimple near fuel
      endStatement
      return statement

/-- A condition between brackets. -/
def readCondition (near : Surroundings) : (fuel : Nat) → Reading Expr
  | 0 => faulty
  | fuel + 1 => do
    demandSign "("
    let condition ← readExpr near fuel
    demandSign ")"
    return condition

/-- The statement that belongs to another one. -/
def readBody (near : Surroundings) : (fuel : Nat) → Reading Statement
  | 0 => faulty
  | fuel + 1 => do
    skipLines
    readStatement near fuel

/-- Statements up to a closing brace. -/
def readBlock (near : Surroundings) : (fuel : Nat) → Reading (List Statement)
  | 0 => faulty
  | fuel + 1 => do
    skipEnds
    if ← takesSign "\x7d" then return []
    else
      let first ← readStatement near fuel
      return first :: (← readBlock near fuel)

end

/-! ## 4. Rules -/

/-- Names between brackets. -/
def readParameters : (fuel : Nat) → Reading (List String)
  | 0 => faulty
  | fuel + 1 => do
    if ← takesSign ")" then return []
    else
      let name ← demandName
      if ← takesSign "," then
        skipLines
        return name :: (← readParameters fuel)
      else
        demandSign ")"
        return [name]

/-- Statements between braces. -/
def readAction (near : Surroundings) (fuel : Nat) : Reading (List Statement) := do
  demandSign "\x7b"
  readBlock near fuel

/-- The rules and functions of a program. -/
def readRules (near : Surroundings) : (fuel : Nat) → Program → Reading Program
  | 0, _ => faulty
  | fuel + 1, program => do
    skipEnds
    let add (scope : Scope) (action : Option (List Statement)) : Reading Program :=
      readRules near fuel { program with rules := program.rules ++ [⟨scope, action⟩] }
    match ← nextToken? with
    | none => return program
    | some (.keyword "BEGIN") =>
      skipToken
      add .start (some (← readAction near fuel))
    | some (.keyword "END") =>
      skipToken
      add .finish (some (← readAction near fuel))
    | some (.keyword "function") | some (.keyword "func") =>
      skipToken
      match ← nextToken? with
      | some (.name name) | some (.callee name) =>
        skipToken
        demandSign "("
        let parameters ← readParameters fuel
        skipLines
        let body ← readAction near fuel
        readRules near fuel
          { program with functions := program.functions ++ [⟨name, parameters, body⟩] }
      | _ => faulty
    | some (.sign "\x7b") => add .every (some (← readAction near fuel))
    | _ =>
      let condition ← readExpr near fuel
      let scope ← do
        if ← takesSign "," then
          skipLines
          pure (Scope.between condition (← readExpr near fuel))
        else pure (Scope.when condition)
      if (← nextToken?) = some (.sign "\x7b") then add scope (some (← readAction near fuel))
      else
        endStatement
        add scope none

/-- The names of the functions among some tokens. -/
def functionNames : List Lexeme → List String
  | ⟨.keyword word, _⟩ :: ⟨.name name, line⟩ :: rest
  | ⟨.keyword word, _⟩ :: ⟨.callee name, line⟩ :: rest =>
    if word = "function" || word = "func" then name :: functionNames rest
    else functionNames (⟨.name name, line⟩ :: rest)
  | _ :: rest => functionNames rest
  | [] => []
termination_by tokens => tokens.length

/-- The program that a text is, or what is wrong with it. -/
def Program.ofText (text : String) : Except String Program := do
  let lexemes ← tokens (text.length + 1) 1 none text.toList
  let (program, _) ← (readRules ⟨functionNames lexemes, false⟩ (30 * lexemes.length + 100)
    ⟨[], []⟩).run lexemes
  return program

end RenderSync.Shell.Records
