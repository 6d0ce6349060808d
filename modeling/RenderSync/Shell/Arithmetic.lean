import RenderSync.Shell.Reader

/-!
# Sums of the shell

Whole numbers of sixty-four bits that wrap around, with the operators of C and with assignments.  A
sum is read into an `Expression` and then worked out; what is not needed, because the outcome is
known or another branch was taken, is not worked out.

A `rich` shell also counts up and down, knows powers, sums side by side, numbers of any base, and
elements of variables.
-/

namespace RenderSync.Shell

/-! ## 1. Numbers -/

/-- The number of sixty-four bits with a sign that a whole number wraps around to. -/
def wrap (n : Int) : Int :=
  let half : Int := Nat.pow 2 63
  (n + half) % (2 * half) - half

/-- The closest number of sixty-four bits. -/
def clamp (n : Int) : Int :=
  let half : Int := Nat.pow 2 63
  max (-half) (min n (half - 1))

/-- An unsigned number in front of a text, in the notation of C, and what follows. -/
def prefixNat (text : List Char) : Option (Nat × List Char) :=
  let ofBase (base : Nat) (text : List Char) : Option (Nat × List Char) :=
    let (digits, rest) := text.span (isDigitOf base)
    (Digits.toNat? base digits).map (·, rest)
  match text with
  | '0' :: 'x' :: c :: rest | '0' :: 'X' :: c :: rest =>
    if isDigitOf 16 c then ofBase 16 (c :: rest) else some (0, text.drop 1)
  | '0' :: _ => ofBase 8 text
  | _ => ofBase 10 text

/-- A blank of C. -/
def isSpace (c : Char) : Bool := c = ' ' || ('\t' ≤ c && c ≤ '\r')

/-- A number in front of a text, with blanks and a sign before it; `base` is ten or, if the number
may say so itself, anything. -/
def prefixInt (anyBase : Bool) (text : List Char) : Option (Int × List Char) :=
  let text := text.dropWhile isSpace
  let (negative, digits) := match text with
    | '-' :: rest => (true, rest)
    | '+' :: rest => (false, rest)
    | _ => (false, text)
  let found :=
    if anyBase then prefixNat digits
    else
      let (run, rest) := digits.span Digits.isDecimal
      (Digits.toNat? 10 run).map (·, rest)
  found.map fun (n, rest) => (if negative then -(n : Int) else n, rest)

/-- A text that is a number, blanks around it apart. -/
def integer? (anyBase : Bool) (text : List Char) : Option Int :=
  (prefixInt anyBase text).bind fun (n, rest) =>
    if rest.all isSpace then some n else none

/-! ## 2. Expressions -/

/-- An operator between two numbers. -/
inductive Operation where
  | power
  | multiply | divide | remainder
  | add | subtract
  | shiftLeft | shiftRight
  | less | lessEqual | greater | greaterEqual
  | equal | unequal
  | and | xor | or
deriving DecidableEq, Repr

/-- What is to be worked out. -/
inductive Expression where
  | number (n : Int)
  | name (text : String)
  | negative (inner : Expression)
  | complement (inner : Expression)
  | isZero (inner : Expression)
  | binary (operation : Operation) (left right : Expression)
  | all (left right : Expression)
  | any (left right : Expression)
  | choose (condition yes no : Expression)
  /-- The element of a number. -/
  | element (name : String) (index : Expression)
  /-- Gives a name or an element a value, perhaps made from the one that it has. -/
  | assign (target : Expression) (operation : Option Operation) (value : Expression)
  /-- Counts up or down, and stands for the number before that or behind it. -/
  | step (target : Expression) (by_ : Int) (before : Bool)
  | sequence (first second : Expression)
deriving Inhabited

/-- A part of the text of a sum. -/
inductive Symbol where
  | number (n : Int)
  | name (text : String)
  | element (name : String) (index : List Symbol)
  | sign (text : String)
  /-- A character that fits nowhere. -/
  | stray (c : Char)
deriving Inhabited

/-- How sums are read. -/
structure SumManner where
  rich : Bool
  /-- The elements of this variable have keys. -/
  isTable : String → Bool

/-- The signs, longer ones first. -/
def signs : List String :=
  ["<<=", ">>=", "&&", "||", "<<", ">>", "<=", ">=", "==", "!=", "&=", "|=", "^=", "+=", "-=",
    "*=", "/=", "%=", "&", "|", "^", "<", ">", "=", "!", "~", "+", "-", "*", "/", "%", "(", ")",
    "?", ":"]

/-- The digit of a large base that a character is. -/
def digitOfAny (base : Nat) (c : Char) : Option Nat :=
  let value : Option Nat :=
    if Digits.isDecimal c then some (c.toNat - 48)
    else if 'a' ≤ c && c ≤ 'z' then some (c.toNat - 87)
    else if 'A' ≤ c && c ≤ 'Z' then some (if base ≤ 36 then c.toNat - 55 else c.toNat - 29)
    else if c = '@' then some 62
    else if c = '_' then some 63
    else none
  value.filter (· < base)

/-- A number with its base in front, and what follows. -/
def basedNat (base : Nat) (text : List Char) : Nat × List Char :=
  let (digits, rest) := text.span fun c => (digitOfAny base c).isSome
  (digits.foldl (fun n c => n * base + (digitOfAny base c).getD 0) 0, rest)

/-- The sign in front of a text.  Two signs that count are one if a variable stands in front of
them, as `counts` says, or behind. -/
def signIn (manner : SumManner) (counts : Bool) (text : List Char) : Option String :=
  let begins (sign : String) : Bool := sign.toList.isPrefixOf text
  let twice (sign : String) : Bool :=
    begins sign && (counts || ((text.drop 2).dropWhile (· = ' ')).head?.any startsName)
  if manner.rich && twice "++" then some "++"
  else if manner.rich && twice "--" then some "--"
  else if manner.rich && begins "**" then some "**"
  else if manner.rich && begins "," then some ","
  else signs.find? begins

/-- The symbols of a text; `counts` says that a variable stands in front of it. -/
def symbolsFuel (manner : SumManner) : (fuel : Nat) → (counts : Bool) → List Char → List Symbol
  | 0, _, _ | _, _, [] => []
  | fuel + 1, counts, c :: rest =>
    if c = ' ' || c = '\t' || c = '\n' then symbolsFuel manner fuel counts rest
    else if startsName c then
      let (name, rest) := (c :: rest).span isNameChar
      let name := String.ofList name
      match if manner.rich then rest else [], rest with
      | '[' :: inner, _ =>
        match upToBracket 0 inner with
        | some (index, rest) =>
          (if manner.isTable name then .name (name ++ "[" ++ String.ofList index ++ "]")
            else .element name (symbolsFuel manner fuel false index)) ::
            symbolsFuel manner fuel true rest
        | none => .name name :: .stray '[' :: symbolsFuel manner fuel false inner
      | _, rest => .name name :: symbolsFuel manner fuel true rest
    else
      match prefixNat (c :: rest) with
      | some (n, rest) =>
        match if manner.rich then rest else [], rest with
        | '#' :: digits, _ =>
          let (n, rest) := basedNat n digits
          .number (wrap n) :: symbolsFuel manner fuel false rest
        | _, rest =>
          .number (if manner.rich then wrap n else clamp n) :: symbolsFuel manner fuel false rest
      | none =>
        match signIn manner counts (c :: rest) with
        | some sign =>
          .sign sign :: symbolsFuel manner fuel false ((c :: rest).drop sign.length)
        | none => .stray c :: symbolsFuel manner fuel false rest

/-- The operator of a sign, and how loosely it binds. -/
def operation? : Symbol → Option (Operation × Nat)
  | .sign text =>
    match text with
    | "*" => some (.multiply, 0)
    | "/" => some (.divide, 0)
    | "%" => some (.remainder, 0)
    | "+" => some (.add, 1)
    | "-" => some (.subtract, 1)
    | "<<" => some (.shiftLeft, 2)
    | ">>" => some (.shiftRight, 2)
    | "<" => some (.less, 3)
    | "<=" => some (.lessEqual, 3)
    | ">" => some (.greater, 3)
    | ">=" => some (.greaterEqual, 3)
    | "==" => some (.equal, 4)
    | "!=" => some (.unequal, 4)
    | "&" => some (.and, 5)
    | "^" => some (.xor, 6)
    | "|" => some (.or, 7)
    | _ => none
  | _ => none

/-- The loosest of the operators. -/
def loosest : Nat := 7

/-- The operator of a sign that assigns, `some none` for the plain one. -/
def assignment? : Symbol → Option (Option Operation)
  | .sign "=" => some none
  | .sign text =>
    match text.toList.reverse with
    | '=' :: front =>
      if text.length = 1 then none
      else ((operation? (.sign (String.ofList front.reverse))).filter fun found =>
        found.2 ≠ 3 ∧ found.2 ≠ 4).map fun found => some found.1
    | _ => none
  | _ => none

/-- A level of the grammar, loose ones first. -/
inductive Level where
  | sequence
  | assignment
  | conditional
  | any
  | all
  | operators (bound : Nat)
  | power
  | primary

mutual

/-- What stands on a level; a complaint if it does not fit. -/
def readLevel : (fuel : Nat) → Level → List Symbol → Except String (Expression × List Symbol)
  | 0, _, _ => throw "expecting primary"
  | fuel + 1, .sequence, symbols => do
    let (first, rest) ← readLevel fuel .assignment symbols
    match rest with
    | .sign "," :: rest =>
      let (second, rest) ← readLevel fuel .sequence rest
      return (.sequence first second, rest)
    | _ => return (first, rest)
  | fuel + 1, .assignment, symbols => do
    match symbols with
    | target :: sign :: rest =>
      match ← readTarget fuel target, assignment? sign with
      | some target, some operation =>
        let (value, rest) ← readLevel fuel .assignment rest
        return (.assign target operation value, rest)
      | _, _ => readLevel fuel .conditional symbols
    | _ => readLevel fuel .conditional symbols
  | fuel + 1, .conditional, symbols => do
    let (condition, rest) ← readLevel fuel .any symbols
    match rest with
    | .sign "?" :: rest =>
      let (yes, rest) ← readLevel fuel .assignment rest
      match rest with
      | .sign ":" :: rest =>
        let (no, rest) ← readLevel fuel .conditional rest
        return (.choose condition yes no, rest)
      | _ => throw "expecting ':'"
    | _ => return (condition, rest)
  | fuel + 1, .any, symbols => do
    let (left, rest) ← readLevel fuel .all symbols
    match rest with
    | .sign "||" :: rest =>
      let (right, rest) ← readLevel fuel .any rest
      return (.any left right, rest)
    | _ => return (left, rest)
  | fuel + 1, .all, symbols => do
    let (left, rest) ← readLevel fuel (.operators loosest) symbols
    match rest with
    | .sign "&&" :: rest =>
      let (right, rest) ← readLevel fuel .all rest
      return (.all left right, rest)
    | _ => return (left, rest)
  | fuel + 1, .operators bound, symbols => do
    let (left, rest) ← readLevel fuel .power symbols
    readChain fuel bound left rest
  | fuel + 1, .power, symbols => do
    let (left, rest) ← readLevel fuel .primary symbols
    match rest with
    | .sign "**" :: rest =>
      let (right, rest) ← readLevel fuel .power rest
      return (.binary .power left right, rest)
    | _ => return (left, rest)
  | fuel + 1, .primary, symbols =>
    let steps (by_ : Int) (rest : List Symbol) : Except String (Expression × List Symbol) := do
      let (target, rest) ← readLevel fuel .primary rest
      return (.step target by_ false, rest)
    match symbols with
    | .number n :: rest => return (.number n, rest)
    | .name _ :: _ | .element .. :: _ => do
      match ← readTarget fuel (symbols.headD (.stray ' ')), symbols.tail with
      | some target, .sign "++" :: rest => return (.step target 1 true, rest)
      | some target, .sign "--" :: rest => return (.step target (-1) true, rest)
      | some target, rest => return (target, rest)
      | none, _ => throw "expecting primary"
    | .sign "++" :: rest => steps 1 rest
    | .sign "--" :: rest => steps (-1) rest
    | .sign "(" :: rest => do
      let (inner, rest) ← readLevel fuel .sequence rest
      match rest with
      | .sign ")" :: rest => return (inner, rest)
      | _ => throw "expecting ')'"
    | .sign "+" :: rest => readLevel fuel .primary rest
    | .sign "-" :: rest => do
      let (inner, rest) ← readLevel fuel .primary rest
      return (.negative inner, rest)
    | .sign "~" :: rest => do
      let (inner, rest) ← readLevel fuel .primary rest
      return (.complement inner, rest)
    | .sign "!" :: rest => do
      let (inner, rest) ← readLevel fuel .primary rest
      return (.isZero inner, rest)
    | _ => throw "expecting primary"

/-- A name or an element, if that is what stands here. -/
def readTarget : (fuel : Nat) → Symbol → Except String (Option Expression)
  | 0, _ => return none
  | fuel + 1, symbol =>
    match symbol with
    | .name name => return some (.name name)
    | .element name index => do
      let (index, rest) ← readLevel fuel .sequence index
      if rest.isEmpty then return some (.element name index) else throw "expecting EOF"
    | _ => return none

/-- Operators that bind no looser than `bound`, from left to right. -/
def readChain : (fuel : Nat) → (bound : Nat) → Expression → List Symbol →
    Except String (Expression × List Symbol)
  | 0, _, _, _ => throw "expecting primary"
  | fuel + 1, bound, left, symbols =>
    match symbols with
    | sign :: rest =>
      match operation? sign with
      | some (operation, level) =>
        if bound < level then return (left, symbols)
        else do
          let (first, rest) ← readLevel fuel .power rest
          let (right, rest) ←
            if level = 0 then pure (first, rest) else readChain fuel (level - 1) first rest
          readChain fuel bound (.binary operation left right) rest
      | none => return (left, symbols)
    | [] => return (left, symbols)

end

/-- How many symbols there are, those inside of others counted. -/
def Symbol.count : Symbol → Nat
  | element _ index => countAll index + 1
  | _ => 1
where
  /-- How many there are among some. -/
  countAll : List Symbol → Nat
    | [] => 0
    | symbol :: rest => symbol.count + countAll rest

/-- The expression that a text says. -/
def readExpression (manner : SumManner) (text : List Char) : Except String Expression := do
  let symbols := symbolsFuel manner (text.length + 1) false text
  let level : Level := if manner.rich then .sequence else .assignment
  let (expression, rest) ← readLevel (16 * Symbol.count.countAll symbols + 16) level symbols
  if rest.isEmpty then return expression else throw "expecting EOF"

/-! ## 3. Values -/

/-- The number for a condition. -/
def ofBool (holds : Bool) : Int := if holds then 1 else 0

/-- The bits of a number. -/
def bits (n : Int) : Nat := (n % (2 * (Nat.pow 2 63 : Nat))).toNat

/-- A power, by halves. -/
def powerOf (a : Int) (n : Nat) : Int :=
  if n = 0 then 1
  else
    let half := powerOf a (n / 2)
    let square := wrap (half * half)
    if n % 2 = 0 then square else wrap (square * a)
termination_by n
decreasing_by omega

/-- What an operator gives. -/
def Operation.apply (operation : Operation) (a b : Int) : Except String Int :=
  match operation with
  | power => if b < 0 then throw "exponent less than 0" else return powerOf a b.toNat
  | multiply => return wrap (a * b)
  | divide => if b = 0 then throw "division by zero" else return wrap (a.tdiv b)
  | remainder => if b = 0 then throw "division by zero" else return wrap (a.tmod b)
  | add => return wrap (a + b)
  | subtract => return wrap (a - b)
  | shiftLeft => return wrap (a * (Nat.pow 2 (bits b % 64) : Nat))
  | shiftRight => return a.fdiv (Nat.pow 2 (bits b % 64) : Nat)
  | less => return ofBool (a < b)
  | lessEqual => return ofBool (a ≤ b)
  | greater => return ofBool (b < a)
  | greaterEqual => return ofBool (b ≤ a)
  | equal => return ofBool (a = b)
  | unequal => return ofBool (a ≠ b)
  | and => return wrap (bits a &&& bits b : Nat)
  | xor => return wrap (bits a ^^^ bits b : Nat)
  | or => return wrap (bits a ||| bits b : Nat)

/-- Names that were given a value, the latest first. -/
abbrev Assigned := List (String × Int)

/-- The value of an expression, where names that it gives no value to have one of their own. -/
def Expression.evaluate (value : String → Except String Int) :
    Expression → StateT Assigned (Except String) Int
  | number n => return n
  | name text => current text
  | element text index => do current (← elementName text (← evaluate value index))
  | negative inner => do return wrap (-(← evaluate value inner))
  | complement inner => do return wrap (-(← evaluate value inner) - 1)
  | isZero inner => do return ofBool ((← evaluate value inner) = 0)
  | binary operation left right => do
    operation.apply (← evaluate value left) (← evaluate value right)
  | all left right => do
    if (← evaluate value left) = 0 then return 0
    else return ofBool ((← evaluate value right) ≠ 0)
  | any left right => do
    if (← evaluate value left) ≠ 0 then return 1
    else return ofBool ((← evaluate value right) ≠ 0)
  | choose condition yes no => do
    if (← evaluate value condition) ≠ 0 then evaluate value yes else evaluate value no
  | sequence first second => do
    let _ ← evaluate value first
    evaluate value second
  | assign (.name text) operation inner => do change text operation (← evaluate value inner)
  | assign (.element text index) operation inner => do
    let text ← elementName text (← evaluate value index)
    change text operation (← evaluate value inner)
  | assign _ _ _ => throw "attempted assignment to non-variable"
  | step (.name text) by_ before => do stepped text by_ before
  | step (.element text index) by_ before => do
    stepped (← elementName text (← evaluate value index)) by_ before
  -- Two signs in front of what is no variable are two signs.
  | step inner _ _ =>
    evaluate value inner
where
  /-- The number that a name has now. -/
  current (text : String) : StateT Assigned (Except String) Int := do
    match (← get).lookup text with
    | some n => return n
    | none => value text
  /-- The name of the element of a number. -/
  elementName (text : String) (n : Int) : StateT Assigned (Except String) String :=
    return text ++ "[" ++ String.ofList (Digits.ofInt n) ++ "]"
  /-- Gives a name a value. -/
  change (text : String) (operation : Option Operation) (n : Int) :
      StateT Assigned (Except String) Int := do
    let n ← match operation with
      | none => pure n
      | some operation => operation.apply (← current text) n
    modify ((text, n) :: ·)
    return n
  /-- Counts a name up or down. -/
  stepped (text : String) (by_ : Int) (before : Bool) : StateT Assigned (Except String) Int := do
    let old ← current text
    modify ((text, wrap (old + by_)) :: ·)
    return if before then old else wrap (old + by_)

/-- Works out a text; the complaint says what is wrong with it. -/
def workOut (manner : SumManner) (value : String → Except String Int) (text : List Char) :
    Except String (Int × Assigned) :=
  let complain (problem : String) : String :=
    if manner.rich then String.ofList text ++ ": " ++ problem
    else "arithmetic expression: " ++ problem ++ ": \"" ++ String.ofList text ++ "\""
  match readExpression manner text with
  | .error problem => .error (complain problem)
  | .ok expression =>
    match (expression.evaluate value).run [] with
    | .ok found => .ok found
    | .error problem =>
      .error (if problem = "division by zero" then complain problem else problem)

end RenderSync.Shell
