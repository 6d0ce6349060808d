import RenderSync.Shell.Braces
import RenderSync.Shell.Token

/-!
# Reading scripts

A script is read one command line at a time: what stands on later lines is not looked at before
the first line has been run.  Words and statements are read by one set of functions, because a
word may hold a script between `$(` and `)`.

All readers have fuel, and `readLine` gives enough: each call passes over a character or belongs to
one that does.  What only a rich shell reads is asked for with `isRich`.
-/

namespace RenderSync.Shell

/-- Operators between two words of a condition. -/
def checkOperators : List String :=
  ["=", "==", "!=", "=~", "-eq", "-ne", "-lt", "-le", "-gt", "-ge", "-nt", "-ot", "-ef"]

/-- Operators in front of a word of a condition. -/
def checkSigns : List String :=
  ["-a", "-b", "-c", "-d", "-e", "-f", "-g", "-h", "-k", "-n", "-o", "-p", "-r", "-s", "-t", "-u",
    "-v", "-w", "-x", "-z", "-G", "-L", "-N", "-O", "-R", "-S"]

/-- A script that only reads a file stands for what is in the file. -/
def readsFile : List Statement → List Statement
  | [.simple line [] [] [.mk 0 .read target]] =>
    [.simple line [] [[.literal "cat".toList false]] [.mk 0 .read target]]
  | script => script

/-- The complaints of the stage of a pipeline go where its output goes. -/
def withComplaints : Statement → Statement
  | .simple line assignments words redirects =>
    .simple line assignments words (redirects ++ [.mk 2 .duplicate [.literal ['1'] false]])
  | stage => .redirected 0 stage [.mk 2 .duplicate [.literal ['1'] false]]

/-- A name that a function of a rich shell may have. -/
def isFunctionName (text : String) : Bool :=
  text ≠ "" && text.toList.all fun c => !"$\"'\x60<>;&|()\\".toList.contains c

/-- A text cut at its semicolons. -/
def cutSums : List Char → List (List Char)
  | [] => [[]]
  | c :: rest =>
    match cutSums rest with
    | part :: others => if c = ';' then [] :: part :: others else (c :: part) :: others
    | [] => [[c]]

mutual

/-- The fragments up to `close`, which is passed over unless it ends a word. -/
def fragments (close : Close) (quoted : Bool) : (fuel : Nat) → Reader Word
  | 0 => complain "Unterminated quoted string"
  | fuel + 1 => do
    match ← peek with
    | none =>
      match close with
      | .word | .document | .whole | .expression _ => return []
      | .quote | .group => complain "Unterminated quoted string"
      | .brace => complain "Missing '\x7d'"
      | .sum _ => complain "Missing '))'"
    | some c =>
      let goOn (piece : Word) : Reader Word := do
        return piece ++ (← fragments close quoted fuel)
      let rich ← isRich
      let next := ((← get).rest.drop 1).head?
      if rich && close = .word && (c = '<' || c = '>') && next = some '(' then
        skip
        goOn [.conduit (c = '>') (← enclosed fuel)]
      else if close = .word && endsWord c then return []
      else if rich && close = .word && !quoted && (← get).manner.groups &&
          "?*+@!".toList.contains c && next = some '(' then
        skip
        skip
        let inner ← fragments .group false fuel
        goOn (.literal [c, '('] false :: inner ++ [.literal [')'] false])
      else if c = '\\' then
        skip
        match (← get).rest.head? with
        | none => goOn [.literal ['\\'] true]
        | some d =>
          skip
          goOn [.literal (if quoted && !isProtected close d then ['\\', d] else [d]) true]
      else if c = '\'' && !quoted then
        skip
        let (text, rest) := (← get).rest.span (· ≠ '\'')
        if rest = [] then complain "Unterminated quoted string"
        else
          modify fun s => { s with rest := rest.drop 1, line := s.line + text.count '\n' }
          goOn [.literal text true]
      else if c = '"' && close ≠ .document then
        skip
        match close with
        | .quote => return []
        | .sum _ => fragments close quoted fuel
        | _ => goOn (markQuoted rich (← fragments .quote true fuel))
      else if c = '$' then
        skip
        if rich && !quoted && next = some '\'' then
          skip
          let s ← get
          match Format.quotedFuel (s.rest.length + 1) s.rest with
          | some (text, rest) =>
            let used := s.rest.take (s.rest.length - rest.length)
            set { s with rest, line := s.line + used.count '\n' }
            goOn [.literal (text.takeWhile (· ≠ '\x00')) true]
          | none => complain "Unterminated quoted string"
        else if rich && !quoted && next = some '"' then goOn []
        else goOn [← dollar quoted fuel]
      else if c = '\x60' then
        skip
        match oldScript quoted (← get).rest with
        | none => complain "EOF in backquote substitution"
        | some (text, rest) =>
          let script ← within text (statements .any fuel)
          modify fun s => { s with rest }
          goOn [.command script quoted]
      else
        skip
        match close, c with
        | .brace, '\x7d' => return []
        | .sum depth, '(' =>
          return .literal [c] true :: (← fragments (.sum (depth + 1)) quoted fuel)
        | .sum (depth + 1), ')' =>
          return .literal [c] true :: (← fragments (.sum depth) quoted fuel)
        | .sum 0, ')' => if ← accept ')' then return [] else goOn [.literal [c] true]
        | .group, ')' => return []
        | .group, '(' =>
          let inner ← fragments .group quoted fuel
          goOn (.literal [c] quoted :: inner ++ [.literal [')'] quoted])
        | .expression depth, c =>
          if c = '(' then
            return .literal [c] false :: (← fragments (.expression (depth + 1)) quoted fuel)
          else if depth = 0 && (c = ' ' || c = '\t' || c = '\n' || c = ')') then
            modify fun s => { s with rest := c :: s.rest }
            return []
          else if c = ')' then
            return .literal [c] false :: (← fragments (.expression (depth - 1)) quoted fuel)
          else goOn [.literal [c] quoted]
        | _, _ => goOn [.literal [c] quoted]

/-- A script between brackets, of which the first comes next. -/
def enclosed : (fuel : Nat) → Reader (List Statement)
  | 0 => complain "end of file unexpected"
  | fuel + 1 => do
    skip
    let outer ← get
    set { outer with awaited := [], putBack := none }
    let script ← statements .any fuel
    let token ← nextToken fuel
    if !token.isOperator ")" then unexpectedFor token "\")\""
    modify fun s => { s with awaited := outer.awaited, putBack := none }
    return if (← isRich) then readsFile script else script

/-- What follows a dollar sign; a dollar sign alone is text. -/
def dollar (quoted : Bool) : (fuel : Nat) → Reader Fragment
  | 0 => complain "Bad substitution"
  | fuel + 1 => do
    match ← peek with
    | some '(' =>
      let source ← get
      let sum : Bool := match source.rest with
        | _ :: '(' :: rest => !source.manner.isRich || (upToBrackets 0 rest).isSome
        | _ => false
      if sum then
        skip
        skip
        return .arithmetic (joined (← fragments (.sum 0) true fuel)) quoted
      else return .command (← enclosed fuel) quoted
    | some '\x7b' =>
      skip
      braces quoted fuel
    | some c =>
      if startsName c then
        return .parameter (String.ofList (← takeWhile isNameChar fuel)) .value quoted
      else if Digits.isDecimal c || isSpecialParameter c then
        skip
        return .parameter c.toString .value quoted
      else return .literal ['$'] quoted
    | none => return .literal ['$'] quoted

/-- A parameter behind `$` and an opening brace. -/
def braces (quoted : Bool) : (fuel : Nat) → Reader Fragment
  | 0 => complain "Bad substitution"
  | fuel + 1 => do
    let bad : Reader Fragment := do
      let _ ← fragments .brace quoted fuel
      return .parameter "" .bad quoted
    let ofLength (name : List Char) : Reader Fragment := do
      if ← accept '\x7d' then return .parameter (String.ofList name) .length quoted else bad
    let rich ← isRich
    match ← peek with
    | none => complain "Missing '\x7d'"
    | some c =>
      if startsName c then
        let name := String.ofList (← takeWhile isNameChar fuel)
        if rich && (← peek) = some '[' then elementUse quoted name fuel
        else use quoted name fuel
      else if rich && c = '!' && (((← get).rest.drop 1).head?.any fun d =>
          isNameChar d || d = '@' || d = '*' || d = '#') then
        skip
        named quoted fuel
      else if Digits.isDecimal c then
        use quoted (String.ofList (← takeWhile Digits.isDecimal fuel)) fuel
      else if c = '#' then
        skip
        match ← peek with
        | none => complain "Missing '\x7d'"
        | some d =>
          if startsName d then
            let name ← takeWhile isNameChar fuel
            if rich && (← peek) = some '[' then
              let index ← subscript fuel
              if ← accept '\x7d' then
                return .element (String.ofList name) index .length quoted
              else bad
            else ofLength name
          else if Digits.isDecimal d then ofLength (← takeWhile Digits.isDecimal fuel)
          else
            let source ← get
            let after := (joinLines (source.rest.drop 1)).1
            if isSpecialParameter d && after.head? = some '\x7d' then
              skip
              ofLength [d]
            else use quoted "#" fuel
      else if isSpecialParameter c then
        skip
        use quoted c.toString fuel
      else bad

/-- An index, of which the bracket comes next. -/
def subscript : (fuel : Nat) → Reader Word
  | 0 => complain "Bad substitution"
  | fuel + 1 => do
    skip
    let source ← get
    match upToBracket 0 source.rest with
    | none => complain "Bad substitution"
    | some (text, rest) =>
      let index ← within text (fragments .whole false fuel)
      modify fun s => { s with rest }
      return joined index

/-- An element of a variable, of whose index the bracket comes next, up to the closing brace. -/
def elementUse (quoted : Bool) (name : String) : (fuel : Nat) → Reader Fragment
  | 0 => complain "Bad substitution"
  | fuel + 1 => do
    let index ← subscript fuel
    match ← use quoted name fuel with
    | .parameter _ found _ => return .element name index found quoted
    | other => return other

/-- What stands behind a brace and an exclamation mark: names, keys, or the name of a name. -/
def named (quoted : Bool) : (fuel : Nat) → Reader Fragment
  | 0 => complain "Bad substitution"
  | fuel + 1 => do
    let name ← takeWhile (fun c => isNameChar c || c = '@' || c = '*' || c = '#') 1
    let name ← if name.all isNameChar then
        pure (name ++ (← takeWhile isNameChar fuel))
      else pure name
    let text := String.ofList name
    let source ← get
    match source.rest with
    | '*' :: '\x7d' :: rest =>
      set { source with rest }
      return .parameter text .names quoted
    | '@' :: '\x7d' :: rest =>
      set { source with rest }
      return .parameter text .names quoted
    | '[' :: _ =>
      let index ← subscript fuel
      let ends ← if isEach index || isAll index then accept '\x7d' else pure false
      if ends then return .element text index .keys quoted
      else
        match ← use quoted text fuel with
        | .parameter _ found _ => return .element text index (.indirect found) quoted
        | other => return other
    | _ =>
      match ← use quoted text fuel with
      | .parameter _ found _ => return .parameter text (.indirect found) quoted
      | other => return other

/-- What is made of a parameter, up to the closing brace. -/
def use (quoted : Bool) (name : String) : (fuel : Nat) → Reader Fragment
  | 0 => complain "Bad substitution"
  | fuel + 1 => do
    let rich ← isRich
    let finish (use : Use) : Reader Fragment := return .parameter name use quoted
    let word : Reader Word := do return joined (← fragments .brace quoted fuel)
    let choice? (c : Char) : Option Choice :=
      match c with
      | '-' => some .default
      | '+' => some .alternative
      | '?' => some .demand
      | '=' => some .assign
      | _ => none
    match ← peek with
    | none => complain "Missing '\x7d'"
    | some c =>
      skip
      let orEmpty := c = ':'
      let after ← peek
      let isSlice : Bool := rich && orEmpty && !(after.any fun d => "-+?=\x7d".toList.contains d)
      if isSlice then
        let (start, length) := cutWord ':' (joined (← fragments .brace false fuel))
        return .parameter name (.slice start length.isSome (length.getD [])) quoted
      let c ← if orEmpty then do
          let d ← peek
          skip
          pure (d.getD '\x7d')
        else pure c
      match choice? c with
      | some choice => finish (.choose choice orEmpty (← word))
      | none =>
        if c = '\x7d' && !orEmpty then finish .value
        else if (c = '#' || c = '%') && !orEmpty then
          let longest ← accept c
          finish (.trim (c = '%') longest (joined (← fragments .brace false fuel)))
        else if rich && c = '/' then
          let spot : Spot ←
            if ← accept '/' then pure .every
            else if ← accept '#' then pure .front
            else if ← accept '%' then pure .back
            else pure .first
          let (pattern, word) := cutWord '/' (joined (← fragments .brace false fuel))
          finish (.replace spot pattern (word.getD []))
        else if rich && (c = '^' || c = ',') then
          let every ← accept c
          finish (.recase (c = '^') every (joined (← fragments .brace false fuel)))
        else if rich && c = '@' then
          match ← fragments .brace false fuel with
          | [.literal [letter] _] => finish (.transform letter)
          | _ => finish .bad
        else
          if c ≠ '\x7d' then let _ ← word
          finish .bad

/-- The next token, whatever it may mean. -/
def nextToken : (fuel : Nat) → Reader Token
  | 0 => complain "Unterminated quoted string"
  | fuel + 1 => do
    let source ← get
    match source.putBack with
    | some token =>
      set { source with putBack := none }
      return token
    | none =>
      match ← peek with
      | none => return .finish
      | some c =>
        if c = ' ' || c = '\t' then
          skip
          nextToken fuel
        else if c = '#' then
          modify fun s => { s with rest := s.rest.dropWhile (· ≠ '\n') }
          nextToken fuel
        else if c = '\n' then
          skip
          documents fuel
          return .newline
        else if c = '&' || c = '|' || c = ';' then
          let rich ← isRich
          skip
          if rich && c = '&' && (← peek) = some '>' then
            skip
            if ← accept '>' then return .redirect 1 "&>>" else return .redirect 1 "&>"
          let twice ← accept c
          let text := if twice then [c, c] else [c]
          let ending : Bool := rich && (c = ';' || (c = '|' && !twice)) && (← peek) = some '&'
          if ending then skip
          return .operator (String.ofList (if ending then text ++ ['&'] else text))
        else if c = '(' || c = ')' then
          skip
          return .operator c.toString
        else if (c = '<' || c = '>') &&
            !((← isRich) && ((← get).rest.drop 1).head? = some '(') then
          redirection (if c = '<' then 0 else 1)
        else if ← isRich then richWord fuel
        else
          let after := (joinLines ((← get).rest.drop 1)).1.head?
          if Digits.isDecimal c && (after = some '<' || after = some '>') then
            skip
            redirection (c.toNat - 48)
          else return .word (joined (← fragments .word false fuel))

/-- A word of a rich shell: perhaps one that sets an element, or all elements of a variable. -/
def richWord : (fuel : Nat) → Reader Token
  | 0 => complain "Unterminated quoted string"
  | fuel + 1 => do
    let source ← get
    let (digits, after) := source.rest.span Digits.isDecimal
    if digits ≠ [] && (after.head? = some '<' || after.head? = some '>') &&
        after[1]? ≠ some '(' then
      set { source with rest := after }
      redirection (Digits.toNat digits)
    else
      let front : Word ← match subscripted? source.rest with
        | some (name, index, appends, rest) =>
          let index ← within index (fragments .whole false fuel)
          modify fun s => { s with rest }
          pure [.target name (joined index) appends]
        | none => pure []
      let word := joined (front ++ (← fragments .word false fuel))
      let isOpen : Bool := match assigned? true word, (← get).rest.head? with
        | some assignment, some '(' => isBlankWord assignment.value
        | _, _ => false
      if isOpen then
        skip
        let outer ← get
        set { outer with putBack := none }
        let items ← items fuel
        return .word (word ++ [.elements items])
      else return .word word

/-- Elements up to the closing bracket. -/
def items : (fuel : Nat) → Reader (List (Word × Word))
  | 0 => complain "end of file unexpected"
  | fuel + 1 => do
    let source ← get
    let text := source.rest.dropWhile fun c => c = ' ' || c = '\t'
    match text with
    | '[' :: inner =>
      match upToBracket 0 inner with
      | some (key, '=' :: rest) =>
        let key ← within key (fragments .whole false fuel)
        modify fun s => { s with rest }
        let value := joined (← fragments .word false fuel)
        return (joined key, value) :: (← items fuel)
      | _ => plainItem fuel
    | _ => plainItem fuel

/-- An element without a key, and the others up to the closing bracket. -/
def plainItem : (fuel : Nat) → Reader (List (Word × Word))
  | 0 => complain "end of file unexpected"
  | fuel + 1 => do
    match ← nextToken fuel with
    | .newline => items fuel
    | .operator ")" => return []
    | .word word => return (braced word).map (([] : Word), ·) ++ (← items fuel)
    | other => unexpected other

/-- Takes the documents that the line has asked for. -/
def documents : (fuel : Nat) → Reader Unit
  | 0 => return
  | fuel + 1 => do
    let source ← get
    match source.awaited with
    | [] => return
    | next :: others =>
      let (text, rest, lines) :=
        documentLines next.ending next.untabbed (source.rest.length + 1) source.rest
      set { source with awaited := others }
      let body ← if next.verbatim then pure [.literal text true]
        else within text (fragments .document true fuel)
      modify fun s =>
        { s with
          rest
          line := source.line + lines
          documents := s.documents.set next.place (joined body) }
      documents fuel

/-- The next token; newlines are passed over if `lines` says so, and keywords are words unless
`named` says that they may come. -/
def token (named lines : Bool) : (fuel : Nat) → Reader Token
  | 0 => complain "Unterminated quoted string"
  | fuel + 1 => do
    match ← nextToken fuel with
    | .newline => if lines then token named lines fuel else return .newline
    | .word word =>
      match plain? word with
      | some text =>
        let known := if (← isRich) then richKeywords else keywords
        if named && known.contains text then return .keyword text
        else if !named then return .word word
        else if ← replaceAlias text (← get).replaced then token named lines fuel
        else return .word word
      | none => return .word word
    | found => return found

/-- Takes a keyword or operator that has to come, newlines before it passed over. -/
def expect (text : String) : (fuel : Nat) → Reader Unit
  | 0 => complain "end of file unexpected"
  | fuel + 1 => do
    let found ← token true true fuel
    if found.isKeyword text || found.isOperator text then return
    else unexpectedFor found ("\"" ++ text ++ "\"")

/-- Statements, up to a token that ends a list of them or up to the end of the line. -/
def statements (kind : Listing) : (fuel : Nat) → Reader (List Statement)
  | 0 => complain "end of file unexpected"
  | fuel + 1 => do
    let found ← token true (kind != .line) fuel
    match found with
    | .newline => return []
    | .finish =>
      putBack .finish
      return []
    | _ =>
      putBack found
      if found.endsList && (kind == .any || kind == .more) then return []
      else
        let first ← andOr fuel
        let following : Listing := if kind == .line then .line else .more
        match ← nextToken fuel with
        | .operator "&" => return .background first :: (← statements following fuel)
        | .operator ";" => return first :: (← statements following fuel)
        | .newline =>
          if kind == .line then return [first]
          else return first :: (← statements following fuel)
        | .finish =>
          putBack .finish
          return [first]
        | other =>
          if kind == .line then unexpected other
          else
            putBack other
            return [first]

/-- Statements chained by `&&` and `||`. -/
def andOr : (fuel : Nat) → Reader Statement
  | 0 => complain "end of file unexpected"
  | fuel + 1 => do chain (← pipeline fuel) fuel

/-- What a statement is chained to. -/
def chain (first : Statement) : (fuel : Nat) → Reader Statement
  | 0 => complain "end of file unexpected"
  | fuel + 1 => do
    match ← nextToken fuel with
    | .operator "&&" =>
      ahead fuel
      chain (.both first (← pipeline fuel)) fuel
    | .operator "||" =>
      ahead fuel
      chain (.either first (← pipeline fuel)) fuel
    | other =>
      putBack other
      return first

/-- Looks at the next token where a command has to start, newlines passed over. -/
def ahead : (fuel : Nat) → Reader Unit
  | 0 => complain "end of file unexpected"
  | fuel + 1 => do putBack (← token true true fuel)

/-- Commands with pipes between them, perhaps with the outcome turned round. -/
def pipeline : (fuel : Nat) → Reader Statement
  | 0 => complain "end of file unexpected"
  | fuel + 1 => do
    let found ← token true false fuel
    if found.isKeyword "!" then
      putBack (← token true false fuel)
      return .negated (← if (← isRich) then pipeline fuel else stages fuel)
    else if found.isKeyword "time" then
      let next ← token true false fuel
      let next : Token ← match next with
        | .word word => if plain? word = some "-p" then token true false fuel else pure next
        | _ => pure next
      putBack next
      if next.endsList || next.isNewline then return .group []
      else pipeline fuel
    else
      putBack found
      stages fuel

/-- Commands with pipes between them. -/
def stages : (fuel : Nat) → Reader Statement
  | 0 => complain "end of file unexpected"
  | fuel + 1 => do
    let first ← command fuel
    match ← nextToken fuel with
    | .operator sign =>
      if sign ≠ "|" && sign ≠ "|&" then
        putBack (.operator sign)
        return first
      ahead fuel
      let first := if sign = "|&" then withComplaints first else first
      match ← stages fuel with
      | .pipeline others => return .pipeline (first :: others)
      | other => return .pipeline [first, other]
    | other =>
      putBack other
      return first

/-- A command. -/
def command : (fuel : Nat) → Reader Statement
  | 0 => complain "end of file unexpected"
  | fuel + 1 => do
    let found ← token true false fuel
    let line := (← get).line
    match found with
    | .word _ | .redirect .. =>
      putBack found
      simpleCommand line [] [] [] fuel
    | .operator "(" =>
      let source ← get
      let sum? : Option (List Char × List Char) := match source.rest with
        | '(' :: rest => if source.manner.isRich then upToBrackets 0 rest else none
        | _ => none
      match sum? with
      | some (text, rest) =>
        let sum ← within text (fragments .whole true fuel)
        modify fun s => { s with rest }
        redirected line (.sum line (joined sum)) fuel
      | none =>
        let body ← statements .some fuel
        expect ")" fuel
        redirected line (.subshell body) fuel
    | .keyword "\x7b" =>
      let body ← statements .some fuel
      expect "\x7d" fuel
      redirected line (.group body) fuel
    | .keyword "if" => redirected line (← branch fuel) fuel
    | .keyword "while" => redirected line (← loop false fuel) fuel
    | .keyword "until" => redirected line (← loop true fuel) fuel
    | .keyword "for" => redirected line (← each fuel) fuel
    | .keyword "case" => redirected line (← select fuel) fuel
    | .keyword "[[" =>
      let check ← checkAny fuel
      match ← nextToken fuel with
      | .word word =>
        if plain? word = some "]]" then redirected line (.check line check) fuel
        else unexpected (.word word)
      | other => unexpected other
    | .keyword "function" =>
      match ← nextToken fuel with
      | .word word =>
        let name := (plain? word).getD ""
        let next ← nextToken fuel
        if next.isOperator "(" then expect ")" fuel else putBack next
        putBack (← token true true fuel)
        return .define name (← command fuel)
      | other => unexpected other
    | _ => unexpected found

/-- Conditions of which one has to hold. -/
def checkAny : (fuel : Nat) → Reader Check
  | 0 => complain "end of file unexpected"
  | fuel + 1 => do
    let first ← checkAll fuel
    match ← spaced fuel with
    | .operator "||" => return .any first (← checkAny fuel)
    | other =>
      putBack other
      return first

/-- Conditions all of which have to hold. -/
def checkAll : (fuel : Nat) → Reader Check
  | 0 => complain "end of file unexpected"
  | fuel + 1 => do
    let first ← checkOne fuel
    match ← spaced fuel with
    | .operator "&&" => return .all first (← checkAll fuel)
    | other =>
      putBack other
      return first

/-- The next token that is no newline. -/
def spaced : (fuel : Nat) → Reader Token
  | 0 => return .finish
  | fuel + 1 => do
    match ← nextToken fuel with
    | .newline => spaced fuel
    | other => return other

/-- A condition by itself. -/
def checkOne : (fuel : Nat) → Reader Check
  | 0 => complain "end of file unexpected"
  | fuel + 1 => do
    match ← spaced fuel with
    | .operator "(" =>
      let inner ← checkAny fuel
      let close ← spaced fuel
      if close.isOperator ")" then return inner else unexpected close
    | .word word =>
      match plain? word with
      | some "!" => return .not (← checkOne fuel)
      | some "]]" => unexpected (.word word)
      | some sign =>
        if checkSigns.contains sign then
          match ← nextToken fuel with
          | .word operand =>
            match plain? operand with
            | some "]]" =>
              putBack (.word operand)
              return .one "-n" word
            | some text =>
              if checkOperators.contains text then
                putBack (.word operand)
                checkTwo word fuel
              else return .one sign operand
            | none => return .one sign operand
          | other =>
            putBack other
            checkTwo word fuel
        else checkTwo word fuel
      | none => checkTwo word fuel
    | other => unexpected other

/-- A condition on a word that was read, and perhaps on another one. -/
def checkTwo (left : Word) : (fuel : Nat) → Reader Check
  | 0 => complain "end of file unexpected"
  | fuel + 1 => do
    let operand : Reader Word := do
      let outer ← get
      set { outer with manner := { outer.manner with groups := true } }
      let found ← nextToken fuel
      modify fun s => { s with manner := outer.manner }
      match found with
      | .word word => return word
      | other => unexpected other
    match ← nextToken fuel with
    | .word word =>
      match plain? word with
      | some "=~" =>
        modify fun s => { s with rest := s.rest.dropWhile fun c => c = ' ' || c = '\t' }
        return .two "=~" left (joined (← fragments (.expression 0) false fuel))
      | some sign =>
        if checkOperators.contains sign then return .two sign left (← operand)
        else
          putBack (.word word)
          return .one "-n" left
      | none => unexpected (.word word)
    | .redirect _ sign =>
      if sign = "<" || sign = ">" then return .two sign left (← operand)
      else unexpected (.operator sign)
    | other =>
      putBack other
      return .one "-n" left

/-- The redirections that follow a command. -/
def redirected (line : Nat) (statement : Statement) : (fuel : Nat) → Reader Statement
  | 0 => return statement
  | fuel + 1 => do
    match ← redirects fuel with
    | [] => return statement
    | found => return .redirected line statement found

/-- The redirections that come next; what follows them may be a keyword. -/
def redirects : (fuel : Nat) → Reader (List Redirect)
  | 0 => return []
  | fuel + 1 => do
    match ← token true false fuel with
    | .redirect descriptor text =>
      let first ← target descriptor text fuel
      return first ++ (← redirects fuel)
    | other =>
      putBack other
      return []

/-- What a redirection does, its target included. -/
def target (descriptor : Nat) (text : String) : (fuel : Nat) → Reader (List Redirect)
  | 0 => complain "end of file unexpected"
  | fuel + 1 => do
    match ← nextToken fuel with
    | .word word =>
      let rich ← isRich
      let isBoth : Bool := text = "&>" || text = "&>>" || (rich && text = ">&" && descriptor = 1 &&
        isPathWord word)
      if isBoth then
        return [.mk 1 (if text = "&>>" then .append else .write) word,
          .mk 2 .duplicate [.literal ['1'] false]]
      let direction : Direction ←
        match text with
        | "<<<" => pure .text
        | "<" => pure .read
        | ">" => pure .write
        | ">|" => pure .force
        | ">>" => pure .append
        | "<>" => pure .both
        | "<&" | ">&" => pure .duplicate
        | _ =>
          let (ending, quoted) := verbatim word
          let place := (← get).documents.length
          modify fun s =>
            { s with
              documents := s.documents ++ [[]]
              awaited := s.awaited ++ [⟨place, ending, quoted, text == "<<-"⟩] }
          pure (.document place)
      return [.mk descriptor direction word]
    | other => unexpected other

/-- The words of a simple command, its assignments first; or a function. -/
def simpleCommand (line : Nat) (assignments words : List Word) (redirects : List Redirect) :
    (fuel : Nat) → Reader Statement
  | 0 => complain "end of file unexpected"
  | fuel + 1 => do
    match ← nextToken fuel with
    | .word word =>
      let rich ← isRich
      if words.isEmpty && (assigned? rich word).isSome then
        simpleCommand line (assignments ++ [word]) words redirects fuel
      else
        simpleCommand line assignments (words ++ if rich then braced word else [word]) redirects
          fuel
    | .redirect descriptor text =>
      let more ← target descriptor text fuel
      simpleCommand line assignments words (redirects ++ more) fuel
    | .operator "(" =>
      match words, assignments, redirects with
      | [word], [], [] =>
        let close ← nextToken fuel
        if !close.isOperator ")" then unexpectedFor close "\")\""
        match plain? word with
        | some name =>
          if (← isRich) && isFunctionName name ||
              isName name.toList && !specialNames.contains name then
            putBack (← token true true fuel)
            return .define name (← command fuel)
          else complain "Bad function name"
        | none => complain "Bad function name"
      | _, _, _ => unexpected (.operator "(")
    | other =>
      putBack other
      return .simple line assignments words redirects

/-- A choice behind its first word. -/
def branch : (fuel : Nat) → Reader Statement
  | 0 => complain "end of file unexpected"
  | fuel + 1 => do
    let condition ← statements .some fuel
    expect "then" fuel
    let yes ← statements .some fuel
    match ← token true true fuel with
    | .keyword "elif" => return .branch condition yes [← branch fuel]
    | .keyword "else" =>
      let no ← statements .some fuel
      expect "fi" fuel
      return .branch condition yes no
    | .keyword "fi" => return .branch condition yes []
    | other => unexpectedFor other "\"fi\""

/-- A loop behind its first word. -/
def loop (until_ : Bool) : (fuel : Nat) → Reader Statement
  | 0 => complain "end of file unexpected"
  | fuel + 1 => do
    let condition ← statements .some fuel
    expect "do" fuel
    let body ← statements .some fuel
    expect "done" fuel
    return .loop until_ condition body

/-- A loop over words behind its first word. -/
def each : (fuel : Nat) → Reader Statement
  | 0 => complain "end of file unexpected"
  | fuel + 1 => do
    let found ← nextToken fuel
    let source ← get
    let sums? : Option (List Char × List Char) := match found, source.rest with
      | .operator "(", '(' :: rest => if source.manner.isRich then upToBrackets 0 rest else none
      | _, _ => none
    if let some (text, rest) := sums? then
      let sums ← (cutSums text).mapM fun part => within part (fragments .whole true fuel)
      modify fun s => { s with rest }
      let line := source.line
      let next ← token true true fuel
      let next ← if next.isOperator ";" then token true true fuel else pure next
      let body ←
        if next.isKeyword "\x7b" then do
          let body ← statements .some fuel
          expect "\x7d" fuel
          pure body
        else do
          if !next.isKeyword "do" then unexpected next
          let body ← statements .some fuel
          expect "done" fuel
          pure body
      return .count line (joined (sums.headD [])) (joined (sums[1]?.getD []))
        (joined (sums[2]?.getD [])) body
    let name := match found with
      | .word word => plain? word
      | _ => none
    match name with
    | some name =>
      if !isName name.toList then complain "Bad for loop variable"
      let found ← token true true fuel
      let items ←
        if found.isKeyword "in" then do
          let items ← words fuel
          match ← nextToken fuel with
          | .newline | .operator ";" => pure items
          | other => unexpected other
        else do
          if !found.isOperator ";" then putBack found
          pure [[.parameter "@" .value true]]
      expect "do" fuel
      let body ← statements .some fuel
      expect "done" fuel
      return .each name items body
    | none => complain "Bad for loop variable"

/-- The words that come next. -/
def words : (fuel : Nat) → Reader (List Word)
  | 0 => return []
  | fuel + 1 => do
    match ← nextToken fuel with
    | .word word =>
      return (if (← isRich) then braced word else [word]) ++ (← words fuel)
    | other =>
      putBack other
      return []

/-- A choice by patterns behind its first word. -/
def select : (fuel : Nat) → Reader Statement
  | 0 => complain "end of file unexpected"
  | fuel + 1 => do
    match ← nextToken fuel with
    | .word word =>
      expect "in" fuel
      return .select word (← cases word fuel)
    | other => unexpectedFor other "word"

/-- The cases up to the end of a choice for a word. -/
def cases (word : Word) : (fuel : Nat) → Reader (List (List Word × List Statement))
  | 0 => complain "end of file unexpected"
  | fuel + 1 => do
    let found ← token true true fuel
    if found.isKeyword "esac" then return []
    else
      let found ← if found.isOperator "(" then nextToken fuel else pure found
      let patterns ← alternatives found fuel
      let body ← statements .any fuel
      match ← token true true fuel with
      | .keyword "esac" => return [(patterns, body)]
      | .operator ";;" => return (patterns, body) :: (← cases word fuel)
      | .operator ";&" =>
        -- The body of the next case follows.
        let others ← cases word fuel
        return (patterns, body ++ ((others.head?.map Prod.snd).getD [])) :: others
      | .operator ";;&" =>
        -- The other cases have their chance, too.
        let others ← cases word fuel
        return (patterns, body ++ [.select word others]) :: others
      | other => unexpectedFor other "\";;\""

/-- The patterns of a case, the first token of which was read.  What can be no pattern is noticed at
the token behind it. -/
def alternatives (first : Token) : (fuel : Nat) → Reader (List Word)
  | 0 => complain "end of file unexpected"
  | fuel + 1 => do
    let pattern : Word ← match first with
      | .word word => pure word
      | .keyword name => pure [.literal name.toList false]
      | _ => pure []
    match ← nextToken fuel with
    | .operator "|" => return pattern :: (← alternatives (← nextToken fuel) fuel)
    | .operator ")" => return [pattern]
    | other => unexpectedFor other "\")\""

end

/-! ## 4. Lines -/

/-- A script from its start on a line; `documents` were read before. -/
def Source.start (text : List Char) (line : Nat) (documents : List Word) : Source :=
  ⟨text, line, documents, [], none, .plain, []⟩

/-- Nothing is left. -/
def Source.isFinished (source : Source) : Bool :=
  match source.putBack with
  | some .finish => true
  | _ => false

/-- The statements of the next line, none if it is empty, and what is left then. -/
def readLine (source : Source) : Except SyntaxFault (List Statement × Source) :=
  (statements .line (8 * source.rest.length + 64)).run source

end RenderSync.Shell
