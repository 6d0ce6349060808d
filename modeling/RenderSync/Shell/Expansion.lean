import RenderSync.Shell.Parameter

/-!
# Expanding words

A word becomes marks: octets that know whether they are quoted and whether they may separate
fields, and cuts between fields.  The marks are split into fields, and a field with an unquoted
pattern becomes the files that it matches.

A word may hold a script, and a script takes time.  So the expansion is handed the outputs of the
scripts that were run already, in order; when it comes to one that was not, it stops and says which
one it needs.  Run again from the start with one more output it does the same as before, and then
goes on.
-/

namespace RenderSync.Shell

/-! ## 1. Files that match -/

/-- A path of the shell; the empty one leads nowhere. -/
def pathFrom (here text : String) : Path :=
  if text = "" then ⟨""⟩ else (⟨Octets.toString here⟩ : Path).join ⟨Octets.toString text⟩

/-- How files are looked for. -/
structure Search where
  /-- Patterns may have groups. -/
  rich : Bool
  /-- Names with a dot in front are like others. -/
  dotted : Bool
deriving DecidableEq, Repr, Inhabited

/-- A pattern may match something else than itself. -/
def Search.isPattern (search : Search) (pattern : Marked) : Bool :=
  !pattern.isPlain || search.rich && hasGroups (pattern.atoms true (pattern.length + 1))

/-- The names in a directory that a pattern matches; those with a dot in front only if the pattern
has one there. -/
def namesMatching (search : Search) (files : FileTree) (here directory : String)
    (pattern : Marked) : List String :=
  let dotted := pattern.head?.any (·.1 = '.')
  let place := pathFrom here (if directory = "" then "." else directory)
  let names := ((files.list? place).getD []).map Octets.ofString
  let names := if dotted && !search.dotted then "." :: ".." :: names else names
  let fits := pattern.test search.rich
  (names.filter fun name =>
    (dotted || search.dotted || name.toList.head? ≠ some '.') &&
      fits name.toList).mergeSort (· ≤ ·)

/-- The directories at a place and below it, as far as `fuel` goes. -/
def directoriesBelow (files : FileTree) (here : String) : (fuel : Nat) → String → List String
  | 0, _ => []
  | fuel + 1, done_ =>
    let place := pathFrom here (if done_ = "" then "." else done_)
    let names := (((files.list? place).getD []).map Octets.ofString).mergeSort (· ≤ ·)
    let inner := names.filter fun name =>
      name.toList.head? ≠ some '.' && files.isDirectory (pathFrom here (done_ ++ name))
    done_ :: inner.flatMap fun name => directoriesBelow files here fuel (done_ ++ name ++ "/")

/-- The paths that begin with `done_` and go on as the pieces of a pattern say; two stars stand for
any number of directories if `depth` is not zero. -/
def pathsMatching (search : Search) (depth : Nat) (files : FileTree) (here : String) :
    (done_ : String) → List Marked → List String
  | done_, [] => if files.contains (pathFrom here done_) then [done_] else []
  | done_, piece :: rest =>
    if depth ≠ 0 && piece = [('*', false), ('*', false)] && rest ≠ [] then
      (directoriesBelow files here depth done_).flatMap fun directory =>
        pathsMatching search depth files here directory rest
    else
      let among := if depth ≠ 0 && piece = [('*', false), ('*', false)] then
          directoriesBelow files here depth done_
        else [done_]
      among.flatMap fun done_ =>
        let names :=
          if search.isPattern piece then namesMatching search files here done_ piece
          else [String.ofList (piece.map Prod.fst)]
        names.flatMap fun name =>
          pathsMatching search depth files here (done_ ++ name ++ if rest = [] then "" else "/")
            rest

/-- A pattern cut at its slashes. -/
def pieces : Marked → List Marked
  | [] => [[]]
  | mark :: rest =>
    match pieces rest with
    | [] => [[mark]]
    | piece :: others => if mark.1 = '/' then [] :: piece :: others else (mark :: piece) :: others

/-- How a process looks for files. -/
def searchOf (me : Process) : Search := ⟨me.isRich, me.hasFeature "dotglob"⟩

/-- The fields that a field becomes: the files that it matches, if it is a pattern of any. -/
def filesMatching (me : Process) (files : FileTree) (field : List Mark) : List String :=
  let pattern := patternOf field
  let search := searchOf me
  if me.hasOption 'f' || !search.isPattern pattern then [textOf field]
  else
    let depth := if me.hasFeature "globstar" then 64 else 0
    match pathsMatching search depth files me.here "" (pieces pattern) with
    | [] => if me.hasFeature "nullglob" then [] else [textOf field]
    | found => found

/-! ## 2. Words -/

/-- An expansion on its way. -/
structure Expansion where
  me : Process
  files : FileTree
  /-- The outputs of scripts that were not used yet. -/
  captured : List String
  now : Moment
deriving Inhabited

/-- Why an expansion does not go on. -/
inductive Stop where
  | needs (script : List Statement) (me : Process)
  /-- A path is needed that leads to what a script writes, or to what it reads. -/
  | connects (reads : Bool) (script : List Statement) (me : Process)
  | fault (message : String)
  /-- The same, and nothing of the line is done. -/
  | unbound (message : String)

/-- Expands. -/
abbrev Expand := StateT Expansion (Except Stop)

/-- The home directory behind a tilde, up to one of the signs in `ends`. -/
def tilde (me : Process) (ends : List Char) (text : List Char) : List Mark × List Char :=
  match text with
  | '~' :: rest =>
    let (user, rest') := rest.span fun c => !ends.contains c
    match user, me.lookup "HOME" with
    | [], some home => (marksOf true false home, rest')
    | _, _ => ([], text)
  | _ => ([], text)

/-- The text that stands in front of a word with a tilde at its start expanded.  Only text that is
not quoted and complete up to a slash or the end of the word counts. -/
def tildeFirst (me : Process) : Word → List Mark × Word
  | .literal text false :: rest =>
    let ends := text.contains '/' || rest.isEmpty
    if ends then
      let (marks, text) := tilde me ['/'] text
      (marks, .literal text false :: rest)
    else ([], .literal text false :: rest)
  | word => ([], word)

/-- Complains. -/
def fault {α : Type} (message : String) : Expand α := throw (.fault message)

/-- Sets a variable. -/
def setVariable (name value : String) : Expand Unit := do
  let s ← get
  match s.me.assign name value with
  | .ok me => set { s with me }
  | .error message => fault message

/-- The output of the next script, without the ends of lines at its end. -/
def takeCaptured (script : List Statement) : Expand String := do
  let s ← get
  match s.captured with
  | output :: captured =>
    set { s with captured }
    return String.ofList (output.toList.reverse.dropWhile (· = '\n')).reverse
  | [] => throw (.needs script s.me)

/-- The path for the next script that is connected. -/
def takeConduit (reads : Bool) (script : List Statement) : Expand String := do
  let s ← get
  match s.captured with
  | path :: captured =>
    set { s with captured }
    return path
  | [] => throw (.connects reads script s.me)

/-- What a sum gives, whose assignments take effect. -/
def sumOf (text : String) : Expand Int := do
  let s ← get
  match s.me.sum text.toList with
  | .error message => fault message
  | .ok (n, assigned) =>
    match s.me.assignAll assigned with
    | .error message => fault message
    | .ok me =>
      set { s with me }
      return n

/-- What a name stands for in a rich shell. -/
def subjectOf (name : String) : Expand Subject := do
  let s ← get
  match name with
  | "RANDOM" =>
    let seed := (s.me.seed * 1103515245 + 12345 + s.me.number) % 2147483648
    set { s with me := { s.me with seed } }
    return .one (some (decimal (seed / 65536 % 32768)))
  | "SRANDOM" =>
    let seed := (s.me.seed * 1103515245 + 12345 + s.me.number) % 2147483648
    set { s with me := { s.me with seed } }
    return .one (some (decimal seed))
  | "EPOCHSECONDS" => return .one (some (decimal (s.now / second)))
  | "EPOCHREALTIME" =>
    let digits := Digits.ofNat (1000000 + s.now % second / 1000)
    return .one (some (decimal (s.now / second) ++ "." ++ String.ofList (digits.drop 1)))
  | _ => return .ofName s.me name

/-- A parameter of a rich shell: its name and the key of its element. -/
structure Named where
  name : String
  key : Option String
deriving DecidableEq, Repr, Inhabited

/-- The name as a complaint says it. -/
def Named.shown (who : Named) : String :=
  match who.key with
  | some key => who.name ++ "[" ++ key ++ "]"
  | none => who.name

/-- What an element stands for. -/
def subjectOfElement (name key : String) : Expand Subject := do
  match Subject.ofElement (← get).me name key with
  | .ok subject => return subject
  | .error message => fault message

/-- What a name in a value stands for. -/
def subjectNamed (text : String) : Expand (Named × Subject) := do
  match Process.withKey text with
  | (name, none) => return (⟨name, none⟩, ← subjectOf name)
  | (name, some key) => return (⟨name, some key⟩, ← subjectOfElement name key)

/-- Complains about a parameter that is missing if that is no matter of course. -/
def demandSet (who : Named) (subject : Subject) : Expand Unit := do
  if subject = .one none && (← get).me.hasOption 'u' then
    throw (.unbound (who.shown ++ ": unbound variable"))

/-- The texts of a subject with something else for each. -/
def marksWith (quoted : Bool) (subject : Subject) (change : List Char → List Char) :
    Expand (List Mark) := do
  return (subject.map fun text => String.ofList (change text.toList)).marks (← get).me quoted

/-- What a word that is put in the place of a match becomes; an ampersand is the match. -/
def substituteOf (word : Marked) (found : List Char) : List Char :=
  word.flatMap fun (c, quoted) => if c = '&' && !quoted then found else [c]

/-- What the complaint about a missing parameter says. -/
def missing (name : String) (orEmpty : Bool) (word : String) : String :=
  name ++ ": " ++
    if word = "" then "parameter not set" ++ (if orEmpty then " or null" else "") else word

mutual

/-- The marks of a word; `inner` says that it stands inside the braces of an unquoted
parameter. -/
def expandWord (inner : Bool) : Word → Expand (List Mark)
  | [] => return []
  | fragment :: rest => do
    let marks ← expandFragment inner fragment
    return marks ++ (← expandWord inner rest)

/-- The marks of a fragment. -/
def expandFragment (inner : Bool) : Fragment → Expand (List Mark)
  | .literal text quoted =>
    return if text = [] && quoted then [.quote]
      else (if quoted then [.quote] else []) ++
        text.map fun c => .char c quoted (inner && !quoted)
  | .arithmetic expression quoted => do
    let n ← sumOf (textOf (← expandWord false expression))
    return marksOf quoted (!quoted) (signedDecimal n)
  | .command script quoted => do return marksOf quoted (!quoted) (← takeCaptured script)
  | .conduit reads script => do return marksOf true false (← takeConduit reads script)
  | .target name index appends => do
    let index ← expandWord false index
    return marksOf false false (name ++ "[") ++ index ++
      marksOf false false (if appends then "]+=" else "]=")
  | .elements _ => return []
  | .element name index use quoted => do
    let key := textOf (← expandWord false index)
    expandSubject ⟨name, some key⟩ (← subjectOfElement name key) quoted use
  | .parameter name use quoted => do
    if (← get).me.isRich then expandSubject ⟨name, none⟩ (← subjectOf name) quoted use
    else expandUse name quoted use

/-- The marks of a parameter of which something is made. -/
def expandUse (name : String) (quoted : Bool) : Use → Expand (List Mark)
  | .bad | .slice .. | .replace .. | .recase .. | .transform _ | .keys | .names | .indirect _ =>
    fault "Bad substitution"
  | .value => do
    let me := (← get).me
    if me.hasOption 'u' && (parameter? me name).isNone && name ≠ "@" && name ≠ "*" then
      fault (missing name false "")
    return (Subject.ofName me name).marks me quoted
  | .length => do
    let me := (← get).me
    if me.hasOption 'u' && (parameter? me name).isNone && name ≠ "@" && name ≠ "*" then
      fault (missing name false "")
    return marksOf quoted (!quoted) (decimal ((parameter? me name).getD "").length)
  | .trim suffix longest pattern => do
    let me := (← get).me
    if me.hasOption 'u' && (parameter? me name).isNone && name ≠ "@" && name ≠ "*" then
      fault (missing name false "")
    let pattern := patternOf (← expandWord false pattern)
    let value := ((parameter? (← get).me name).getD "").toList
    return marksOf quoted (!quoted) (String.ofList (trim false suffix longest pattern value))
  | .choose choice orEmpty word => do
    let me := (← get).me
    let value := parameter? me name
    let there := value.isSome && !(orEmpty && value = some "")
    match choice with
    | .alternative => if there then expandWord (!quoted) word else return []
    | _ =>
      if there then return (Subject.ofName me name).marks me quoted
      else
        match choice with
        | .assign =>
          if !isName name.toList then fault (name ++ ": bad variable name")
          let text := textOf (← expandWord false word)
          setVariable name text
          return marksOf quoted (!quoted) text
        | .demand => fault (missing name orEmpty (textOf (← expandWord false word)))
        | _ => expandWord (!quoted) word

/-- The marks of what a parameter of a rich shell stands for, of which something is made. -/
def expandSubject (who : Named) (subject : Subject) (quoted : Bool) : Use → Expand (List Mark)
  | .bad => fault (who.shown ++ ": bad substitution")
  | .value => do
    demandSet who subject
    return subject.marks (← get).me quoted
  | .length => do
    demandSet who subject
    let n := match subject with
      | .one value => (Octets.characters (value.getD "").toList).length
      | .many values _ => values.length
    return marksOf quoted (!quoted) (decimal n)
  | .trim suffix longest pattern => do
    demandSet who subject
    let pattern := patternOf (← expandWord false pattern)
    marksWith quoted subject (trim true suffix longest pattern)
  | .replace spot pattern word => do
    demandSet who subject
    let pattern := patternOf (← expandWord false pattern)
    let word := patternOf (← expandWord false word)
    marksWith quoted subject (replaced spot pattern (substituteOf word))
  | .recase upper every pattern => do
    demandSet who subject
    let pattern := patternOf (← expandWord false pattern)
    let fits (text : List Char) : Bool := pattern = [] || pattern.test true text
    return (subject.map (recase upper every fits)).marks (← get).me quoted
  | .transform letter => do
    let me := (← get).me
    match letter with
    | 'a' => return marksOf quoted (!quoted) (me.entry (me.meant who.name)).letters
    | 'A' =>
      let entry := me.entry (me.meant who.name)
      let text := if entry.letters = "" then
          who.name ++ "=" ++ Quoting.whole (entry.value.getD "")
        else if entry.content.hasElements then declaration who.name entry
        else "declare -" ++ entry.letters ++ " " ++ who.name ++ "=" ++
          Quoting.whole (entry.value.getD "")
      return marksOf quoted (!quoted) text
    | 'K' | 'k' =>
      let pairs := elementsOf me who.name
      if letter = 'K' then
        return marksOf quoted (!quoted) (" ".intercalate (pairs.map fun (key, value) =>
          key ++ " " ++ Quoting.value value))
      else
        return (Subject.many (pairs.flatMap fun (key, value) => [key, value]) false).marks me quoted
    | letter => return (subject.map (transformed letter)).marks me quoted
  | .slice start bounded length => do
    demandSet who subject
    let start ← sumOf (textOf (← expandWord false start))
    let count ← sumOf (textOf (← expandWord false length))
    let count := if bounded then some count else none
    let me := (← get).me
    match subject with
    | .one value =>
      let wide := Octets.characters (value.getD "").toList
      let part := String.ofList (Octets.ofCharacters (sliceOf start count wide))
      return (Subject.one (some part)).marks me quoted
    | .many values joins =>
      let part : List String := match who.key with
        | none =>
          -- The name of the script stands in front of the arguments.
          sliceOf start count (me.name :: values)
        | some _ =>
          let pairs := elementsOf me who.name
          let last : Nat := ((pairs.getLast?.bind fun pair => Digits.toNat? 10 pair.1.toList).map
            (· + 1)).getD 0
          let start := if start < 0 then start + last else start
          if start < 0 then []
          else
            let behind := pairs.filter fun pair =>
              (Digits.toNat? 10 pair.1.toList).any (start.toNat ≤ ·)
            sliceOf 0 count (behind.map Prod.snd)
      return (Subject.many part joins).marks me quoted
  | .keys => do
    let me := (← get).me
    let keys := (elementsOf me who.name).map Prod.fst
    return (Subject.many keys (who.key = some "*")).marks me quoted
  | .names => do
    let me := (← get).me
    let names := (me.bindings.filter fun entry =>
      who.name.toList.isPrefixOf entry.1.toList && entry.2.content ≠ .nothing).map Prod.fst
    return (Subject.many (names.mergeSort (· ≤ ·)) false).marks me quoted
  | .indirect use => do
    let me := (← get).me
    let entry := me.entry who.name
    if entry.has 'n' && who.key.isNone then
      return (Subject.one entry.value).marks me quoted
    match subject with
    | .one (some text) =>
      let (other, found) ← subjectNamed text
      expandSubject other found quoted use
    | _ => fault (who.shown ++ ": invalid indirect expansion")
  | .choose choice orEmpty word => do
    let there := subject.isThere orEmpty
    match choice with
    | .alternative => if there then expandWord (!quoted) word else return []
    | _ =>
      if there then return subject.marks (← get).me quoted
      else
        match choice with
        | .assign =>
          let text := textOf (← expandWord false word)
          let s ← get
          match s.me.store who.name who.key false text with
          | .ok me =>
            set { s with me }
            return marksOf quoted (!quoted) text
          | .error message => fault message
        | .demand =>
          let text := textOf (← expandWord false word)
          throw (.unbound (who.shown ++ ": " ++ if text ≠ "" then text
            else if orEmpty then "parameter null or not set" else "parameter not set"))
        | _ => expandWord (!quoted) word

end

/-- The marks of a word, a tilde at its start expanded. -/
def expandFull (word : Word) : Expand (List Mark) := do
  let (marks, word) := tildeFirst (← get).me word
  return marks ++ (← expandWord false word)

/-- The fields of a word. -/
def expandFields (word : Word) : Expand (List String) := do
  let marks ← expandFull word
  let s ← get
  return (Fields.ofMarks (separators s.me) marks).flatMap (filesMatching s.me s.files)

/-- A word as one text. -/
def expandText (word : Word) : Expand String := do return textOf (← expandFull word)

/-- A word as a pattern. -/
def expandPattern (word : Word) : Expand Marked := do return patternOf (← expandFull word)

/-- Tildes behind colons in the value of an assignment. -/
def tildesInValue (me : Process) : (fuel : Nat) → List Char → List Mark
  | 0, text => text.map fun c => .char c false false
  | fuel + 1, text =>
    let (home, text) := tilde me ['/', ':'] text
    let (part, rest) := text.span (· ≠ ':')
    home ++ part.map (fun c => .char c false false) ++
      match rest with
      | [] => []
      | c :: rest => .char c false false :: tildesInValue me fuel rest

/-- Elements for a variable; those without a key may become several. -/
def expandItems : List (Word × Word) → Expand (List (Option String × String))
  | [] => return []
  | (key, value) :: rest => do
    let found ←
      if key.isEmpty then do pure ((← expandFields value).map (none, ·))
      else do
        let key ← expandText key
        pure [(some key, ← expandText value)]
    return found ++ (← expandItems rest)

/-- The value of an assignment. -/
def expandValue (word : Word) : Expand String := do
  match word with
  | .literal text false :: rest =>
    let marks := tildesInValue (← get).me text.length text
    return textOf (marks ++ (← expandWord false rest))
  | _ => return textOf (← expandWord false word)

end RenderSync.Shell
