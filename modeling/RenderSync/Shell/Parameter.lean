import RenderSync.Shell.Marks
import RenderSync.Shell.Process
import RenderSync.Shell.Quoting

/-!
# Parameters

What stands for a text in a script: arguments, variables and their elements, and what the shell
tells about itself.  A parameter stands for one text, perhaps a missing one, or for several.
-/

namespace RenderSync.Shell

/-- The separators of fields. -/
def separators (me : Process) : List Char := ((me.lookup "IFS").getD " \t\n").toList

/-- What stands between the arguments where they become one text. -/
def joint (me : Process) : String :=
  match me.lookup "IFS" with
  | none => " "
  | some text => String.ofList (text.toList.take 1)

/-! ## 1. What a shell tells about itself -/

/-- The script was given as an argument. -/
def Process.hasGivenScript (me : Process) : Bool := me.hasOption 'c'

/-- The version that a rich shell says it has. -/
def richVersion : List String := ["5", "2", "21", "1", "release", "x86_64-pc-linux-gnu"]

/-- Elements that a rich shell tells about itself. -/
def ownElements? (me : Process) (name : String) : Option (List String) :=
  match name with
  | "PIPESTATUS" => some (me.outcomes.map decimal)
  | "FUNCNAME" =>
    some (if me.calls = [] then []
      else me.calls.map (·.name) ++ if me.hasGivenScript then [] else ["main"])
  | "BASH_SOURCE" =>
    some (me.calls.map (·.script) ++ if me.hasGivenScript then [] else [me.name])
  | "BASH_LINENO" =>
    some (me.calls.map (decimal ·.line) ++ if me.hasGivenScript then [] else ["0"])
  | "BASH_VERSINFO" => some richVersion
  | "DIRSTACK" => some (me.here :: me.places)
  | "GROUPS" => some ["0"]
  | _ => none

/-- A text that a rich shell tells about itself. -/
def ownText? (me : Process) (name : String) : Option String :=
  match name with
  | "LINENO" => some (decimal me.line)
  | "BASHPID" => some (decimal me.number)
  | "BASH" => some "/bin/bash"
  | "BASH_VERSION" => some "5.2.21(1)-release"
  | "UID" | "EUID" => some "0"
  | "BASH_SUBSHELL" => some (if me.number = me.shell then "0" else "1")
  | _ => none

/-! ## 2. Values -/

/-- The elements of a variable, with their keys. -/
def elementsOf (me : Process) (name : String) : List (String × String) :=
  match if me.isRich then ownElements? me name else none with
  | some values => values.zipIdx.map fun (value, n) => (decimal n, value)
  | none =>
    match if me.isRich then ownText? me name else none with
    | some text => [("0", text)]
    | none => (me.entry (me.meant name)).content.pairs

/-- The value of a parameter that stands for one text. -/
def parameter? (me : Process) (name : String) : Option String :=
  match name with
  | "?" => some (decimal me.status)
  | "$" => some (decimal me.shell)
  | "#" => some (decimal me.arguments.length)
  | "!" => me.background.map decimal
  | "-" => some (String.ofList me.options)
  | "@" => if me.arguments = [] then none else some (" ".intercalate me.arguments)
  | "*" => if me.arguments = [] then none else some ((joint me).intercalate me.arguments)
  | _ =>
    match Digits.toNat? 10 name.toList with
    | some 0 => some me.name
    | some place => me.arguments[place - 1]?
    | none =>
      match if me.isRich then (ownElements? me name).bind (·.head?) else none with
      | some value => some value
      | none =>
        match if me.isRich then ownText? me name else none with
        | some text => some text
        | none => me.lookup name

/-- What a parameter stands for. -/
inductive Subject where
  | one (value : Option String)
  /-- Several texts, which become one where they are quoted if `joins` says so. -/
  | many (values : List String) (joins : Bool)
deriving DecidableEq, Repr, Inhabited

namespace Subject

/-- What a name stands for. -/
def ofName (me : Process) (name : String) : Subject :=
  match name with
  | "@" => many me.arguments false
  | "*" => many me.arguments true
  | _ => one (parameter? me name)

/-- What an element of a variable stands for; the key is a sum unless the variable is a table. -/
def ofElement (me : Process) (name key : String) : Except String Subject :=
  if key = "@" then .ok (many ((elementsOf me name).map Prod.snd) false)
  else if key = "*" then .ok (many ((elementsOf me name).map Prod.snd) true)
  else
    let content := (me.entry (me.meant name)).content
    let pairs := elementsOf me name
    if content.isTable then .ok (one (pairs.lookup key))
    else do
      let (n, _) ← me.sum key.toList
      let last : Nat := ((pairs.getLast?.bind fun pair => Digits.toNat? 10 pair.1.toList).map
        (· + 1)).getD 0
      let n := if n < 0 then n + last else n
      if n < 0 then .error (name ++ ": bad array subscript")
      else .ok (one (pairs.lookup (signedDecimal n)))

/-- The same with something else for every text. -/
def map (change : String → String) : Subject → Subject
  | one value => one (value.map change)
  | many values joins => many (values.map change) joins

/-- There is a text, and it is not empty if `orEmpty` says that this counts. -/
def isThere (orEmpty : Bool) : Subject → Bool
  | one value => value.isSome && !(orEmpty && value = some "")
  | many values _ => values ≠ [] && !(orEmpty && values.all (· = ""))

/-- All in one text. -/
def text (me : Process) : Subject → String
  | one value => value.getD ""
  | many values joins => (if joins then joint me else " ").intercalate values

/-- The marks of what a parameter stands for. -/
def marks (me : Process) (quoted : Bool) : Subject → List Mark
  | one value => marksOf quoted (!quoted) (value.getD "")
  | many values joins =>
    let each (between : Mark) (marks : String → List Mark) : List Mark :=
      [between].intercalate (values.map marks)
    if quoted && joins then marksOf true false ((joint me).intercalate values)
    else if quoted then each .cut fun text => .quote :: marksOf true false text
    else each .softCut (marksOf false true)

end Subject

/-! ## 3. Other ways to write a value -/

/-- A character as a large letter or a small one. -/
def recased (upper : Bool) (c : Char) : Char := if upper then c.toUpper else c.toLower

/-- A text with large or small letters for those that a pattern matches, at its start or
everywhere. -/
def recase (upper every : Bool) (fits : List Char → Bool) (text : String) : String :=
  let change (c : Char) : Char := if fits (Octets.ofCharacter c) then recased upper c else c
  let wide := Octets.characters text.toList
  String.ofList (Octets.ofCharacters (if every then wide.map change
    else match wide with
      | c :: rest => change c :: rest
      | [] => []))

/-- A part of some items: from a place on, which counts from the end if it is below zero, and up to
a length or to a place that counts from the end. -/
def sliceOf {α : Type} (start : Int) (length : Option Int) (items : List α) : List α :=
  let size : Int := items.length
  let start := if start < 0 then start + size else start
  if start < 0 then []
  else
    let found := items.drop start.toNat
    match length with
    | none => found
    | some n => if n < 0 then found.take (found.length + n).toNat else found.take n.toNat

/-- The letters for the properties of a variable. -/
def Variable.letters (entry : Variable) : String :=
  (match entry.content with
    | .list _ => "a"
    | .table _ => "A"
    | _ => "") ++ (if entry.has 'i' then "i" else "") ++ (if entry.has 'n' then "n" else "") ++
    (if entry.readOnly then "r" else "") ++ (if entry.exported then "x" else "") ++
    (if entry.has 'l' then "l" else "") ++ (if entry.has 'u' then "u" else "")

/-- The content of a variable as an assignment writes it. -/
def Content.written : Content → String
  | .nothing => ""
  | .text value => Quoting.value value
  | content =>
    let items := content.pairs.map fun (key, value) =>
      "[" ++ (if content.isTable then Quoting.brief key else key) ++ "]=" ++ Quoting.value value
    "(" ++ " ".intercalate items ++ (if content.isTable && items ≠ [] then " )" else ")")

/-- The command that makes a variable what it is. -/
def declaration (name : String) (entry : Variable) : String :=
  let letters := entry.letters
  "declare -" ++ (if letters = "" then "-" else letters) ++ " " ++ name ++
    (match entry.content with
      | .nothing => ""
      | content => "=" ++ content.written)

/-- A value written in another way. -/
def transformed (letter : Char) (value : String) : String :=
  match letter with
  | 'Q' => Quoting.whole value
  | 'U' => recase true true (fun _ => true) value
  | 'u' => recase true false (fun _ => true) value
  | 'L' => recase false true (fun _ => true) value
  | 'E' => String.ofList (Format.unescapeWith true value).1
  | _ => value

end RenderSync.Shell
