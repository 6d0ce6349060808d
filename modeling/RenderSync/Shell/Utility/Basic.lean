import RenderSync.Files.Trouble
import RenderSync.Shell.Course
import RenderSync.Shell.Expansion
import RenderSync.Shell.Utility.Options

/-!
# Utilities

A utility is a program of the system that is called with arguments and with all of its input, if it
reads any.  Most of them do their work at once: they are functions from a `Call` to a `Deed`, that
is, to what was printed, the files then, and a status.  Others have a `Course`.

Names in complaints stand between quotes, of one kind or the other.
-/

namespace RenderSync.Shell

/-- How a utility is called. -/
structure Call where
  name : String
  arguments : List String
  here : String
  environment : List (String × String)
  creationMask : Nat
  files : FileTree
  /-- What was read before, by operand; a dash stands for the input. -/
  inputs : List (String × String)
  /-- The input is a file, so that its size is known. -/
  isSized : Bool
  /-- The number of the process. -/
  number : Nat
  now : Moment
deriving Inhabited

/-- What a utility has done. -/
structure Deed where
  /-- What was written, with descriptors. -/
  said : List (Nat × String)
  status : Nat
  files : FileTree
deriving Inhabited

/-- A utility. -/
abbrev Utility := Call → Course

namespace Deed

/-- One deed after another. -/
def followedBy (first second : Deed) : Deed :=
  ⟨first.said ++ second.said, max first.status second.status, second.files⟩

/-- What was printed. -/
def output (deed : Deed) : String :=
  String.join ((deed.said.filter (·.1 = 1)).map Prod.snd)

/-- What was complained about. -/
def complaints (deed : Deed) : List (Nat × String) := deed.said.filter (·.1 ≠ 1)

/-- Texts for the same descriptor made one. -/
def joined : List (Nat × String) → List (Nat × String)
  | [] => []
  | (descriptor, text) :: rest =>
    match joined rest with
    | (next, more) :: others =>
      if next = descriptor then (descriptor, text ++ more) :: others
      else (descriptor, text) :: (next, more) :: others
    | [] => [(descriptor, text)]

/-- A deed as the course of a program. -/
def course (deed : Deed) : Course :=
  .put deed.files ((joined (deed.said.filter (·.2 ≠ ""))).foldr (fun (descriptor, text) next =>
    .write descriptor text next) (.finish deed.status))

end Deed

/-! ## 1. Quotes -/

/-- Characters that may stand without quotes. -/
def isBare (c : Char) : Bool :=
  classHolds "alnum" c || "%+,-./:=@_".toList.contains c || '\x80' ≤ c

/-- Text inside single quotes; single quotes in it, and what cannot be seen, stand outside. -/
def quotedText (text : List Char) : List Char :=
  text.flatMap fun c =>
    if c = '\'' then "'\\''".toList
    else if c = '\n' then "'$'\\n''".toList
    else if c = '\t' then "'$'\\t''".toList
    else if c < ' ' || c = '\x7f' then
      "'$'\\".toList ++ (Digits.ofNat (c.toNat / 64)) ++ Digits.ofNat (c.toNat / 8 % 8) ++
        Digits.ofNat (c.toNat % 8) ++ "''".toList
    else [c]

/-- A name between quotes, so that the shell would read it. -/
def inQuotes (text : String) : String :=
  let chars := text.toList
  if chars.contains '\'' && !chars.any fun c => "\"$\x60\\!".toList.contains c || c < ' ' then
    "\"" ++ text ++ "\""
  else "'" ++ String.ofList (quotedText chars) ++ "'"

/-- A name, between quotes if it needs them; a colon does as well. -/
def asNeeded (text : String) : String :=
  if text ≠ "" && text.toList.all (fun c => isBare c && c ≠ ':') then text else inQuotes text

/-- A value between the quotes of print. -/
def curly (text : String) : String :=
  Octets.ofString "\u2018" ++ text ++ Octets.ofString "\u2019"

namespace Call

/-! ## 2. Deeds -/

/-- The input. -/
def input (call : Call) : String := (call.inputs.lookup "-").getD ""

/-- Nothing but output. -/
def gives (call : Call) (output : String) : Deed := ⟨[(1, output)], 0, call.files⟩

/-- Nothing but an outcome. -/
def answers (call : Call) (status : Nat) : Deed := ⟨[], status, call.files⟩

/-- A complaint in the name of the utility. -/
def complaint (call : Call) (message : String) : Nat × String :=
  (2, call.name ++ ": " ++ message ++ "\n")

/-- Nothing but a complaint. -/
def complains (call : Call) (message : String) (status : Nat) : Deed :=
  ⟨[call.complaint message], status, call.files⟩

/-- Where the way to call a program is explained. -/
def hint (name : String) : String := "Try '" ++ name ++ " --help' for more information."

/-- A complaint about how the utility was called. -/
def misused (call : Call) (message : String) (status : Nat) : Deed :=
  ⟨[call.complaint message, (2, hint call.name ++ "\n")], status, call.files⟩

/-- Does something for every operand, one after the other; a complaint makes the status one. -/
def forEach (call : Call) (operands : List String)
    (act : FileTree → String → Except String (String × FileTree)) : Deed :=
  operands.foldl (fun deed operand =>
    match act deed.files operand with
    | .ok (output, files) => { deed with said := deed.said ++ [(1, output)], files }
    | .error message => { deed with said := deed.said ++ [call.complaint message], status := 1 })
    ⟨[], 0, call.files⟩

/-- A path as the call means it. -/
def path (call : Call) (text : String) : Path := pathFrom call.here text

/-- A mode of a new file or directory, as far as the mask leaves it. -/
def allowed (call : Call) (mode : Nat) : Nat := mode - (mode &&& call.creationMask)

/-- Writes a file, which may be new. -/
def writing (call : Call) (files : FileTree) (operand : String) (text : List Char) :
    Option FileTree :=
  files.writeWith (call.allowed 0o666) (call.path operand) (Octets.toBytes (String.ofList text))

/-! ## 3. Options -/

/-- Goes on with the options of a call if they make sense; `status` says that they do not. -/
def withGrammar (call : Call) (grammar : Grammar) (status : Nat) (act : Options → Deed) : Deed :=
  match grammar.split call.arguments with
  | .ok options => act options
  | .error message => call.misused message status

/-! ## 4. Contents -/

/-- Why the contents of an operand cannot be read. -/
def unreadable (call : Call) (operand : String) : String :=
  let path := call.path operand
  if call.files.isDirectory path then PathTrouble.isDirectory.message
  else (call.files.trouble path).message

/-- The contents of an operand: what was read before, or a file. -/
def contents (call : Call) (operand : String) : Except String String :=
  match call.inputs.lookup operand with
  | some text => .ok text
  | none =>
    if operand = "-" then .ok ""
    else
      match call.files.read? (call.path operand) with
      | some bytes => .ok (Octets.ofBytes bytes)
      | none => .error (call.unreadable operand)

/-- A complaint about an operand. -/
def about (operand problem : String) : String := asNeeded operand ++ ": " ++ problem

/-- The operands, or the input if there are none. -/
def orInput (operands : List String) : List String := if operands = [] then ["-"] else operands

/-- The contents of all operands, and complaints about those that cannot be read. -/
def allContents (call : Call) (operands : List String) (complaint : String → String → String) :
    List (String × String) × List (Nat × String) :=
  (orInput operands).foldl (fun (found, complaints) operand =>
    match call.contents operand with
    | .ok text => (found ++ [(operand, text)], complaints)
    | .error problem =>
      (found, complaints ++ [call.complaint (complaint operand problem)])) ([], [])

/-- Prints something made of each operand by itself; `status` says that one cannot be read. -/
def eachContent (call : Call) (operands : List String) (status : Nat)
    (complaint : String → String → String) (make : String → String → String) : Deed :=
  (orInput operands).foldl (fun deed operand =>
    match call.contents operand with
    | .ok text => { deed with said := deed.said ++ [(1, make operand text)] }
    | .error problem =>
      { deed with said := deed.said ++ [call.complaint (complaint operand problem)], status })
    ⟨[], 0, call.files⟩

/-- Prints something made of the contents of all operands together; `status` says that one of
them cannot be read. -/
def filters (call : Call) (operands : List String) (status : Nat) (make : String → String) :
    Deed :=
  let (found, complaints) := call.allContents operands about
  ⟨complaints ++ [(1, make (String.join (found.map Prod.snd)))],
    if complaints = [] then 0 else status, call.files⟩

/-- The lines of a text, whether or not the last one is complete. -/
def linesBy (separator : Char) (text : String) : List (List Char) :=
  let lines := Text.splitAt separator text.toList
  if lines.getLast? = some [] then lines.dropLast else lines

/-- The lines of a text, whether or not the last one is complete. -/
def linesOf (text : String) : List (List Char) := linesBy '\n' text

/-- Lines as a text. -/
def ofLinesBy (separator : Char) (lines : List (List Char)) : String :=
  String.ofList (lines.flatMap (· ++ [separator]))

/-- Lines as a text. -/
def ofLines (lines : List (List Char)) : String := ofLinesBy '\n' lines

/-- A number with blanks in front of it. -/
def padded (width n : Nat) : String :=
  let digits := decimal n
  String.ofList (List.replicate (width - digits.length) ' ') ++ digits

end Call

end RenderSync.Shell
