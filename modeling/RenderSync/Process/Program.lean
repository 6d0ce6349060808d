import RenderSync.Files.Tree

/-!
# Program files

A file that may be run is a program of the system, or a script whose first line names an
interpreter; any other file has to be told how to run.  Of the first line no more counts than what
the system looks at: a line that goes on behind that must at least have a blank behind the name of
the interpreter.
-/

namespace RenderSync.Program

/-- How much of a file the system looks at. -/
def headSize : Nat := 256

/-- What is found where a program is looked for. -/
inductive Kind where
  | system (name : String)
  /-- A script with an interpreter and what follows that on the line. -/
  | script (interpreter : List UInt8) (argument : Option (List UInt8))
  | plain
  /-- Something that may not be run. -/
  | denied
  | missing
deriving DecidableEq, Repr

/-- A blank on the first line of a script. -/
def isBlank (b : UInt8) : Bool := b = 32 || b = 9

/-- Octets without blanks at both ends. -/
def trim (line : List UInt8) : List UInt8 :=
  ((line.dropWhile isBlank).reverse.dropWhile isBlank).reverse

/-- What the first line of a script asks for; `none` if it names nothing.  NUL ends what it says. -/
def interpreter? (bytes : List UInt8) : Option Kind :=
  match bytes with
  | 0x23 :: 0x21 :: _ =>
    let head := bytes.take headSize ++ List.replicate (headSize - bytes.length) 0
    let (line, rest) := head.span fun b => b ≠ 10 && b ≠ 0
    let isWhole := rest.head? = some 10
    let line := trim ((if isWhole then line else head.dropLast).drop 2)
    let hasEnd := ((head.drop 2).dropWhile isBlank).any fun b => isBlank b || b = 0
    let (interpreter, rest) := line.span fun b => !isBlank b && b ≠ 0
    let argument := if rest.head? = some 0 then [] else (trim rest).takeWhile (· ≠ 0)
    if line = [] || !(isWhole || hasEnd) then none
    else some (.script interpreter (if argument = [] then none else some argument))
  | _ => none

/-- What is in a file that may be run. -/
def kindOf : Content → Kind
  | .image name => .system name
  | .octets bytes => (interpreter? bytes).getD .plain

/-- What a path leads to. -/
def find (files : FileTree) (path : Path) : Kind :=
  match files.find? path with
  | some (.file mode content) => if mode &&& 0o111 ≠ 0 then kindOf content else .denied
  | some _ => .denied
  | none => .missing

/-- A file that may be run is at a path. -/
def isExecutable (files : FileTree) (path : Path) : Bool :=
  match find files path with
  | .denied | .missing => false
  | _ => true

end RenderSync.Program
