import RenderSync.Text.Blank

/-!
# Paths

A path is a text, and `Path.same` compares paths by their components: slashes may be repeated, a
component `.` counts only in front of a relative path, and a slash at the end changes nothing.  The
text itself is kept, because it is what is shown and what is looked up: behind the name of a file a
slash does matter there.
-/

namespace RenderSync

/-- A path as it was written. -/
structure Path where
  text : String
deriving DecidableEq, Repr, Inhabited

namespace Path

/-- A step along a path. -/
inductive Component where
  | root
  | current
  | parent
  | name (text : String)
deriving DecidableEq, Repr, Inhabited

/-- The pieces between the slashes. -/
def pieces (path : Path) : List String :=
  (Text.splitAt '/' path.text.toList).map String.ofList

/-- The step that a piece stands for behind the first; empty pieces and `.` stand for none. -/
def step? (piece : String) : Option Component :=
  if piece = "" || piece = "." then none
  else if piece = ".." then some .parent
  else some (.name piece)

/-- The components of a path. -/
def components (path : Path) : List Component :=
  match path.pieces with
  | "" :: "" :: rest => .root :: rest.filterMap step?
  | "" :: rest => if rest = [] then [] else .root :: rest.filterMap step?
  | "." :: rest => .current :: rest.filterMap step?
  | pieces => pieces.filterMap step?

/-- Whether two paths have the same components. -/
def same (a b : Path) : Bool := a.components == b.components

/-- `same`, also for a path that may be missing. -/
def sameOption : Option Path → Option Path → Bool
  | none, none => true
  | some a, some b => a.same b
  | _, _ => false

@[simp] theorem same_refl (path : Path) : path.same path = true := beq_self_eq_true _

@[simp] theorem sameOption_refl (path : Option Path) : sameOption path path = true := by
  cases path with
  | none => rfl
  | some path => exact path.same_refl

/-- The path starts at the root. -/
def isAbsolute (path : Path) : Bool := path.text.toList.head? = some '/'

/-- The name at the end; `.`, `..` and the root are no names. -/
def fileName? (path : Path) : Option String :=
  match path.components.getLast? with
  | some (.name text) => some text
  | _ => none

/-- `path` inside the directory `base`, unless it starts at the root. -/
def join (base path : Path) : Path :=
  if path.isAbsolute || base.text = "" then path
  else if base.text.toList.getLast? = some '/' then ⟨base.text ++ path.text⟩
  else ⟨base.text ++ "/" ++ path.text⟩

/-- Cuts slashes and pieces `.` at the end, where they change nothing. -/
def trimmed (reversed : List Char) : List Char :=
  match reversed with
  | [] => []
  | ['/'] => ['/']
  | '/' :: rest => trimmed rest
  | '.' :: '/' :: rest => trimmed ('/' :: rest)
  | rest => rest

/-- The path without its last component; neither the root nor the empty path has one. -/
def parent? (path : Path) : Option Path :=
  match path.components.getLast? with
  | none | some .root => none
  | some _ =>
    let body := trimmed path.text.toList.reverse
    let above := body.dropWhile (· ≠ '/')
    some ⟨String.ofList (trimmed above).reverse⟩

/-- A name up to its last dot; a dot in front does not count. -/
def stem (name : String) : String :=
  match name.toList.reverse.dropWhile (· ≠ '.') with
  | [] | ['.'] => name
  | '.' :: rest => String.ofList rest.reverse
  | _ => name

/-- The same path with another extension at the end of its name; unchanged if it has no name. -/
def withExtension (path : Path) (extension : String) : Path :=
  match path.fileName? with
  | none => path
  | some name =>
    let body := trimmed path.text.toList.reverse
    let above := (body.dropWhile (· ≠ '/')).reverse
    ⟨String.ofList above ++ stem name ++ "." ++ extension⟩

end Path

end RenderSync
