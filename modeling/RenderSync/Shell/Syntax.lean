/-!
# Scripts of the shell

What a script is made of: words, and statements that are made of words.  A word is a list of
fragments that stand side by side; what is quoted in it stays one field when the word is expanded
and means nothing to patterns.  A word may hold a script, so words and statements are defined
together.
-/

namespace RenderSync.Shell

/-- Where a redirection leads. -/
inductive Direction where
  | read
  | write
  /-- Written even if files are to be spared. -/
  | force
  | append
  | both
  /-- To where another descriptor leads, or nowhere. -/
  | duplicate
  /-- To a document that the script holds, by its place among them. -/
  | document (place : Nat)
  /-- To a text. -/
  | text
deriving DecidableEq, Repr, Inhabited

/-- What takes the place of a parameter. -/
inductive Choice where
  /-- A word instead of a parameter that is missing. -/
  | default
  /-- The same, and the parameter gets it as its value. -/
  | assign
  /-- A parameter that is missing is an error. -/
  | demand
  /-- A word instead of a parameter that is not missing. -/
  | alternative
deriving DecidableEq, Repr, Inhabited

/-- Which matches of a pattern are replaced. -/
inductive Spot where
  | first
  | every
  | front
  | back
deriving DecidableEq, Repr, Inhabited

mutual

/-- A piece of a word. -/
inductive Fragment where
  | literal (text : List Char) (quoted : Bool)
  | parameter (name : String) (use : Use) (quoted : Bool)
  /-- An element of a variable, or all of them. -/
  | element (name : String) (index : List Fragment) (use : Use) (quoted : Bool)
  | arithmetic (expression : List Fragment) (quoted : Bool)
  | command (script : List Statement) (quoted : Bool)
  /-- A path that leads to what a script writes or, if `reads` says so, to what it reads. -/
  | conduit (reads : Bool) (script : List Statement)
  /-- The front of a word that sets an element, up to the sign for that. -/
  | target (name : String) (index : List Fragment) (appends : Bool)
  /-- Elements for a variable, with their keys; an empty word is no key. -/
  | elements (items : List (List Fragment × List Fragment))

/-- What is made of a parameter. -/
inductive Use where
  | value
  | length
  /-- An empty value counts as missing if `orEmpty` says so. -/
  | choose (choice : Choice) (orEmpty : Bool) (word : List Fragment)
  /-- Without what a pattern matches at one end. -/
  | trim (suffix longest : Bool) (pattern : List Fragment)
  /-- A part from a place on; as long as a sum says if `bounded`. -/
  | slice (start : List Fragment) (bounded : Bool) (length : List Fragment)
  /-- With something else for what a pattern matches. -/
  | replace (spot : Spot) (pattern word : List Fragment)
  /-- With large or small letters for those that a pattern matches. -/
  | recase (upper every : Bool) (pattern : List Fragment)
  /-- Written in another way, which goes by a letter. -/
  | transform (letter : Char)
  /-- The keys of elements. -/
  | keys
  /-- The names of variables that begin like this. -/
  | names
  /-- The same of the parameter that the value names. -/
  | indirect (use : Use)
  /-- Nothing that could be made of one. -/
  | bad

/-- A redirection of a descriptor. -/
inductive Redirect where
  | mk (descriptor : Nat) (direction : Direction) (target : List Fragment)

/-- What a statement between double brackets asks. -/
inductive Check where
  | one (name : String) (word : List Fragment)
  | two (name : String) (left right : List Fragment)
  | not (check : Check)
  | all (first second : Check)
  | any (first second : Check)

/-- A statement. -/
inductive Statement where
  /-- Words that are assignments come first. -/
  | simple (line : Nat) (assignments words : List (List Fragment)) (redirects : List Redirect)
  | both (first second : Statement)
  | either (first second : Statement)
  | negated (statement : Statement)
  | pipeline (stages : List Statement)
  /-- `until_` turns the condition round. -/
  | loop (until_ : Bool) (condition body : List Statement)
  | branch (condition yes no : List Statement)
  | each (name : String) (words : List (List Fragment)) (body : List Statement)
  | select (word : List Fragment) (cases : List (List (List Fragment) × List Statement))
  /-- Succeeds if a condition holds. -/
  | check (line : Nat) (check : Check)
  /-- Succeeds if a sum is not zero. -/
  | sum (line : Nat) (expression : List Fragment)
  /-- A loop over sums: one at the start, one that has to hold, and one behind every round. -/
  | count (line : Nat) (start condition step : List Fragment) (body : List Statement)
  | group (body : List Statement)
  /-- What happens inside stays inside. -/
  | subshell (body : List Statement)
  /-- Goes on by itself while the script goes on, too. -/
  | background (statement : Statement)
  | redirected (line : Nat) (statement : Statement) (redirects : List Redirect)
  | define (name : String) (body : Statement)

end

/-- Fragments side by side. -/
abbrev Word := List Fragment

instance : Inhabited Fragment := ⟨.literal [] false⟩

instance : Inhabited Redirect := ⟨.mk 0 .read []⟩

instance : Inhabited Statement := ⟨.group []⟩

/-- The text of a word that is nothing but unquoted text. -/
def plain? : Word → Option String
  | [.literal text false] => some (String.ofList text)
  | _ => none

/-- An assignment. -/
structure Assignment where
  name : String
  /-- What says which element is set. -/
  index : Option Word
  /-- The value is put behind the one that there is. -/
  appends : Bool
  value : Word
deriving Inhabited

/-- The characters of a word that nothing is to be put into; whether any of them is quoted. -/
def verbatim (word : Word) : List Char × Bool :=
  word.foldl (fun (text, quoted) fragment =>
    match fragment with
    | .literal piece q => (text ++ piece, quoted || q)
    | .parameter name _ q => (text ++ '$' :: name.toList, quoted || q)
    | _ => (text, quoted)) ([], false)

end RenderSync.Shell
