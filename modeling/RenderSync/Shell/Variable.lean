import RenderSync.Text.Digits

/-!
# Variables

A variable holds a text, or elements that have numbers or keys.  Where a variable with elements
stands for one text, that is the element of number or key zero.  Elements by number come in the
order of their numbers, elements by key in the order of a number that is made of the key.
-/

namespace RenderSync.Shell

/-- What a variable holds. -/
inductive Content where
  | nothing
  | text (value : String)
  /-- Elements by number, in ascending order. -/
  | list (items : List (Nat × String))
  /-- Elements by key, the latest first. -/
  | table (items : List (String × String))
deriving DecidableEq, Repr, Inhabited

/-- A variable. -/
structure Variable where
  content : Content
  exported : Bool
  readOnly : Bool
  /-- Letters for what becomes of values: `i` works out a sum, `l` and `u` change letters, and `n`
  says that the value is the name of the variable that is meant. -/
  traits : List Char
deriving DecidableEq, Repr, Inhabited

/-- A number in digits. -/
def decimal (n : Nat) : String := String.ofList (Digits.ofNat n)

/-- A whole number in digits, with its sign. -/
def signedDecimal (n : Int) : String := String.ofList (Digits.ofInt n)

namespace Content

/-- How many rows a table of keys has. -/
def rowCount : Nat := 1024

/-- The row of a key: its octets are mixed into a number one by one. -/
def rowOf (key : String) : Nat :=
  (key.toList.foldl (fun n c => (n * 16777619 % 4294967296) ^^^ c.toNat) 2166136261) % rowCount

/-- The one text that stands for the content. -/
def value : Content → Option String
  | nothing => none
  | text value => some value
  | list items => items.lookup 0
  | table items => items.lookup "0"

/-- All elements with their keys, in order. -/
def pairs : Content → List (String × String)
  | nothing => []
  | text value => [("0", value)]
  | list items => items.map fun (n, value) => (decimal n, value)
  | table items => items.mergeSort fun a b => rowOf a.1 ≤ rowOf b.1

/-- The element of a key. -/
def element? (key : String) : Content → Option String
  | nothing => none
  | text value => if key = "0" then some value else none
  | list items => (Digits.toNat? 10 key.toList).bind (List.lookup · items)
  | table items => items.lookup key

/-- The number behind the last element. -/
def bound : Content → Nat
  | nothing => 0
  | text _ => 1
  | list items => ((items.getLast?).map fun item => item.1 + 1).getD 0
  | table items => items.length

/-- Elements with a value under a number. -/
def insertAt (n : Nat) (value : String) : List (Nat × String) → List (Nat × String)
  | [] => [(n, value)]
  | item :: rest =>
    if item.1 < n then item :: insertAt n value rest
    else if item.1 = n then (n, value) :: rest
    else (n, value) :: item :: rest

/-- The content as elements by number. -/
def asList : Content → List (Nat × String)
  | nothing | table _ => []
  | text value => [(0, value)]
  | list items => items

/-- The content with a value under a key; a key that is no number belongs to a table only. -/
def put (key value : String) (content : Content) : Content :=
  match content with
  | table items =>
    if (items.lookup key).isSome then
      table (items.map fun item => if item.1 = key then (key, value) else item)
    else table ((key, value) :: items)
  | other => list (insertAt ((Digits.toNat? 10 key.toList).getD 0) value other.asList)

/-- The content with one text as its value. -/
def set (value : String) : Content → Content
  | nothing | text _ => text value
  | content => content.put "0" value

/-- A table with more elements; where no key is given, keys and values take turns. -/
def elementsPut : (pending : Option String) → List (Option String × String) → Content → Content
  | none, [], content => content
  | some key, [], content => content.put key ""
  | pending, (some key, value) :: rest, content => elementsPut pending rest (content.put key value)
  | some key, (none, value) :: rest, content => elementsPut none rest (content.put key value)
  | none, (none, key) :: rest, content => elementsPut (some key) rest content

/-- `elementsPut` with the content in front. -/
def putAll (content : Content) (pending : Option String) (items : List (Option String × String)) :
    Content := elementsPut pending items content

/-- The content without the element of a key. -/
def erase (key : String) : Content → Content
  | nothing => nothing
  | text value => if key = "0" then nothing else text value
  | list items => list (items.filter fun item => decimal item.1 ≠ key)
  | table items => table (items.filter fun item => item.1 ≠ key)

/-- The content holds elements. -/
def hasElements : Content → Bool
  | list _ | table _ => true
  | nothing | text _ => false

/-- The content is a table. -/
def isTable : Content → Bool
  | table _ => true
  | _ => false

end Content

namespace Variable

/-- A variable with a text. -/
def ofText (value : String) : Variable := ⟨.text value, false, false, []⟩

/-- The same variable, handed on to programs. -/
def handedOn (entry : Variable) : Variable := { entry with exported := true }

/-- The one text that stands for the variable. -/
def value (entry : Variable) : Option String := entry.content.value

/-- The variable has a property. -/
def has (entry : Variable) (trait : Char) : Bool := entry.traits.contains trait

end Variable

end RenderSync.Shell
