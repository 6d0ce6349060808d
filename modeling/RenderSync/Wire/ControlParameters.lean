import RenderSync.Text.Blank

/-!
# Control parameters

The parameters of a control are written `key=value, key=value`.  An item counts when it holds
exactly one `=` and something before it; blanks around key and value do not matter, and a later
item with the same key wins.
-/

namespace RenderSync

/-- Parameters by key, sorted, each key once. -/
abbrev ControlParameters := List (String × String)

namespace ControlParameters

/-- Puts a parameter in the place its key sorts to; one of that key gives way. -/
def insert (key value : String) : ControlParameters → ControlParameters
  | [] => [(key, value)]
  | (k, v) :: rest =>
    if key = k then (key, value) :: rest
    else if key < k then (key, value) :: (k, v) :: rest
    else (k, v) :: insert key value rest

/-- The key and value of an item, or `none` for one that does not count. -/
def item? (text : List Char) : Option (String × String) :=
  match Text.splitAt '=' text with
  | [key, value] =>
    if Text.trim key = [] then none
    else some (String.ofList (Text.trim key), String.ofList (Text.trim value))
  | _ => none

/-- The parameters that a text writes. -/
def parse (text : String) : ControlParameters :=
  ((Text.splitAt ',' text.toList).filterMap item?).foldl
    (fun parameters item => insert item.1 item.2 parameters) []

/-- The value under a key. -/
def value? (parameters : ControlParameters) (key : String) : Option String :=
  parameters.lookup key

end ControlParameters

end RenderSync
