/-!
# Substitution

Every occurrence of a text gives way to another one, from the left; what was put in is not looked
at again.  Several substitutions are made one after the other.
-/

namespace RenderSync.Text

/-- Replaces a text, unless it is empty. -/
def replaceAll (needle new : List Char) : List Char → List Char
  | [] => []
  | c :: rest =>
    if needle ≠ [] ∧ needle.isPrefixOf (c :: rest) then
      new ++ replaceAll needle new (rest.drop (needle.length - 1))
    else c :: replaceAll needle new rest
termination_by cs => cs.length

/-- Makes substitutions, the first one first. -/
def substitute (pairs : List (String × String)) (text : String) : String :=
  pairs.foldl (fun text (needle, new) =>
    String.ofList (replaceAll needle.toList new.toList text.toList)) text

/-- A text is somewhere in another one. -/
def isIn (needle : List Char) : List Char → Bool
  | [] => needle.isEmpty
  | c :: rest => needle.isPrefixOf (c :: rest) || isIn needle rest

end RenderSync.Text
