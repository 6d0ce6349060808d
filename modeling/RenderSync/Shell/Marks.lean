import RenderSync.Shell.Pattern

/-!
# Marks

A word that is expanded becomes marks: octets that know whether they are quoted and whether they may
separate fields, and cuts between fields.  Where nothing is to be split the marks are a text or a
pattern; elsewhere they are split into fields.
-/

namespace RenderSync.Shell

/-- A part of an expanded word. -/
inductive Mark where
  | char (c : Char) (quoted splits : Bool)
  /-- Something quoted, which may be empty. -/
  | quote
  /-- The end of a field. -/
  | cut
  /-- The end of a field unless there is nothing in it. -/
  | softCut
deriving DecidableEq, Repr, Inhabited

/-- The marks of a text. -/
def marksOf (quoted splits : Bool) (text : String) : List Mark :=
  text.toList.map fun c => .char c quoted splits

/-- The text of marks, where nothing is to be split; a blank stands for a cut. -/
def textOf (marks : List Mark) : String :=
  String.ofList (marks.filterMap fun mark =>
    match mark with
    | .char c _ _ => some c
    | .quote => none
    | .cut | .softCut => some ' ')

/-- Marks as a pattern. -/
def patternOf (marks : List Mark) : Marked :=
  marks.filterMap fun mark =>
    match mark with
    | .char c quoted _ => some (c, quoted)
    | .quote => none
    | .cut | .softCut => some (' ', true)

/-- Fields under construction: those that are complete, and the last one. -/
structure Fields where
  complete : List (List Mark)
  last : List Mark
  /-- A blank ended the field before, and one other separator may still belong to it. -/
  separated : Bool

namespace Fields

/-- Completes the last field. -/
def cut (fields : Fields) : Fields := ⟨fields.complete ++ [fields.last], [], false⟩

/-- Adds a mark; `separators` separate fields, the blanks among them in any number. -/
def add (separators : List Char) (fields : Fields) (mark : Mark) : Fields :=
  match mark with
  | .char c _ true =>
    if !separators.contains c then ⟨fields.complete, fields.last ++ [mark], false⟩
    else if c = ' ' || c = '\t' || c = '\n' then
      if fields.last = [] then fields else { fields.cut with separated := true }
    else if fields.separated && fields.last = [] then { fields with separated := false }
    else fields.cut
  | .char .. | .quote => ⟨fields.complete, fields.last ++ [mark], false⟩
  | .cut => fields.cut
  | .softCut => if fields.last = [] then fields else fields.cut

/-- The fields of marks. -/
def ofMarks (separators : List Char) (marks : List Mark) : List (List Mark) :=
  let fields := marks.foldl (add separators) ⟨[], [], false⟩
  if fields.last = [] then fields.complete else fields.complete ++ [fields.last]

end Fields

end RenderSync.Shell
