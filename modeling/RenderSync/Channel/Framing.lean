import RenderSync.Json.Reader
import RenderSync.Text.Blank

/-!
# Framing

Frames travel as lines of JSON.  Bytes arrive cut anywhere; a line counts once its end is there.
A line is read leniently as UTF-8 and blanks around it do not matter; a line without text, or one
that is no JSON, is no frame.
-/

namespace RenderSync.Framing

/-- The byte at the end of a line. -/
def lineEnd : UInt8 := 10

/-- The complete lines of a stretch of bytes, and the beginning of the next one. -/
def lines : List UInt8 → List (List UInt8) × List UInt8
  | [] => ([], [])
  | byte :: rest =>
    let (complete, begun) := lines rest
    if byte = lineEnd then ([] :: complete, begun)
    else
      match complete with
      | [] => ([], byte :: begun)
      | line :: others => ((byte :: line) :: others, begun)

/-- The frame in a line. -/
def frame? (line : List UInt8) : Option Json :=
  match Text.trim (Utf8.decodeLossy line) with
  | [] => none
  | text => Json.parse? text

/-- The frames that become complete when bytes arrive behind those that wait, and the bytes that
wait from then on. -/
def feed (pending arrived : List UInt8) : List Json × List UInt8 :=
  let (complete, begun) := lines (pending ++ arrived)
  (complete.filterMap frame?, begun)

/-- The bytes of a frame. -/
def bytes (text : String) : List UInt8 := Utf8.ofString text ++ [lineEnd]

end RenderSync.Framing
