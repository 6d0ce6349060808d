import RenderSync.Library.Probe
import RenderSync.Uniforms.Written

/-!
# Recorders and journals

A recorder stands for a library where only what it is asked matters.  Any file is one, unless its
contents start with `bad`; one whose contents start with `basic` does not know about object
instances.  It draws the number of a pixel and the size of the frame into every pixel but the
first.

A journal is what happened to libraries, as values: a row per event that starts with its name.  A
recorder shows what it was asked; of a probe only the loading shows, for it keeps the rest in its
registers.
-/

namespace RenderSync

open BinaryFloat

/-! ## 1. Recorders -/

/-- A library that is known by the contents of its file. -/
structure Recorder where
  name : String
  takesInstances : Bool
deriving DecidableEq, Repr, Inhabited

namespace Recorder

/-- The name of the recorder in a file: all that is in it, or nothing if that is no text. -/
def nameOf (content : Content) : String := (Utf8.toString? content.bytes).getD ""

/-- The recorder in a file. -/
def load (content : Content) : Except LibraryError Recorder :=
  let name := nameOf content
  if "bad".toList.isPrefixOf name.toList then .error .notLoadable
  else .ok ⟨name, !"basic".toList.isPrefixOf name.toList⟩

/-- What a recorder draws. -/
def draw (width height : UInt32) (frame : Frame) : Frame :=
  { frame with
    pixel := fun place =>
      if place = 0 then frame.pixel 0
      else #v[.ofNat place, .ofNat width.toNat, .ofNat height.toNat, .ofNat 1] }

/-- Files as recorders. -/
def loader : LibraryLoader Recorder where
  load := load
  takesInstances := Recorder.takesInstances
  receive _ recorder := recorder
  draw width height _ _ := draw width height

end Recorder

/-! ## 2. Journals -/

namespace Journal

/-- A row. -/
def row (name : String) (entries : List Json) : Json := .array (.string name :: entries)

/-- A row with dimensions. -/
def sized (name : String) (width height : UInt32) (entries : List Json) : Json :=
  row name (Json.nat width.toNat :: Json.nat height.toNat :: entries)

end Journal

/-- A call as a row; of an object instance the first entry of its transform is shown. -/
def LibraryCall.toJson : LibraryCall → Json
  | setUp w h => Journal.sized "init" w h []
  | update w h preview => Journal.sized "update" w h [.bool preview]
  | render w h preview size => Journal.sized "render" w h [.bool preview, Json.nat size]
  | viewportSetUp w h => Journal.sized "viewport_init" w h []
  | viewportUpdate w h => Journal.sized "viewport_update" w h []
  | viewportRender w h => Journal.sized "viewport_render" w h []
  | programs sources => Journal.row "programs" [.array (sources.map ShaderSource.toJson)]
  | uniformValues values => Journal.row "uniforms" [.array (values.map UniformValue.toJson)]
  | objectInstances list =>
    Journal.row "instances"
      [.array (list.map fun instance_ => (instance_.transform.headD .zero).toJson)]

/-- What a recorder shows of an event. -/
def Recorder.entry? : LibraryEvent Recorder → Option Json
  | .tried copy content _ =>
    some (Journal.row "load"
      [.string (copy.fileName?.getD ""), .string (Recorder.nameOf content)])
  | .received call => some call.toJson
  | .dropped recorder => some (Journal.row "dropped" [.string recorder.name])

/-- Why a file could not be loaded, as a value. -/
def LibraryError.toJson : LibraryError → Json
  | notLoadable => .object [("error", .string "Load")]
  | missingSymbol name => .object [("error", .string "MissingSymbol"), ("message", .string name)]

/-- What is shown of an event that a probe is part of. -/
def Probe.entry? : LibraryEvent Probe → Option Json
  | .tried _ _ (.ok _) => some (Journal.row "load" [.string "ok"])
  | .tried _ _ (.error e) => some (Journal.row "load" [e.toJson])
  | _ => none

/-- A frame as a value: its size and its first sixteen pixels. -/
def Frame.toJson (frame : Frame) : Json :=
  .object [("len", Json.nat frame.size),
    ("first16", .array ((frame.first 16).map fun pixel => Single.listToJson pixel.toList))]

end RenderSync
