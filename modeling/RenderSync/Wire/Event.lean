import RenderSync.Wire.ShaderSet

/-!
# Events

What the build server reports.  An event travels as a frame, a JSON object whose field `event`
names its kind; the other fields are the payload, which every kind reads for itself.
-/

namespace RenderSync

/-- The kinds of event. -/
inductive EventKind where
  | buildStarted
  | buildEnded
  | libraryCompiled
  | executableCompiled
  | exported
  | runFinished
  | error
  | shaderSetProvided
deriving DecidableEq, Repr, Inhabited

namespace EventKind

/-- The name of a kind in a frame. -/
def name : EventKind → String
  | buildStarted => "build-started"
  | buildEnded => "build-ended"
  | libraryCompiled => "library-compiled"
  | executableCompiled => "executable-compiled"
  | exported => "exported"
  | runFinished => "run"
  | error => "error"
  | shaderSetProvided => "shader-set-provided"

/-- Every kind. -/
def all : List EventKind :=
  [buildStarted, buildEnded, libraryCompiled, executableCompiled, exported, runFinished, error,
    shaderSetProvided]

/-- The kind of a name. -/
def ofName? (name : String) : Option EventKind := all.find? fun kind => kind.name == name

end EventKind

/-- An event with its payload. -/
inductive Event where
  | buildStarted (target : BuildTarget)
  /-- The duration in seconds is missing when the build failed before it was measured. -/
  | buildEnded (target : BuildTarget) (successful : Bool) (duration : Option BinaryFloat.Double)
  | libraryCompiled (path : String)
  | executableCompiled (path : String) (size : UInt64)
  | exported (path : String)
  | runFinished (duration : BinaryFloat.Double)
  | error (message : String)
  | shaderSetProvided (set : ShaderSet)
deriving DecidableEq, Repr, Inhabited

namespace Event

/-- The kind of an event. -/
def kind : Event → EventKind
  | buildStarted .. => .buildStarted
  | buildEnded .. => .buildEnded
  | libraryCompiled .. => .libraryCompiled
  | executableCompiled .. => .executableCompiled
  | exported .. => .exported
  | runFinished .. => .runFinished
  | error .. => .error
  | shaderSetProvided .. => .shaderSetProvided

/-! ## 1. Writing -/

/-- The fields of an event besides its name. -/
def fields : Event → List (String × Json)
  | buildStarted target => [("target", target.toJson)]
  | buildEnded target successful duration =>
    [("target", target.toJson), ("successful", .bool successful),
      ("duration", Json.ofOption Json.ofDouble duration)]
  | libraryCompiled path => [("path", .string path)]
  | executableCompiled path size => [("path", .string path), ("size", Json.nat size.toNat)]
  | exported path => [("path", .string path)]
  | runFinished duration => [("duration", Json.ofDouble duration)]
  | error message => [("message", .string message)]
  | shaderSetProvided set => set.fields

/-- The frame of an event, the fields of all objects in it sorted. -/
def frame (event : Event) : Json :=
  (Json.object (event.fields ++ [("event", .string event.kind.name)])).sorted

/-! ## 2. Reading -/

/-- The event of a kind whose payload a value holds. -/
def ofJson? : EventKind → Json → Option Event
  | .buildStarted, value => do
    match ← Json.record? [["target"]] value with
    | [target] => return buildStarted (← Json.required BuildTarget.ofJson? target)
    | _ => none
  | .buildEnded, value => do
    match ← Json.record? [["target"], ["successful"], ["duration"]] value with
    | [target, successful, duration] =>
      return buildEnded (← Json.required BuildTarget.ofJson? target)
        (← Json.required Json.bool? successful)
        (← Json.defaulted none (Json.optional? Json.double?) duration)
    | _ => none
  | .libraryCompiled, value => do
    match ← Json.record? [["path"]] value with
    | [path] => return libraryCompiled (← Json.required Json.string? path)
    | _ => none
  | .executableCompiled, value => do
    match ← Json.record? [["path"], ["size"]] value with
    | [path, size] =>
      return executableCompiled (← Json.required Json.string? path)
        (← Json.required Json.word64? size)
    | _ => none
  | .exported, value => do
    match ← Json.record? [["path"]] value with
    | [path] => return exported (← Json.required Json.string? path)
    | _ => none
  | .runFinished, value => do
    match ← Json.record? [["duration"]] value with
    | [duration] => return runFinished (← Json.required Json.double? duration)
    | _ => none
  | .error, value => do
    match ← Json.record? [["message"]] value with
    | [message] => return error (← Json.required Json.string? message)
    | _ => none
  | .shaderSetProvided, value => (ShaderSet.ofJson? value).map shaderSetProvided

/-- The shape of the text of a kind's payload. -/
def shape : EventKind → Json.Shape
  | .buildStarted => .record [(["target"], true, .choice (BuildTarget.names.map Prod.fst))]
  | .buildEnded =>
    .record
      [(["target"], true, .choice (BuildTarget.names.map Prod.fst)),
        (["successful"], true, .bool), (["duration"], false, .optional .double)]
  | .libraryCompiled => .record [(["path"], true, .string)]
  | .executableCompiled =>
    .record [(["path"], true, .string), (["size"], true, .natBelow (Nat.pow 2 64))]
  | .exported => .record [(["path"], true, .string)]
  | .runFinished => .record [(["duration"], true, .double)]
  | .error => .record [(["message"], true, .string)]
  | .shaderSetProvided => ShaderSet.shape

/-- The event of a kind whose payload a text holds. -/
def ofOctets (kind : EventKind) (octets : List UInt8) : Except Json.Fault Event :=
  (shape kind).decode (ofJson? kind) octets

end Event

end RenderSync
