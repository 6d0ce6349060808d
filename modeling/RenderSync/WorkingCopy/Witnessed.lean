import RenderSync.WorkingCopy
import RenderSync.Json.Basic

/-!
# Witnessed copies

A user of working copies who only keeps a record of what happens to them, and who fails as told.
-/

namespace RenderSync

/-- What happened to a copy. -/
inductive CopyEvent where
  /-- It was put to use, with these contents if it could be read. -/
  | opened (copy : Path) (contents : Option (List UInt8))
  | openFailed
  | closed
  | closeFailed
deriving DecidableEq, Repr, Inhabited

/-- An event as a value: its name, and what is to be said about it. -/
def CopyEvent.toJson : CopyEvent → Json
  | opened copy contents =>
    .array [.string "opened", .string copy.text,
      Json.ofOption (fun bytes => .string (Utf8.toStringLossy bytes)) contents]
  | openFailed => .array [.string "open failed"]
  | closed => .array [.string "closed"]
  | closeFailed => .array [.string "close failed"]

/-- A user who keeps a record. -/
structure CopyWitness where
  failsToOpen : Bool
  failsToClose : Bool
  /-- What happened, oldest first. -/
  events : List CopyEvent
deriving Inhabited

namespace CopyWitness

/-- Nothing happened yet, and nothing will fail. -/
def start : CopyWitness := ⟨false, false, []⟩

/-- Adds to the record. -/
def note (witness : CopyWitness) (event : CopyEvent) : CopyWitness :=
  { witness with events := witness.events ++ [event] }

/-- What using a copy means to a witness. -/
def use : CopyUse CopyWitness where
  opened files copy witness :=
    if witness.failsToOpen then (false, witness.note .openFailed)
    else (true, witness.note (.opened copy (files.read? copy)))
  closed _ witness :=
    if witness.failsToClose then (false, witness.note .closeFailed)
    else (true, witness.note .closed)

end CopyWitness

end RenderSync
