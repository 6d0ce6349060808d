import RenderSync.Notifications
import RenderSync.Wire.Build

/-!
# Build spans

Builds of the two targets may overlap and nest.  While any is outstanding, one notification says
so: it comes with the first start and goes with the last end, and in between it stays the same.

The counts are words of thirty-two bits, and so is their sum: behind the largest one comes zero
again.
-/

namespace RenderSync

/-- How many builds of each target are outstanding, and the notification that says so. -/
structure BuildSpans where
  library : UInt32
  executable : UInt32
  indicator : Option Nat
deriving DecidableEq, Repr, Inhabited

namespace BuildSpans

/-- What the notification says. -/
def message : String := "Building..."

/-- No build yet. -/
def none : BuildSpans := ⟨0, 0, .none⟩

/-- How many builds of a target are outstanding. -/
def outstanding (spans : BuildSpans) : BuildTarget → UInt32
  | .library => spans.library
  | .executable => spans.executable

/-- How many builds are outstanding. -/
def total (spans : BuildSpans) : UInt32 := spans.library + spans.executable

/-- Whether any build is outstanding. -/
def isBuilding (spans : BuildSpans) : Bool := 0 < spans.total

/-- The counts as a value. -/
def toJson (spans : BuildSpans) : Json :=
  .object [("library", Json.nat spans.library.toNat),
    ("executable", Json.nat spans.executable.toNat), ("total", Json.nat spans.total.toNat),
    ("building", .bool spans.isBuilding)]

/-- Sets the count of a target. -/
def withCount (spans : BuildSpans) (count : UInt32) : BuildTarget → BuildSpans
  | .library => { spans with library := count }
  | .executable => { spans with executable := count }

/-- A build has started. -/
def started (now : Moment) (target : BuildTarget) (spans : BuildSpans)
    (notifications : Notifications) : BuildSpans × Notifications :=
  let counted := spans.withCount (spans.outstanding target + 1) target
  if spans.total = 0 then
    let (number, notifications) := notifications.add now message .none
    ({ counted with indicator := number }, notifications)
  else (counted, notifications)

/-- A build has ended; answers whether one of that target was outstanding.  An end without a
start changes nothing. -/
def ended (target : BuildTarget) (spans : BuildSpans) (notifications : Notifications) :
    Bool × BuildSpans × Notifications :=
  if spans.outstanding target = 0 then (false, spans, notifications)
  else
    let counted := spans.withCount (spans.outstanding target - 1) target
    if counted.total = 0 then
      match counted.indicator with
      | .none => (true, counted, notifications)
      | some number =>
        (true, { counted with indicator := .none }, (notifications.remove number).2)
    else (true, counted, notifications)

@[simp] theorem outstanding_withCount (spans : BuildSpans) (count : UInt32) (a b : BuildTarget) :
    (spans.withCount count a).outstanding b = if b = a then count else spans.outstanding b := by
  cases a <;> cases b <;> rfl

@[simp] theorem withCount_indicator (spans : BuildSpans) (count : UInt32) (target : BuildTarget) :
    (spans.withCount count target).indicator = spans.indicator := by
  cases target <;> rfl

/-- The notification does not count. -/
@[simp] theorem outstanding_setIndicator (spans : BuildSpans) (indicator : Option Nat)
    (target : BuildTarget) :
    ({ spans with indicator := indicator } : BuildSpans).outstanding target =
      spans.outstanding target := by
  cases target <;> rfl

end BuildSpans

end RenderSync
