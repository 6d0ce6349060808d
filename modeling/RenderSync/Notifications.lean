import RenderSync.Json.Basic

/-!
# Notifications

Messages for the user, in the order they were added, some of them with an end.  An ended message
is dropped at the next addition or listing, whichever comes first; since both drop everything that
has ended, nobody can tell when it happened.  Every change is announced once as a redraw.

Moments are counted in nanoseconds from an arbitrary origin.  The clock holds `clockEnd` of them:
a lifetime that leads beyond has no end, and the addition fails.
-/

namespace RenderSync

/-- A moment, in nanoseconds. -/
abbrev Moment := Nat

/-- Nanoseconds in a second. -/
def second : Nat := Nat.pow 10 9

/-- The first moment that the clock cannot hold: its seconds are signed words. -/
def clockEnd : Moment := Nat.pow 2 63 * second

/-- A length of time: whole seconds, and nanoseconds that do not make up another one. -/
structure Duration where
  seconds : UInt64
  nanoseconds : Fin second
deriving DecidableEq, Repr

namespace Duration

/-- Whole seconds. -/
def ofSeconds (seconds : UInt64) : Duration := ⟨seconds, 0, by decide⟩

instance : Inhabited Duration := ⟨ofSeconds 0⟩

/-- All of it in nanoseconds. -/
def total (duration : Duration) : Nat := duration.seconds.toNat * second + duration.nanoseconds.val

end Duration

/-- A message shown to the user. -/
structure Notification where
  number : Nat
  message : String
  endsAt : Option Moment
deriving DecidableEq, Repr, Inhabited

namespace Notification

/-- A notification as a row: its number, what it says, and whether it ends by itself. -/
def toJson (notification : Notification) : Json :=
  .array [Json.nat notification.number, .string notification.message,
    .bool notification.endsAt.isSome]

/-- The message has ended. -/
def isOver (notification : Notification) (now : Moment) : Bool :=
  match notification.endsAt with
  | none => false
  | some moment => moment ≤ now

end Notification

/-- The messages, and how often a redraw was announced. -/
structure Notifications where
  entries : List Notification
  next : Nat
  /-- Lifetime of messages that do not say theirs. -/
  lifetime : Duration
  redraws : Nat
deriving Repr, Inhabited

namespace Notifications

/-- No message yet. -/
def empty (lifetime : Duration) : Notifications := ⟨[], 0, lifetime, 0⟩

/-- The moment a lifetime ends that begins now, if the clock can hold it. -/
def endOf? (now : Moment) (lifetime : Duration) : Option Moment :=
  if now + lifetime.total < clockEnd then some (now + lifetime.total) else none

/-- Drops what has ended. -/
def pruned (notifications : Notifications) (now : Moment) : Notifications :=
  { notifications with entries := notifications.entries.filter fun n => !n.isOver now }

/-- Adds a message behind the others and answers its number; `none` if the clock cannot hold its
end, and then the message is not there. -/
def add (now : Moment) (message : String) (lifetime : Option Duration)
    (notifications : Notifications) : Option Nat × Notifications :=
  let number := notifications.next
  let notifications := { notifications.pruned now with next := number + 1 }
  let put (endsAt : Option Moment) : Option Nat × Notifications :=
    (some number,
      { notifications with
        entries := notifications.entries ++ [⟨number, message, endsAt⟩]
        redraws := notifications.redraws + 1 })
  match lifetime with
  | none => put none
  | some lifetime =>
    match endOf? now lifetime with
    | some moment => put (some moment)
    | none => (none, notifications)

/-- Adds a message with the lifetime of messages that do not say theirs. -/
def addTimed (now : Moment) (message : String) (notifications : Notifications) :
    Option Nat × Notifications :=
  notifications.add now message (some notifications.lifetime)

/-- Removes a message; answers whether it was there. -/
def remove (number : Nat) (notifications : Notifications) : Bool × Notifications :=
  if notifications.entries.any (·.number == number) then
    (true,
      { notifications with
        entries := notifications.entries.filter (·.number != number)
        redraws := notifications.redraws + 1 })
  else (false, notifications)

/-- The messages that have not ended, oldest first. -/
def list (now : Moment) (notifications : Notifications) : List Notification × Notifications :=
  let after := notifications.pruned now
  (after.entries,
    if notifications.entries.any (·.isOver now) then
      { after with redraws := after.redraws + 1 }
    else after)

/-- The texts of the messages that have not ended. -/
def messages (now : Moment) (notifications : Notifications) : List String × Notifications :=
  let (live, notifications) := notifications.list now
  (live.map Notification.message, notifications)

/-- Whether a message with that text has not ended. -/
def contains (now : Moment) (message : String) (notifications : Notifications) :
    Bool × Notifications :=
  let (live, notifications) := notifications.list now
  (live.any (·.message == message), notifications)

@[simp] theorem pruned_entries (notifications : Notifications) (now : Moment) :
    (notifications.pruned now).entries = notifications.entries.filter fun n => !n.isOver now := rfl

/-- What a listing answers is what it leaves behind. -/
theorem list_entries (notifications : Notifications) (now : Moment) :
    (notifications.list now).2.entries = (notifications.list now).1 := by
  unfold list
  dsimp only
  split <;> rfl

end Notifications

end RenderSync
