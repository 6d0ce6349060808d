import RenderSync.Text.Utf8

/-!
# Text for terminals

Between the characters that a terminal shows there may be control characters, and sequences that
tell it how to show what follows: `ESC [ 1 m` makes it bold.  `plain` is the text for a place that
is no terminal: printable characters and blanks are left, the rest is gone.

Most sequences end with a letter.  Some hold a string, which ends with an octet of its own; one that
never ends hides everything up to the next sequence, since `ESC` begins a sequence wherever it
stands.
-/

namespace RenderSync.Terminal

/-! ## 1. Sequences -/

/-- Where in a sequence the next octet stands. -/
inductive State where
  /-- In no sequence. -/
  | ground
  /-- Behind `ESC`. -/
  | escape
  /-- Behind `ESC` and octets that only say more about its letter. -/
  | escapeMore
  /-- Behind `ESC [`. -/
  | control
  | controlParameter
  | controlMore
  /-- In a sequence that means nothing. -/
  | controlIgnored
  /-- Behind `ESC P`. -/
  | device
  | deviceParameter
  | deviceMore
  /-- In a string for the device, be there one that understands it or not. -/
  | deviceString
  /-- Behind `ESC ]`. -/
  | command
  /-- In a string that nobody reads. -/
  | string
deriving DecidableEq, Repr, Inhabited

namespace State

/-- The octet stands in a range. -/
def isIn (low high octet : UInt8) : Bool := low ≤ octet && octet ≤ high

/-- Where the octet behind `octet` stands, if that is not where `octet` stands. -/
def after? (state : State) (octet : UInt8) : Option State :=
  let more := isIn 0x20 0x2F octet
  let parameter := isIn 0x30 0x3F octet
  let late := isIn 0x3C 0x3F octet
  let letter := isIn 0x40 0x7E octet
  if octet == 0x1B then some escape
  else if octet == 0x18 || octet == 0x1A then some ground
  else
    match state with
    | ground => none
    | escape =>
      if more then some escapeMore
      else if octet == 0x5B then some control
      else if octet == 0x5D then some command
      else if octet == 0x50 then some device
      else if octet == 0x58 || octet == 0x5E || octet == 0x5F then some string
      else if parameter || letter then some ground
      else none
    | escapeMore => if parameter || letter then some ground else none
    | control =>
      if more then some controlMore
      else if parameter then some controlParameter
      else if letter then some ground
      else none
    | controlParameter =>
      if more then some controlMore
      else if late then some controlIgnored
      else if letter then some ground
      else none
    | controlMore =>
      if parameter then some controlIgnored else if letter then some ground else none
    | controlIgnored => if letter then some ground else none
    | device =>
      if more then some deviceMore
      else if parameter then some deviceParameter
      else if letter then some deviceString
      else none
    | deviceParameter =>
      if more then some deviceMore
      else if late then some string
      else if letter then some deviceString
      else none
    | deviceMore => if parameter then some string else if letter then some deviceString else none
    | deviceString | string => if octet == 0x9C then some ground else none
    | command => if octet == 0x07 then some ground else none

/-- Control characters have their own effect here, in the middle of a sequence, too. -/
def executes : State → Bool
  | ground | escape | escapeMore | control | controlParameter | controlMore | controlIgnored => true
  | _ => false

/-- A blank that is a control character. -/
def isBlank (octet : UInt8) : Bool := [0x09, 0x0A, 0x0C, 0x0D].contains octet

/-- The octet is for the eye where it stands, or begins a character that is. -/
def shows (state : State) (octet : UInt8) : Bool :=
  state = ground && (isIn 0x20 0x7E octet || isIn 0xC2 0xF4 octet) ||
    state.executes && isBlank octet

end State

/-! ## 2. Plain text -/

/-- What is left of octets.  While octets are shown (`shown`), the next one is taken as if it stood
in no sequence; `state` is where it stands as soon as one is not. -/
def plainFrom : (state : State) → (shown : Bool) → List UInt8 → List UInt8
  | _, _, [] => []
  | state, shown, octet :: rest =>
    let here := if shown then .ground else state
    let next := (here.after? octet).getD state
    if here.shows octet || shown && 0x80 ≤ octet then
      octet :: plainFrom (if 0x80 ≤ octet then .ground else next) true rest
    else plainFrom (if shown then (next.after? octet).getD next else next) false rest

/-- A text without what is only for terminals. -/
def plain (text : String) : String :=
  Utf8.toStringLossy (plainFrom .ground true (Utf8.ofString text))

/-- A text that a terminal sets off from what surrounds it. -/
def marked (text : String) : String := "\x1b[1m" ++ text ++ "\x1b[0m"

end RenderSync.Terminal
