import RenderSync.Text.Digits

/-!
# Moments in the calendar

A moment, counted from the beginning of 1970, as its date and time of day.  Years are counted from
March on, so that the day that leap years add comes last: in such a year the months have
`153 / 5` days each when five of them are taken together.
-/

namespace RenderSync.Calendar

/-- A day. -/
structure Date where
  year : Nat
  month : Nat
  day : Nat
deriving DecidableEq, Repr, Inhabited

/-- Days from the first of March of the year zero to the beginning of 1970. -/
def epochDay : Nat := 719468

/-- The date `days` days after the beginning of 1970. -/
def dateOf (days : Nat) : Date :=
  let count := days + epochDay
  let era := count / 146097
  let inEra := count % 146097
  let year := (inEra - inEra / 1460 + inEra / 36524 - inEra / 146096) / 365
  let inYear := inEra - (365 * year + year / 4 - year / 100)
  let turn := (5 * inYear + 2) / 153
  let month := if turn < 10 then turn + 3 else turn - 9
  ⟨era * 400 + year + (if month ≤ 2 then 1 else 0), month, inYear - (153 * turn + 2) / 5 + 1⟩

/-- The days from the beginning of 1970 to a date. -/
def daysTo (date : Date) : Int :=
  let year : Int := if date.month ≤ 2 then (date.year : Int) - 1 else date.year
  let turn : Int := if date.month ≤ 2 then date.month + 9 else (date.month : Int) - 3
  365 * year + year.fdiv 4 - year.fdiv 100 + year.fdiv 400 + (153 * turn + 2) / 5 +
    ((date.day : Int) - 1) - epochDay

/-- The year has a day more than others. -/
def isLeap (year : Nat) : Bool := year % 4 = 0 && (year % 100 ≠ 0 || year % 400 = 0)

/-- How many days a month has. -/
def monthLength (year month : Nat) : Nat :=
  if month = 2 then if isLeap year then 29 else 28
  else if [4, 6, 9, 11].contains month then 30
  else 31

/-- A number with leading zeros. -/
def padded (width n : Nat) : List Char :=
  let digits := Digits.ofNat n
  List.replicate (width - digits.length) '0' ++ digits

/-- Parts of a second: none, or thousandths, millionths or billionths, as few as do. -/
def fraction (nanoseconds : Nat) : List Char :=
  if nanoseconds = 0 then []
  else if nanoseconds % 1000000 = 0 then '.' :: padded 3 (nanoseconds / 1000000)
  else if nanoseconds % 1000 = 0 then '.' :: padded 6 (nanoseconds / 1000)
  else '.' :: padded 9 nanoseconds

/-- The moment `nanoseconds` after the beginning of 1970, in universal time. -/
def momentText (nanoseconds : Nat) : String :=
  let seconds := nanoseconds / Nat.pow 10 9
  let date := dateOf (seconds / 86400)
  let time := seconds % 86400
  String.ofList
    (padded 4 date.year ++ '-' :: padded 2 date.month ++ '-' :: padded 2 date.day ++ 'T' ::
      padded 2 (time / 3600) ++ ':' :: padded 2 (time / 60 % 60) ++ ':' :: padded 2 (time % 60) ++
      fraction (nanoseconds % Nat.pow 10 9) ++ ['Z'])

end RenderSync.Calendar
