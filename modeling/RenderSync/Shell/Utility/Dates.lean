import RenderSync.Text.Calendar
import RenderSync.Shell.Utility.Files

/-!
# Dates

Moments as people write them, read and printed: a date, a time of day, a zone, words such as
`yesterday`, and steps such as `2 days ago`.  Nothing but universal time is known.
-/

namespace RenderSync.Shell

/-! ## 1. Moments by their parts -/

/-- A moment in universal time. -/
structure Almanac where
  date : Calendar.Date
  hour : Nat
  minute : Nat
  second : Nat
  nanosecond : Nat
  /-- Days from the beginning of 1970. -/
  days : Int
deriving Inhabited

namespace Almanac

/-- A moment, in nanoseconds from the beginning of 1970, by its parts. -/
def ofMoment (moment : Int) : Almanac :=
  let seconds := moment.fdiv RenderSync.second
  let days := seconds.fdiv 86400
  let time := (seconds - days * 86400).toNat
  -- Four hundred years are a whole number of weeks; a shift by some of them keeps days natural.
  let shifts := if days < 0 then (-days).toNat / 146097 + 1 else 0
  let date := Calendar.dateOf (days + shifts * 146097).toNat
  ⟨{ date with year := date.year - 400 * shifts }, time / 3600, time / 60 % 60, time % 60,
    (moment - seconds * RenderSync.second).toNat, days⟩

/-- The moment of parts. -/
def moment (date : Calendar.Date) (time nanoseconds : Int) : Int :=
  (Calendar.daysTo date * 86400 + time) * RenderSync.second + nanoseconds

/-- The day of the week; Sunday is zero. -/
def weekday (almanac : Almanac) : Nat := ((almanac.days + 4) % 7).toNat

/-- The day of the year; the first is zero. -/
def yearDay (almanac : Almanac) : Nat :=
  (almanac.days - Calendar.daysTo ⟨almanac.date.year, 1, 1⟩).toNat

end Almanac

/-- Names of days, from Sunday on. -/
def dayNames : List String :=
  ["Sunday", "Monday", "Tuesday", "Wednesday", "Thursday", "Friday", "Saturday"]

/-- Names of months. -/
def monthNames : List String :=
  ["January", "February", "March", "April", "May", "June", "July", "August", "September", "October",
    "November", "December"]

/-! ## 2. Printing -/

/-- A number filled up in front. -/
def filledUp (filler : Char) (width n : Nat) : List Char :=
  let digits := Digits.ofNat n
  List.replicate (width - digits.length) filler ++ digits

/-- The week of a year and the year that it belongs to, where weeks start on Monday and the first
one has four days of the year. -/
def weekOf (almanac : Almanac) : Nat × Nat :=
  let day : Int := almanac.yearDay
  let weekday : Int := (almanac.weekday + 6 : Nat) % 7
  let week := (day - weekday + 10).fdiv 7
  let year := almanac.date.year
  let weeksIn (year : Nat) : Int :=
    let first := (Calendar.daysTo ⟨year, 1, 1⟩ + 3) % 7
    if first = 3 || (first = 2 && Calendar.isLeap year) then 53 else 52
  if week < 1 then ((weeksIn (year - 1)).toNat, year - 1)
  else if week > weeksIn year then (1, year + 1)
  else (week.toNat, year)

mutual

/-- What a letter of a format stands for; `pad` says how numbers are filled up, if at all. -/
def almanacField (moment : Int) (flag : Option Char) (width : Option Nat) : (fuel : Nat) → Char →
    Option (List Char)
  | 0, _ => none
  | fuel + 1, letter =>
    let almanac := Almanac.ofMoment moment
    let number (filler : Char) (digits n : Nat) : Option (List Char) :=
      some (match flag with
        | some '-' => Digits.ofNat n
        | some '_' => filledUp ' ' (width.getD digits) n
        | some '0' => filledUp '0' (width.getD digits) n
        | _ => filledUp filler (width.getD digits) n)
    let text (t : List Char) : Option (List Char) :=
      let t := if flag = some '^' then t.map Char.toUpper
        else if flag = some '#' then t.map Char.toUpper else t
      some (List.replicate ((width.getD 0) - t.length) ' ' ++ t)
    let hour12 := if almanac.hour % 12 = 0 then 12 else almanac.hour % 12
    let inner (format : String) : Option (List Char) :=
      text (almanacText moment fuel format.toList)
    let dayName := ((dayNames[almanac.weekday]?).getD "").toList
    let monthName := ((monthNames[almanac.date.month - 1]?).getD "").toList
    match letter with
    | '%' => some ['%']
    | 'n' => some ['\n']
    | 't' => some ['\t']
    | 'Y' => number '0' 1 almanac.date.year
    | 'C' => number '0' 2 (almanac.date.year / 100)
    | 'y' => number '0' 2 (almanac.date.year % 100)
    | 'm' => number '0' 2 almanac.date.month
    | 'd' => number '0' 2 almanac.date.day
    | 'e' => number ' ' 2 almanac.date.day
    | 'H' => number '0' 2 almanac.hour
    | 'k' => number ' ' 2 almanac.hour
    | 'I' => number '0' 2 hour12
    | 'l' => number ' ' 2 hour12
    | 'M' => number '0' 2 almanac.minute
    | 'S' => number '0' 2 almanac.second
    | 'N' =>
      let digits := filledUp '0' 9 almanac.nanosecond
      some (if flag = some '-' then
          let kept := (digits.reverse.dropWhile (· = '0')).reverse
          if kept = [] then ['0'] else kept
        else digits.take (width.getD 9))
    | 's' => some (Digits.ofInt (moment.fdiv RenderSync.second))
    | 'j' => number '0' 3 (almanac.yearDay + 1)
    | 'u' => number '0' 1 (if almanac.weekday = 0 then 7 else almanac.weekday)
    | 'w' => number '0' 1 almanac.weekday
    | 'U' => number '0' 2 ((almanac.yearDay + 7 - almanac.weekday) / 7)
    | 'W' => number '0' 2 ((almanac.yearDay + 7 - (almanac.weekday + 6) % 7) / 7)
    | 'V' => number '0' 2 (weekOf almanac).1
    | 'G' => number '0' 1 (weekOf almanac).2
    | 'g' => number '0' 2 ((weekOf almanac).2 % 100)
    | 'q' => number '0' 1 ((almanac.date.month + 2) / 3)
    | 'a' => text (dayName.take 3)
    | 'A' => text dayName
    | 'b' | 'h' => text (monthName.take 3)
    | 'B' => text monthName
    | 'p' =>
      let half := if almanac.hour < 12 then "AM" else "PM"
      if flag = some '#' then some (half.toLower).toList else text half.toList
    | 'P' => text (if almanac.hour < 12 then "am" else "pm").toList
    | 'Z' => if flag = some '#' then some "utc".toList else text "UTC".toList
    | 'z' => some "+0000".toList
    | 'D' | 'x' => inner "%m/%d/%y"
    | 'F' => inner "%Y-%m-%d"
    | 'T' | 'X' => inner "%H:%M:%S"
    | 'R' => inner "%H:%M"
    | 'r' => inner "%I:%M:%S %p"
    | 'c' => inner "%a %b %e %H:%M:%S %Y"
    | _ => none

/-- A moment printed by a format; `fuel` bounds its length. -/
def almanacText (moment : Int) : (fuel : Nat) → List Char → List Char
  | 0, _ | _, [] => []
  | fuel + 1, '%' :: rest =>
    let (flags, behind) := rest.span fun c => "-_0^#+".toList.contains c
    let (digits, behind) := behind.span Digits.isDecimal
    let (colons, behind) := behind.span fun c => c = ':' || c = 'E' || c = 'O'
    match behind with
    | [] => '%' :: rest
    | letter :: left =>
      let shown :=
        if letter = 'z' && colons.length = 1 then some "+00:00".toList
        else if letter = 'z' && colons.length = 2 then some "+00:00:00".toList
        else almanacField moment flags.getLast? (Digits.toNat? 10 digits) fuel letter
      match shown with
      | some text => text ++ almanacText moment fuel left
      | none => '%' :: rest.take (rest.length - left.length) ++ almanacText moment fuel left
  | fuel + 1, c :: rest => c :: almanacText moment fuel rest

end

/-- A moment printed by a format. -/
def dated (moment : Int) (format : String) : String :=
  String.ofList (almanacText moment (format.length + 16) format.toList)

/-! ## 3. Reading -/

/-- A moment on the way to being read. -/
structure Appointment where
  date : Calendar.Date
  /-- Seconds from midnight, and what is to be added to them. -/
  time : Int
  nanoseconds : Int
  /-- Months and days to go on. -/
  months : Int
  days : Int
  seconds : Int
  /-- A time of day was named, or a step in hours or less. -/
  isTimed : Bool
deriving Inhabited

/-- A number in front of a text. -/
def numberFirst? (text : List Char) : Option (Nat × List Char) :=
  let (digits, rest) := text.span Digits.isDecimal
  (Digits.toNat? 10 digits).map (·, rest)

/-- A time of day such as `12:30:05.5`. -/
def clockTime? (text : List Char) : Option (Int × Int × List Char) := do
  let (hour, rest) ← numberFirst? text
  match rest with
  | ':' :: rest =>
    let (minute, rest) ← numberFirst? rest
    let (seconds, rest) : Nat × List Char := match rest with
      | ':' :: more => (numberFirst? more).getD (0, rest)
      | rest => (0, rest)
    let (fraction, rest) : List Char × List Char := match rest with
      | '.' :: rest => rest.span Digits.isDecimal
      | rest => ([], rest)
    if hour > 24 || minute > 59 || seconds > 60 then none
    else
      let nanoseconds := Digits.toNat ((fraction ++ List.replicate 9 '0').take 9)
      return (hour * 3600 + minute * 60 + seconds, nanoseconds, rest)
  | _ => none

/-- The seconds by which a zone such as `+02:00` is ahead. -/
def zone? (text : List Char) : Option Int :=
  match text with
  | [] => some 0
  | ['Z'] | ['z'] => some 0
  | sign :: rest =>
    if sign ≠ '+' && sign ≠ '-' then none
    else
      let digits := rest.filter (· ≠ ':')
      match digits.length, Digits.toNat? 10 digits with
      | 4, some n =>
        let ahead : Int := n / 100 * 3600 + n % 100 * 60
        some (if sign = '-' then -ahead else ahead)
      | 2, some n => some (if sign = '-' then -(n * 3600 : Nat) else (n * 3600 : Nat))
      | _, _ => none

/-- A date that exists. -/
def date? (year month day : Nat) : Option Calendar.Date :=
  if 1 ≤ month && month ≤ 12 && 1 ≤ day && day ≤ Calendar.monthLength year month then
    some ⟨year, month, day⟩
  else none

/-- A date in numbers. -/
def numericDate? (text : List Char) : Option Calendar.Date := do
  let number (digits : List Char) : Option Nat := Digits.toNat? 10 digits
  match Text.splitAt '-' text, Text.splitAt '/' text with
  | [year, month, day], _ => date? (← number year) (← number month) (← number day)
  | _, [first, second, third] =>
    if first.length = 4 then date? (← number first) (← number second) (← number third)
    else date? (← number third) (← number first) (← number second)
  | [digits], _ =>
    if digits.length = 8 then
      date? (← number (digits.take 4)) (← number ((digits.drop 4).take 2))
        (← number (digits.drop 6))
    else none
  | _, _ => none

/-- The place of a word in a list of names that may be cut to three letters. -/
def nameIndex? (names : List String) (word : String) : Option Nat :=
  let word := String.ofList ((word.toList.filter (· ≠ '.')).map Char.toLower)
  names.findIdx? fun name =>
    let name := name.toLower
    word = name || word = String.ofList (name.toList.take 3)

/-- Goes on by some units of time. -/
def Appointment.step (appointment : Appointment) (count : Int) (unit : String) :
    Option Appointment :=
  let unit := unit.toLower
  let unit := if unit.toList.getLast? = some 's' && unit.length > 1 then
    String.ofList unit.toList.dropLast else unit
  let timed (seconds : Int) : Option Appointment :=
    some { appointment with seconds := appointment.seconds + seconds * count, isTimed := true }
  match unit with
  | "year" => some { appointment with months := appointment.months + 12 * count }
  | "month" => some { appointment with months := appointment.months + count }
  | "fortnight" => some { appointment with days := appointment.days + 14 * count }
  | "week" => some { appointment with days := appointment.days + 7 * count }
  | "day" => some { appointment with days := appointment.days + count }
  | "hour" => timed 3600
  | "minute" | "min" => timed 60
  | "second" | "sec" => timed 1
  | _ => none

/-- Reads the words of a moment; `fuel` bounds them. -/
def readAppointment (appointment : Appointment) : (fuel : Nat) → List String → Option Appointment
  | 0, _ => none
  | _, [] => some appointment
  | fuel + 1, word :: rest =>
    let go (appointment : Appointment) (rest : List String) : Option Appointment :=
      readAppointment appointment fuel rest
    let atMidnight (days : Int) : Appointment :=
      { appointment with days := appointment.days + days }
    let chars := word.toList
    let signed : Option Int := match chars with
      | '+' :: digits => (Digits.toNat? 10 digits).map Int.ofNat
      | '-' :: digits => (Digits.toNat? 10 digits).map fun n => -(n : Int)
      | digits => (Digits.toNat? 10 digits).map Int.ofNat
    let withTime (date : Calendar.Date) (text : List Char) : Option Appointment := do
      let (time, nanoseconds, zone) ← clockTime? text
      let ahead ← zone? zone
      return { appointment with date, time := time - ahead, nanoseconds, isTimed := true }
    match word.toLower, rest with
    | "now", _ => go { appointment with isTimed := true } rest
    | "today", _ | "utc", _ | "gmt", _ | "z", _ | "and", _ | ",", _ => go appointment rest
    | "midnight", _ => go { appointment with time := 0, nanoseconds := 0, isTimed := true } rest
    | "noon", _ => go { appointment with time := 43200, nanoseconds := 0, isTimed := true } rest
    | "yesterday", _ => go (atMidnight (-1)) rest
    | "tomorrow", _ => go (atMidnight 1) rest
    | "next", unit :: rest => (appointment.step 1 unit).bind (go · rest)
    | "last", unit :: rest => (appointment.step (-1) unit).bind (go · rest)
    | _, _ =>
      match signed, rest with
      | some count, unit :: "ago" :: rest => (appointment.step (-count) unit).bind (go · rest)
      | some count, unit :: rest' =>
        match appointment.step count unit with
        | some appointment => go appointment rest'
        | none =>
          match nameIndex? monthNames unit, rest' with
          | some month, year :: rest =>
            ((Digits.toNat? 10 year.toList).bind fun year =>
              date? year (month + 1) count.toNat).bind fun date => go { appointment with date } rest
          | _, _ => (numericDate? chars).bind fun date => go { appointment with date } rest
      | _, _ =>
        match numericDate? chars, clockTime? chars with
        | some date, _ => go { appointment with date } rest
        | none, some (time, nanoseconds, zone) =>
          let half := rest.headD ""
          let (time, rest) : Int × List String :=
            if half.toLower = "pm" then (time % 43200 + 43200, rest.tail)
            else if half.toLower = "am" then (time % 43200, rest.tail)
            else (time, rest)
          (zone? zone).bind fun ahead =>
            go { appointment with time := time - ahead, nanoseconds, isTimed := true } rest
        | none, none =>
          let (first, second) := chars.span fun c => c ≠ 'T' && c ≠ 't'
          match numericDate? first, second with
          | some date, _ :: second => (withTime date second).bind (go · rest)
          | _, _ =>
            match nameIndex? monthNames word, nameIndex? dayNames (word.replace "," ""), rest with
            | some month, _, day :: year :: rest =>
              ((Digits.toNat? 10 (day.toList.filter (· ≠ ','))).bind fun day =>
                (Digits.toNat? 10 year.toList).bind fun year =>
                  date? year (month + 1) day).bind fun date => go { appointment with date } rest
            | _, some _, rest => go appointment rest
            | _, _, _ => zone? chars |>.bind fun ahead =>
                go { appointment with time := appointment.time - ahead } rest

/-- The moment that an appointment is at. -/
def Appointment.moment (appointment : Appointment) : Int :=
  let date := appointment.date
  let months : Int := (date.year * 12 + date.month - 1 : Nat) + appointment.months
  let date : Calendar.Date := ⟨(months.fdiv 12).toNat, (months % 12).toNat + 1, date.day⟩
  Almanac.moment { date with day := 1 }
    (((date.day : Int) - 1 + appointment.days) * 86400 + appointment.time + appointment.seconds)
    appointment.nanoseconds

/-- The moment that a text names. -/
def moment? (now : Int) (text : String) : Option Int :=
  match text.toList with
  | '@' :: rest =>
    let (negative, rest) : Bool × List Char := match rest with
      | '-' :: rest => (true, rest)
      | rest => (false, rest)
    let (whole, rest) := rest.span Digits.isDecimal
    let fraction := (rest.drop 1).takeWhile Digits.isDecimal
    if rest ≠ [] && rest.head? ≠ some '.' then none
    else (Digits.toNat? 10 whole).map fun n =>
      let moment : Int := n * second + Digits.toNat ((fraction ++ List.replicate 9 '0').take 9)
      if negative then -moment else moment
  | chars =>
    let words := ((Text.splitAt ' ' chars).filter (· ≠ [])).map String.ofList
    let almanac := Almanac.ofMoment now
    let time := almanac.hour * 3600 + almanac.minute * 60 + almanac.second
    let start : Appointment := ⟨almanac.date, time, almanac.nanosecond, 0, 0, 0, false⟩
    (readAppointment start (words.length + 1) words).map fun appointment =>
      -- A date alone is meant at midnight; a step in days keeps the time of day.
      let isDated := appointment.date ≠ start.date || words = []
      let named := words.any fun word => (numericDate? word.toList).isSome
      if (isDated || named) && !appointment.isTimed then
        { appointment with time := 0, nanoseconds := 0 }.moment
      else appointment.moment

/-- The moment of digits such as `202001021530.05`. -/
def stampDigits? (now : Int) (text : String) : Option Int := do
  let (digits, rest) := text.toList.span (· ≠ '.')
  let seconds ← match rest with
    | [] => some 0
    | _ :: rest => Digits.toNat? 10 rest
  let pair (n : Nat) : Option Nat := Digits.toNat? 10 ((digits.drop n).take 2)
  let (year, from_) ← match digits.length with
    | 8 => some ((Almanac.ofMoment now).date.year, 0)
    | 10 => (pair 0).map fun n => (if n < 69 then 2000 + n else 1900 + n, 2)
    | 12 => (Digits.toNat? 10 (digits.take 4)).map (·, 4)
    | _ => none
  let date ← date? year (← pair from_) (← pair (from_ + 2))
  let hour ← pair (from_ + 4)
  let minute ← pair (from_ + 6)
  if hour > 23 || minute > 59 || seconds > 60 then none
  else return Almanac.moment date (hour * 3600 + minute * 60 + seconds : Nat) 0

/-! ## 4. Utilities -/

namespace Call

/-- The moment of a call. -/
def clock (call : Call) : Int := clockStart + call.now

/-- Prints a moment. -/
def date (call : Call) (options : Options) : Deed :=
  let asked : Except String Int :=
    match options.value? 'd', options.value? 'r' with
    | some text, _ =>
      match moment? call.clock text with
      | some moment => .ok moment
      | none => .error ("invalid date " ++ curly text)
    | none, some name =>
      match call.files.locate? (call.path name) with
      | some place =>
        if (call.files.entryAt? place).isSome then .ok (call.files.stampOf place)
        else .error (asNeeded name ++ ": " ++ (call.files.trouble (call.path name)).message)
      | none => .error (asNeeded name ++ ": " ++ (call.files.trouble (call.path name)).message)
    | none, none => .ok call.clock
  match asked with
  | .error message => call.complains message 1
  | .ok moment =>
    let iso (spec : String) : String := match spec with
      | "hours" => "%Y-%m-%dT%H%:z"
      | "minutes" => "%Y-%m-%dT%H:%M%:z"
      | "seconds" => "%Y-%m-%dT%H:%M:%S%:z"
      | "ns" => "%Y-%m-%dT%H:%M:%S,%N%:z"
      | _ => "%Y-%m-%d"
    match options.operands with
    | [] =>
      let format := match options.value? 'I', options.has 'R' with
        | some spec, _ => iso spec
        | none, true => "%a, %d %b %Y %H:%M:%S %z"
        | none, false => "%a %b %e %H:%M:%S %Z %Y"
      call.gives (dated moment format ++ "\n")
    | [operand] =>
      match operand.toList with
      | '+' :: format => call.gives (dated moment (String.ofList format) ++ "\n")
      | _ => call.complains ("invalid date " ++ curly operand) 1
    | _ :: extra :: _ => call.misused ("extra operand " ++ curly extra) 1

/-- Makes files, or says that they have changed. -/
def touch (call : Call) (options : Options) : Deed :=
  let asked : Except String Int :=
    match options.value? 'r', options.value? 'd', options.value? 't' with
    | some name, _, _ =>
      match call.files.locate? (call.path name) with
      | some place =>
        if (call.files.entryAt? place).isSome then .ok (call.files.stampOf place)
        else .error ("failed to get attributes of " ++ inQuotes name ++ ": " ++
          PathTrouble.missing.message)
      | none => .error ("failed to get attributes of " ++ inQuotes name ++ ": " ++
          (call.files.trouble (call.path name)).message)
    | none, some text, _ =>
      match moment? call.clock text with
      | some moment => .ok moment
      | none => .error ("invalid date format " ++ curly text)
    | none, none, some text =>
      match stampDigits? call.clock text with
      | some moment => .ok moment
      | none => .error ("invalid date format " ++ curly text)
    | none, none, none => .ok call.clock
  match asked with
  | .error message => call.complains message 1
  | .ok moment => call.touchAt options moment

end Call

end RenderSync.Shell
