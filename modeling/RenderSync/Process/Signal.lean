import RenderSync.Text.Digits

/-!
# Signals

What a process can be told from outside, and how it ends.
-/

namespace RenderSync

/-- How a process ended. -/
inductive ExitStatus where
  | exited (code : Nat)
  | signaled (number : Nat)
deriving DecidableEq, Repr, Inhabited

/-- What a process can be told from outside; zero says nothing, and stands for the end where
something is to be done about it. -/
structure Signal where
  number : Nat
deriving DecidableEq, Repr, Inhabited

namespace Signal

/-- Asks to end. -/
def terminate : Signal := ⟨15⟩

/-- Ends, without asking. -/
def kill : Signal := ⟨9⟩

/-- Nobody reads what is written. -/
def brokenPipe : Signal := ⟨13⟩

/-- Asks to end, from the keyboard. -/
def interrupt : Signal := ⟨2⟩

/-- Ends a pause. -/
def continue_ : Signal := ⟨18⟩

/-- Nothing is said; only whether there is anybody to hear it. -/
def none_ : Signal := ⟨0⟩

/-- The end of a process, as something to be done about. -/
def atExit : Signal := none_

/-- Signals by name. -/
def names : List (String × Nat) :=
  [("EXIT", 0), ("HUP", 1), ("INT", 2), ("QUIT", 3), ("ILL", 4), ("TRAP", 5), ("ABRT", 6),
    ("BUS", 7), ("FPE", 8), ("KILL", 9), ("USR1", 10), ("SEGV", 11), ("USR2", 12), ("PIPE", 13),
    ("ALRM", 14), ("TERM", 15), ("CHLD", 17), ("CONT", 18), ("STOP", 19),
    ("TSTP", 20), ("TTIN", 21), ("TTOU", 22), ("URG", 23), ("XCPU", 24), ("XFSZ", 25),
    ("VTALRM", 26), ("PROF", 27), ("WINCH", 28), ("IO", 29), ("PWR", 30), ("SYS", 31)]

/-- Signals that nobody minds. -/
def isHarmless (signal : Signal) : Bool := [0, 17, 18, 23, 28].contains signal.number

/-- Signals that make a process pause. -/
def isPause (signal : Signal) : Bool := [19, 20, 21, 22].contains signal.number

/-- The signal of a name or of a number. -/
def ofName? (name : String) : Option Signal :=
  match Digits.toNat? 10 name.toList with
  | some number => if number < 65 then some ⟨number⟩ else none
  | none => (names.lookup (String.ofList (name.toList.map Char.toUpper))).map Signal.mk

/-- The first of the signals without a name of their own. -/
def firstFree : Nat := 34

/-- The last of the signals without a name of their own. -/
def lastFree : Nat := 64

/-- The name of a signal; one without is called by the distance to the nearer end of the free
ones. -/
def name (signal : Signal) : String :=
  let n := signal.number
  let digits (n : Nat) : String := String.ofList (Digits.ofNat n)
  match names.find? (·.2 = n) with
  | some (name, _) => name
  | none =>
    if n < firstFree then digits n
    else if n = firstFree then "RTMIN"
    else if n = lastFree then "RTMAX"
    else if n < 50 then "RTMIN+" ++ digits (n - firstFree)
    else "RTMAX-" ++ digits (lastFree - n)

/-- No signal, but something that a shell can be told to do something about: a command is next. -/
def beforeCommand : Signal := ⟨65⟩

/-- No signal: a command has failed. -/
def onFailure : Signal := ⟨66⟩

/-- No signal: a function or a script has ended. -/
def onReturn : Signal := ⟨67⟩

/-- What the shell says about a command that a signal has ended. -/
def notice? (signal : Signal) : Option String :=
  [(1, "Hangup"), (3, "Quit"), (4, "Illegal instruction"), (5, "Trace/breakpoint trap"),
    (6, "Aborted"), (7, "Bus error"), (8, "Floating point exception"), (9, "Killed"),
    (10, "User defined signal 1"), (11, "Segmentation fault"), (12, "User defined signal 2"),
    (14, "Alarm clock"), (15, "Terminated")].lookup signal.number

end Signal

end RenderSync
