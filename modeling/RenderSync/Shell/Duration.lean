import RenderSync.Notifications
import RenderSync.Text.Digits

/-!
# Durations

How long something takes, as programs are told: a number with a fraction and a unit.
-/

namespace RenderSync.Shell

/-- A duration such as `0.01`, `30` or `2m`, in nanoseconds. -/
def duration? (text : String) : Option Nat :=
  let (whole, rest) := text.toList.span Digits.isDecimal
  let (fraction, rest) : List Char × List Char := match rest with
    | '.' :: rest => rest.span Digits.isDecimal
    | rest => ([], rest)
  let (power, rest) : Nat × List Char := match rest with
    | 'e' :: c :: rest =>
      if Digits.isDecimal c then
        let (digits, rest) := (c :: rest).span Digits.isDecimal
        (Nat.pow 10 (Digits.toNat digits), rest)
      else (1, 'e' :: c :: rest)
    | rest => (1, rest)
  let unit? : Option Nat := match rest with
    | [] | ['s'] => some 1
    | ['m'] => some 60
    | ['h'] => some 3600
    | ['d'] => some 86400
    | _ => none
  if whole = [] && fraction = [] then
    if text = "inf" || text = "infinity" then some (Nat.pow 10 20) else none
  else unit?.map fun unit =>
    unit * power *
      (Digits.toNat whole * second + Digits.toNat ((fraction ++ List.replicate 9 '0').take 9))

end RenderSync.Shell
