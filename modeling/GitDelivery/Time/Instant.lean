import GitDelivery.Time.Calendar
import GitDelivery.Time.Reading

set_option autoImplicit false

/-! Points in time, and the timestamps that write them with date, time and distance from
Greenwich. -/

namespace GitDelivery.Time

/-- Seconds since the start of 1970 in Greenwich, and nanoseconds after that second. A leap second
counts as another 10⁹ nanoseconds of the second before it. -/
structure Instant where
  seconds : Int
  nanos : Nat
  deriving DecidableEq

/-- Years a timestamp can have. -/
def yearLimit : Int := 262142

namespace Instant

open Reading

private def clock? (hour minute second fractionNanos : Nat) : Option (Nat × Nat) :=
  if 23 < hour || 59 < minute || 60 < second then none
  else if second = 60 then some (hour * 3600 + minute * 60 + 59, 1000000000 + fractionNanos)
  else some (hour * 3600 + minute * 60 + second, fractionNanos)

private def zone : Reader Int
  | c :: rest =>
    if c = 'Z' || c = 'z' then some (0, rest)
    else if ((c :: rest).take 3).map Char.toUpper = ['U', 'T', 'C'] then some (0, rest.drop 2)
    else offset (c :: rest)
  | [] => none

private def separator : Reader Unit
  | c :: rest => if c = 'T' || c = 't' || c = ' ' then some ((), rest) else none
  | [] => none

/-- Reads a timestamp such as `2024-05-01T10:00:00.5+02:00`. A blank or a small `t` may separate
date and time, and blanks may stand around numbers and marks. -/
def ofText? (text : String) : Option Instant := do
  let (year, rest) ← year text.toList
  let (_, rest) ← spacedMark '-' rest
  let (month, rest) ← number 2 rest
  let (_, rest) ← spacedMark '-' rest
  let (day, rest) ← number 2 rest
  let (_, rest) ← separator rest
  let (hour, rest) ← number 2 rest
  let (_, rest) ← spacedMark ':' rest
  let (minute, rest) ← number 2 rest
  let (_, rest) ← spacedMark ':' rest
  let (second, rest) ← number 2 rest
  let (nanos, rest) ← fraction rest
  let (offset, rest) ← zone (rest.dropWhile Text.isBlank)
  let date : Date := ⟨year, month, day⟩
  let (secondOfDay, nanos) ← clock? hour minute second nanos
  if rest.any (fun c => !Text.isBlank c) || !date.isValid || !isOffset offset ||
      yearLimit < year || year < -yearLimit - 1 then none
  else some ⟨date.dayNumber * 86400 + secondOfDay - offset, nanos⟩

private def padded (width value : Nat) : String :=
  let digits := toString value
  String.ofList (List.replicate (width - digits.length) '0') ++ digits

private def yearText (year : Int) : String :=
  if 0 ≤ year ∧ year ≤ 9999 then padded 4 year.toNat
  else if year < 0 then "-" ++ padded 4 year.natAbs
  else "+" ++ padded 4 year.natAbs

private def dateAndTime (instant : Instant) : String :=
  let date := dateOf (instant.seconds / 86400)
  let secondOfDay := (instant.seconds % 86400).toNat
  yearText date.year ++ "-" ++ padded 2 date.month ++ "-" ++ padded 2 date.day ++ "T"
    ++ padded 2 (secondOfDay / 3600) ++ ":" ++ padded 2 (secondOfDay / 60 % 60) ++ ":"
    ++ padded 2 (secondOfDay % 60 + instant.nanos / 1000000000)

/-- The timestamp in whole seconds, ending in `Z`. -/
def secondsText (instant : Instant) : String :=
  dateAndTime instant ++ "Z"

/-- The timestamp ending in `+00:00`, with three, six or nine digits of a fraction unless the
fraction is zero. -/
def text (instant : Instant) : String :=
  let fraction := instant.nanos % 1000000000
  let fractionText :=
    if fraction = 0 then ""
    else if fraction % 1000000 = 0 then "." ++ padded 3 (fraction / 1000000)
    else if fraction % 1000 = 0 then "." ++ padded 6 (fraction / 1000)
    else "." ++ padded 9 fraction
  dateAndTime instant ++ fractionText ++ "+00:00"

end Instant

end GitDelivery.Time
