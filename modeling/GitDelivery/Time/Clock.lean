import GitDelivery.Time.Reading

set_option autoImplicit false

/-! Times of day as people write them: `10:20AM`, `10:20 AM` or `22:15`. -/

namespace GitDelivery.Time

open Reading

/-- The half of the day: zero for AM, one for PM. -/
private def half : Reader Nat
  | c :: m :: rest =>
    if c = 'A' ∧ m = 'M' then some (0, rest)
    else if c = 'P' ∧ m = 'M' then some (1, rest)
    else none
  | _ => none

/-- Hours from one to twelve, minutes, and the half of the day, blanks before it or not. -/
def twelveHourClock? (text : List Char) : Option Nat := do
  let (hour, rest) ← number 2 text
  let (_, rest) ← mark ':' rest
  let (minute, rest) ← number 2 rest
  let (half, rest) ← half (rest.dropWhile Text.isBlank)
  if rest ≠ [] || hour < 1 || 12 < hour || 59 < minute then none
  else some ((half * 12 + hour % 12) * 3600 + minute * 60)

def dayClock? (text : List Char) : Option Nat := do
  let (hour, rest) ← number 2 text
  let (_, rest) ← mark ':' rest
  let (minute, rest) ← number 2 rest
  if rest ≠ [] || 23 < hour || 59 < minute then none else some (hour * 3600 + minute * 60)

/-- The second of the day that a written time names. -/
def clock? (text : String) : Option Nat :=
  let letters := (Text.upperAscii (Text.trim text)).toList
  (twelveHourClock? letters).or (dayClock? letters)

end GitDelivery.Time
