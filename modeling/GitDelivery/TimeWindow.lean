import GitDelivery.Time.Clock
import GitDelivery.Time.Instant

set_option autoImplicit false

/-! Deployment windows. A window names days and hours at some distance from Greenwich; deployment is
allowed inside it, or, for a blocked window, outside it. Days and hours are kept as they were
written: what cannot be read matches nothing. -/

namespace GitDelivery

structure HourRange where
  start : String
  stop : String
  deriving DecidableEq

structure TimeWindow where
  kind : Option String
  location : Option String
  days : List String
  hours : List HourRange
  deriving DecidableEq

namespace TimeWindow

open Time

/-- The day of the week and the second of the day that a clock on the wall shows. -/
structure LocalTime where
  day : Weekday
  second : Nat
  deriving DecidableEq

def localTime (offset : Int) (instant : Instant) : LocalTime :=
  let seconds := instant.seconds + offset
  ⟨weekdayOf (seconds / 86400), (seconds % 86400).toNat⟩

/-- The distance from Greenwich in seconds; a location that is not written as such a distance counts
as Greenwich. -/
def offsetOf (location : Option String) : Int :=
  match location with
  | none => 0
  | some text =>
    match Reading.offset (Text.trim text).toList with
    | some (seconds, _) => if Reading.isOffset seconds then seconds else 0
    | none => 0

/-- The first three letters of a day's name, which are ASCII, decide. -/
def weekday? (name : String) : Option Weekday :=
  match (Text.lowerAscii (Text.trim name)).toList.take 3 with
  | ['m', 'o', 'n'] => some .monday
  | ['t', 'u', 'e'] => some .tuesday
  | ['w', 'e', 'd'] => some .wednesday
  | ['t', 'h', 'u'] => some .thursday
  | ['f', 'r', 'i'] => some .friday
  | ['s', 'a', 't'] => some .saturday
  | ['s', 'u', 'n'] => some .sunday
  | _ => none

/-- No days at all mean every day. -/
def coversDay (days : List String) (day : Weekday) : Bool :=
  days.isEmpty || days.any fun name => weekday? name = some day

/-- A range that ends before it starts goes on past midnight. -/
def HourRange.covers (range : HourRange) (second : Nat) : Bool :=
  match clock? range.start, clock? range.stop with
  | some start, some stop =>
    if start ≤ stop then start ≤ second && second < stop else start ≤ second || second < stop
  | _, _ => false

/-- No hours at all mean the whole day. -/
def coversSecond (hours : List HourRange) (second : Nat) : Bool :=
  hours.isEmpty || hours.any fun range => HourRange.covers range second

def covers (window : TimeWindow) (time : LocalTime) : Bool :=
  coversDay window.days time.day && coversSecond window.hours time.second

def isBlocked (window : TimeWindow) : Bool :=
  match window.kind with
  | some kind => Text.sameIgnoringCase kind "blocked"
  | none => false

/-- Does the window forbid deployment at that point in time? Without days and hours it never
does. -/
def excludes (window : TimeWindow) (now : Instant) : Bool :=
  if window.days.isEmpty && window.hours.isEmpty then false
  else
    let inside := window.covers (localTime (offsetOf window.location) now)
    if window.isBlocked then inside else !inside

end TimeWindow

end GitDelivery
