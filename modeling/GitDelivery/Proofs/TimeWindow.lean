import GitDelivery.Proofs.Time.Reading
import GitDelivery.TimeWindow

set_option autoImplicit false

/-! What deployment windows depend on: the day of the week and the time of day that a clock at their
location shows, and nothing else of a point in time. A range of hours that goes on past midnight is taken
with the day on which the clock stands, not with the day on which the range started. -/

namespace GitDelivery

/-- The point so many seconds later, by the clock: what follows the second stays. -/
def Time.Instant.later (instant : Time.Instant) (seconds : Int) : Time.Instant :=
  { instant with seconds := instant.seconds + seconds }

namespace TimeWindow

open Time

/-! ### Locations -/

/-- The location is written as a distance from Greenwich: a sign, hours below twenty-four, colons or
blanks if any, and minutes. What follows the minutes does not count. -/
def WritesOffset (location : String) (seconds : Int) : Prop :=
  ∃ sign direction hours between minutes rest, Reading.Directs sign direction ∧ hours < 24 ∧
    minutes < 60 ∧ (∀ c ∈ between, Reading.isSeparator c = true) ∧
    (Text.trim location).toList =
      sign :: (Reading.twoDigits hours ++ (between ++ (Reading.twoDigits minutes ++ rest))) ∧
    seconds = direction * ((hours : Int) * 3600 + minutes * 60)

theorem writesOffset_iff {location : String} {seconds : Int} :
    WritesOffset location seconds ↔
      ∃ rest, Reading.offset (Text.trim location).toList = some (seconds, rest) ∧
        Reading.isOffset seconds = true := by
  constructor
  · rintro ⟨sign, direction, hours, between, minutes, rest, directs, hoursSmall, minutesSmall,
      separators, shape, rfl⟩
    refine ⟨rest, Reading.offset_eq_some_iff.mpr ⟨sign, direction, hours, between, minutes, directs,
      by omega, minutesSmall, separators, shape, rfl⟩, ?_⟩
    rw [Reading.isOffset_iff]
    cases directs <;> omega
  · rintro ⟨rest, read, within⟩
    obtain ⟨sign, direction, hours, between, minutes, directs, -, minutesSmall, separators, shape,
      rfl⟩ := Reading.offset_eq_some_iff.mp read
    rw [Reading.isOffset_iff] at within
    refine ⟨sign, direction, hours, between, minutes, rest, directs, ?_, minutesSmall, separators,
      shape, rfl⟩
    cases directs <;> omega

private theorem offsetOf_of_writes {location : String} {seconds : Int}
    (writes : WritesOffset location seconds) : offsetOf (some location) = seconds := by
  obtain ⟨rest, read, within⟩ := writesOffset_iff.mp writes
  simp only [offsetOf, read, within, if_true]

private theorem offsetOf_utc : offsetOf (some "UTC") = 0 := by
  decide

def locatedAt (window : TimeWindow) (location : String) : TimeWindow :=
  { window with location := some location }

/-! ### The local time -/

def localAt (window : TimeWindow) (now : Instant) : LocalTime :=
  localTime (offsetOf window.location) now

private theorem weekdayOf_week (day : Int) : weekdayOf (day + 7) = weekdayOf day := by
  unfold weekdayOf
  rw [Int.add_right_comm, Int.add_emod_right]

private theorem localTime_week (offset : Int) (now : Instant) :
    localTime offset (now.later 604800) = localTime offset now := by
  have days : (now.seconds + 604800 + offset) / 86400 = (now.seconds + offset) / 86400 + 7 := by omega
  have second : (now.seconds + 604800 + offset) % 86400 = (now.seconds + offset) % 86400 := by omega
  unfold localTime Instant.later
  dsimp only
  rw [days, second, weekdayOf_week]

private theorem localTime_later (offset : Int) (now : Instant) :
    localTime 0 (now.later offset) = localTime offset now := by
  unfold localTime Instant.later
  dsimp only
  rw [Int.add_zero]

/-- A window has nothing of a point in time but what the clock at its location shows. -/
theorem excludes_of_localTime (window : TimeWindow) {here there : Option String} {now other : Instant}
    (shown : localTime (offsetOf here) now = localTime (offsetOf there) other) :
    excludes { window with location := here } now =
      excludes { window with location := there } other := by
  unfold excludes covers isBlocked
  simp only [shown]

/-- Seven days later a window gives the same answer; and at a fixed distance from Greenwich it gives the
answer that it gives in Greenwich so much later. -/
theorem keeps_week_time (window : TimeWindow) (now : Instant) :
    window.excludes (now.later 604800) = window.excludes now ∧
      ∀ location seconds, WritesOffset location seconds →
        (window.locatedAt location).excludes now =
          (window.locatedAt "UTC").excludes (now.later seconds) := by
  refine ⟨window.excludes_of_localTime (localTime_week _ now), ?_⟩
  intro location seconds writes
  apply window.excludes_of_localTime
  rw [offsetOf_of_writes writes, offsetOf_utc, localTime_later]

/-- On a Sunday at eleven in the evening in Greenwich it is Monday, two hours to the east. -/
theorem monday_keeps_week_time :
    WritesOffset "+02:00" 7200 ∧
      (locatedAt ⟨none, none, ["Mon"], [⟨"00:30AM", "02:00"⟩]⟩ "+02:00").excludes ⟨1717369200, 0⟩ =
        (locatedAt ⟨none, none, ["Mon"], [⟨"00:30AM", "02:00"⟩]⟩ "UTC").excludes ⟨1717376400, 0⟩ := by
  have writes : WritesOffset "+02:00" 7200 :=
    ⟨'+', 1, 2, [':'], 0, [], .east, by decide, by decide, List.forall_mem_singleton.mpr rfl,
      by decide, by decide⟩
  exact ⟨writes, (keeps_week_time _ _).2 "+02:00" 7200 writes⟩

/-! ### Days and hours -/

/-- The clock shows one of the window's days; if the window names none, every day is one. -/
def IsListed (window : TimeWindow) (now : Instant) : Prop :=
  window.days = [] ∨ ∃ name ∈ window.days, weekday? name = some (window.localAt now).day

instance (window : TimeWindow) (now : Instant) : Decidable (window.IsListed now) :=
  inferInstanceAs (Decidable (_ ∨ _))

def HasRange (window : TimeWindow) (start stop : Nat) : Prop :=
  ∃ range ∈ window.hours, clock? range.start = some start ∧ clock? range.stop = some stop

/-- The clock shows a time in a range that started on the same day. -/
def IsUnderWay (window : TimeWindow) (now : Instant) : Prop :=
  ∃ start stop, window.HasRange start stop ∧ start ≤ (window.localAt now).second ∧
    (start ≤ stop → (window.localAt now).second < stop)

/-- The clock shows a time in a range that started on the day before. -/
def IsCarriedOver (window : TimeWindow) (now : Instant) : Prop :=
  ∃ start stop, window.HasRange start stop ∧ stop < start ∧ (window.localAt now).second < stop

theorem coversDay_iff {window : TimeWindow} {now : Instant} :
    coversDay window.days (window.localAt now).day = true ↔ window.IsListed now := by
  unfold coversDay IsListed
  rw [Bool.or_eq_true_iff, List.isEmpty_iff, List.any_eq_true]
  simp only [decide_eq_true_eq]

theorem HourRange.covers_iff {range : HourRange} {second : Nat} :
    HourRange.covers range second = true ↔
      ∃ start stop, (clock? range.start = some start ∧ clock? range.stop = some stop) ∧
        (start ≤ second ∧ (start ≤ stop → second < stop) ∨ stop < start ∧ second < stop) := by
  unfold HourRange.covers
  constructor
  · intro covered
    split at covered
    · next start stop startRead stopRead =>
        refine ⟨start, stop, ⟨startRead, stopRead⟩, ?_⟩
        split at covered
        · rw [Bool.and_eq_true, decide_eq_true_eq, decide_eq_true_eq] at covered
          exact .inl ⟨covered.1, fun _ => covered.2⟩
        · next past =>
            rw [Bool.or_eq_true_iff, decide_eq_true_eq, decide_eq_true_eq] at covered
            rcases covered with here | carried
            · exact .inl ⟨here, fun ordered => absurd ordered past⟩
            · exact .inr ⟨Nat.lt_of_not_le past, carried⟩
    · cases covered
  · rintro ⟨start, stop, ⟨startRead, stopRead⟩, covered⟩
    simp only [startRead, stopRead]
    rcases covered with ⟨here, ends⟩ | ⟨past, carried⟩
    · split
      · next ordered => simp [here, ends ordered]
      · simp [here]
    · simp [Nat.not_le_of_lt past, carried]

theorem coversSecond_iff {window : TimeWindow} {now : Instant} (limited : window.hours ≠ []) :
    coversSecond window.hours (window.localAt now).second = true ↔
      window.IsUnderWay now ∨ window.IsCarriedOver now := by
  have notAlways : window.hours.isEmpty = false := by
    rw [Bool.eq_false_iff, Ne, List.isEmpty_iff]
    exact limited
  unfold coversSecond IsUnderWay IsCarriedOver HasRange
  rw [notAlways, Bool.false_or, List.any_eq_true]
  constructor
  · rintro ⟨range, listed, covered⟩
    obtain ⟨start, stop, read, here | before⟩ := HourRange.covers_iff.mp covered
    · exact .inl ⟨start, stop, ⟨range, listed, read⟩, here⟩
    · exact .inr ⟨start, stop, ⟨range, listed, read⟩, before⟩
  · rintro (⟨start, stop, ⟨range, listed, read⟩, here⟩ | ⟨start, stop, ⟨range, listed, read⟩, before⟩)
    · exact ⟨range, listed, HourRange.covers_iff.mpr ⟨start, stop, read, .inl here⟩⟩
    · exact ⟨range, listed, HourRange.covers_iff.mpr ⟨start, stop, read, .inr before⟩⟩

/-- A window forbids deployment exactly if it is blocked and the clock shows one of its days and a time in
one of its ranges, on whichever day that started, or if neither is so. -/
theorem excludes_iff {window : TimeWindow} {now : Instant} (limited : window.hours ≠ []) :
    window.excludes now = true ↔
      (window.isBlocked = true ↔
        window.IsListed now ∧ (window.IsUnderWay now ∨ window.IsCarriedOver now)) := by
  have notEmpty : ¬(window.days.isEmpty && window.hours.isEmpty) = true := by
    rw [Bool.and_eq_true, List.isEmpty_iff, List.isEmpty_iff]
    exact fun both => limited both.2
  rw [← coversDay_iff, ← coversSecond_iff limited, ← Bool.and_eq_true]
  change (if (window.days.isEmpty && window.hours.isEmpty) = true then false
    else if window.isBlocked = true then window.covers (window.localAt now)
      else !window.covers (window.localAt now)) = true ↔
    (window.isBlocked = true ↔ window.covers (window.localAt now) = true)
  rw [if_neg notEmpty]
  cases window.isBlocked <;> simp

/-! ### Ranges past midnight -/

/-- The point in time is in the window if its ranges belong to the days on which they start: one that goes
on past midnight goes on into the day after a day of the window. -/
def InsideByStart (window : TimeWindow) (now : Instant) : Prop :=
  ∃ start stop, window.HasRange start stop ∧
    (start ≤ stop ∧ window.IsListed now ∧ start ≤ (window.localAt now).second ∧
        (window.localAt now).second < stop ∨
      stop < start ∧ (window.IsListed now ∧ start ≤ (window.localAt now).second ∨
        window.IsListed (now.later (-86400)) ∧ (window.localAt now).second < stop))

theorem insideByStart_iff {window : TimeWindow} {now : Instant} :
    window.InsideByStart now ↔
      window.IsListed now ∧ window.IsUnderWay now ∨
        window.IsListed (now.later (-86400)) ∧ window.IsCarriedOver now := by
  constructor
  · rintro ⟨start, stop, has, ⟨ordered, today, starts, ends⟩ | ⟨past, ⟨today, starts⟩ | ⟨before, ends⟩⟩⟩
    · exact .inl ⟨today, start, stop, has, starts, fun _ => ends⟩
    · exact .inl ⟨today, start, stop, has, starts, fun ordered => absurd past (by omega)⟩
    · exact .inr ⟨before, start, stop, has, past, ends⟩
  · rintro (⟨today, start, stop, has, starts, ends⟩ | ⟨before, start, stop, has, past, ends⟩)
    · rcases Nat.lt_or_ge stop start with past | ordered
      · exact ⟨start, stop, has, .inr ⟨past, .inl ⟨today, starts⟩⟩⟩
      · exact ⟨start, stop, has, .inl ⟨ordered, today, starts, ends ordered⟩⟩
    · exact ⟨start, stop, has, .inr ⟨past, .inr ⟨before, ends⟩⟩⟩

/-- A window takes every range with the day that the clock shows. Its ranges belong to the days on which
they start exactly where none is carried over midnight, or another is under way on a day of the window, or
the day and the one before are both days of the window or neither is. -/
theorem follows_start_day_iff (window : TimeWindow) (now : Instant) (limited : window.hours ≠ []) :
    ((window.excludes now = true ↔ (window.isBlocked = true ↔ window.InsideByStart now)) ↔
        (window.IsCarriedOver now →
          window.IsListed now ∧ window.IsUnderWay now ∨
            (window.IsListed now ↔ window.IsListed (now.later (-86400))))) ∧
      (window.excludes now = true ↔
        (window.isBlocked = true ↔
          window.IsListed now ∧ (window.IsUnderWay now ∨ window.IsCarriedOver now))) := by
  refine ⟨?_, excludes_iff limited⟩
  rw [excludes_iff limited, insideByStart_iff]
  by_cases carried : window.IsCarriedOver now
  · simp only [carried, or_true, and_true, true_implies]
    -- A range under way on a day of the window decides on both sides; else the two days are compared.
    by_cases held : window.IsListed now ∧ window.IsUnderWay now
    · simp [held]
    · simp only [held, false_or]
      grind
  · simp [carried]

def weekendNights : TimeWindow :=
  ⟨none, none, ["Sat", "Sunday"], [⟨"10:00 PM", "02:00"⟩]⟩

/-- At one o'clock on a Sunday, in the night that began on Saturday. -/
theorem weekend_follows_start_day :
    weekendNights.hours ≠ [] ∧
      (weekendNights.excludes ⟨1717290000, 0⟩ = true ↔
        (weekendNights.isBlocked = true ↔ weekendNights.InsideByStart ⟨1717290000, 0⟩)) := by
  have limited : weekendNights.hours ≠ [] := List.cons_ne_nil _ _
  have both : weekendNights.IsListed ⟨1717290000, 0⟩ ↔
      weekendNights.IsListed (Instant.later ⟨1717290000, 0⟩ (-86400)) :=
    iff_of_true (by decide) (by decide)
  exact ⟨limited, (follows_start_day_iff _ _ limited).1.mpr fun _ => .inr both⟩

def mondayNights : TimeWindow :=
  ⟨some "active", some "+00:00", ["Monday"], [⟨"22:00", "02:00"⟩]⟩

/-- At one o'clock on a Tuesday, in the night that began on Monday. -/
theorem not_always_by_start_day :
    ¬∀ (window : TimeWindow) (now : Instant), (∀ name ∈ window.days, (weekday? name).isSome = true) →
      window.hours ≠ [] →
      (∀ range ∈ window.hours, (clock? range.start).isSome = true ∧ (clock? range.stop).isSome = true) →
      (∃ location seconds, window.location = some location ∧ WritesOffset location seconds) →
        (window.excludes now = true ↔ (window.isBlocked = true ↔ window.InsideByStart now)) := by
  intro always
  have writes : WritesOffset "+00:00" 0 :=
    ⟨'+', 1, 0, [':'], 0, [], .east, by decide, by decide, List.forall_mem_singleton.mpr rfl,
      by decide, by decide⟩
  have same := always mondayNights ⟨1717462800, 0⟩ (by decide) (by decide) (by decide)
    ⟨"+00:00", 0, rfl, writes⟩
  have excluded : mondayNights.excludes ⟨1717462800, 0⟩ = true := by decide
  have allowed : mondayNights.isBlocked = false := by decide
  have inside : mondayNights.InsideByStart ⟨1717462800, 0⟩ :=
    ⟨79200, 7200, ⟨⟨"22:00", "02:00"⟩, List.mem_cons_self, by decide, by decide⟩,
      .inr ⟨by decide, .inr ⟨by decide, by decide⟩⟩⟩
  have blocked := (same.mp excluded).mpr inside
  rw [allowed] at blocked
  cases blocked

end TimeWindow

end GitDelivery
