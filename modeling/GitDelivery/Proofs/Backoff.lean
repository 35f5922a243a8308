import GitDelivery.Backoff
import Mathlib.Data.Nat.Fib.Basic

set_option autoImplicit false

/-! The delay after each failure: a Fibonacci number of the least delays, but never more than the
longest one. -/

namespace GitDelivery

namespace Backoff

variable {least most : Nat}

def delay (least most failures : Nat) : Nat :=
  min (Nat.fib failures * max least 1) (max most (max least 1))

/-- Where the delays stand after so many failures. -/
def after (least most failures : Nat) : Backoff :=
  { least := max least 1
    most := max most (max least 1)
    previous := delay least most failures
    current := delay least most (failures + 1) }

structure Fits (backoff : Backoff) : Prop where
  least : backoff.least ≤ maxSeconds
  most : backoff.most ≤ maxSeconds
  previous : backoff.previous ≤ maxSeconds
  current : backoff.current ≤ maxSeconds

theorem delay_mono {fewer failures : Nat} (fewerFailures : fewer ≤ failures) :
    delay least most fewer ≤ delay least most failures :=
  min_le_min_right _ (Nat.mul_le_mul_right _ (Nat.fib_mono fewerFailures))

theorem delay_le (failures : Nat) : delay least most failures ≤ max most (max least 1) :=
  Nat.min_le_right _ _

theorem delay_one : delay least most 1 = max least 1 := by
  unfold delay
  rw [Nat.fib_one, Nat.one_mul]
  exact Nat.min_eq_left (Nat.le_max_right _ _)

theorem le_delay (failures : Nat) : max least 1 ≤ delay least most (failures + 1) :=
  delay_one.symm.le.trans (delay_mono (Nat.succ_le_succ (Nat.zero_le failures)))

/-- The longest delay takes what the sum of two delays that it has cut is too small by. -/
theorem delay_add_two (least most failures : Nat) :
    delay least most (failures + 2) =
      min (delay least most failures + delay least most (failures + 1))
        (max most (max least 1)) := by
  unfold delay
  rw [Nat.fib_add_two, Nat.add_mul]
  omega

@[simp]
theorem after_zero : after least most 0 = start least most := by
  unfold after start
  rw [delay_one]
  simp [delay]

private theorem reset_after (failures : Nat) :
    (after least most failures).reset = after least most 0 := by
  rw [after_zero]
  rfl

section

variable (low : least ≤ maxSeconds) (high : most ≤ maxSeconds)

include low high

theorem longest_le : max most (max least 1) ≤ maxSeconds := by
  have one : 1 ≤ maxSeconds := by decide
  omega

/-- The sum is cut at the largest number of seconds before it is cut at the longest delay, which is
not larger. -/
theorem next_after (failures : Nat) :
    (after least most failures).next =
      (delay least most (failures + 1), after least most (failures + 1)) := by
  have longest := longest_le low high
  have sum := delay_add_two least most failures
  have current : min (min (delay least most failures + delay least most (failures + 1)) maxSeconds)
      (max most (max least 1)) = delay least most (failures + 2) := by
    omega
  unfold next after
  simp only [current]

private theorem after_fits (failures : Nat) : (after least most failures).Fits := by
  have longest := longest_le low high
  exact ⟨(Nat.le_max_right _ _).trans longest, longest, (delay_le _).trans longest,
    (delay_le _).trans longest⟩

end

end Backoff

namespace FailureRecord

variable {least most : Nat}

/-- The record of so many failures since the subscription last went well. -/
def after (least most failures : Nat) : FailureRecord :=
  ⟨min failures maxCount, .after least most failures⟩

structure Fits (record : FailureRecord) : Prop where
  count : record.count ≤ maxCount
  backoff : record.backoff.Fits

theorem after_zero : after least most 0 = start least most := by
  unfold after start
  rw [Backoff.after_zero, Nat.zero_min]

theorem reset_after (failures : Nat) : (after least most failures).reset = after least most 0 := by
  unfold after reset
  rw [Backoff.reset_after, Nat.zero_min]

section

variable (low : least ≤ maxSeconds) (high : most ≤ maxSeconds)

include low high

theorem fail_after (failures : Nat) :
    (after least most failures).fail =
      (Backoff.delay least most (failures + 1), after least most (failures + 1)) := by
  have count : min (min failures maxCount + 1) maxCount = min (failures + 1) maxCount := by omega
  unfold fail countFailure after
  simp only [Backoff.next_after low high, count]

theorem after_fits (failures : Nat) : (after least most failures).Fits :=
  ⟨Nat.min_le_right _ _, Backoff.after_fits low high failures⟩

end

end FailureRecord

end GitDelivery
