set_option autoImplicit false

/-! Delays that grow like the Fibonacci numbers, from a lower to an upper bound. Seconds are below
2⁶⁴, and a sum beyond that stays at the largest of them. -/

namespace GitDelivery

def maxSeconds : Nat := Nat.pow 2 64 - 1

structure Backoff where
  least : Nat
  most : Nat
  previous : Nat
  current : Nat
  deriving DecidableEq

namespace Backoff

/-- The delays start at `least`, which is at least one second, and end at `most`. -/
def start (least most : Nat) : Backoff :=
  let least := max least 1
  { least := least, most := max most least, previous := 0, current := least }

def next (backoff : Backoff) : Nat × Backoff :=
  let sum := min (backoff.previous + backoff.current) maxSeconds
  (backoff.current,
    { backoff with previous := backoff.current, current := min sum backoff.most })

def reset (backoff : Backoff) : Backoff :=
  { backoff with previous := 0, current := backoff.least }

end Backoff

/-- The failures of one subscription since it last went well. The count stops at 2³² - 1. -/
structure FailureRecord where
  count : Nat
  backoff : Backoff
  deriving DecidableEq

namespace FailureRecord

def start (least most : Nat) : FailureRecord :=
  ⟨0, .start least most⟩

def maxCount : Nat := Nat.pow 2 32 - 1

def countFailure (record : FailureRecord) : FailureRecord :=
  { record with count := min (record.count + 1) maxCount }

/-- Counts a failure and says how long to wait after it. -/
def fail (record : FailureRecord) : Nat × FailureRecord :=
  let (delay, backoff) := record.backoff.next
  (delay, { record.countFailure with backoff := backoff })

def reset (record : FailureRecord) : FailureRecord :=
  ⟨0, record.backoff.reset⟩

end FailureRecord

end GitDelivery
