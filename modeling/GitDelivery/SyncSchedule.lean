import GitDelivery.Text.Basic

set_option autoImplicit false

/-! How often a subscription is synchronised, and when an unchanged commit lets a tick be skipped. -/

namespace GitDelivery

inductive Rate where
  | off | low | medium | high
  deriving DecidableEq

/-- Seconds between ticks (none for a subscription that is synchronised only once), and seconds
between the attempts of the first tick and their number after the first attempt. -/
structure SyncSchedule where
  period : Option Nat
  retryInterval : Nat
  retries : Nat
  deriving DecidableEq

namespace Rate

/-- Unknown texts, like none at all, mean medium. -/
def ofText (text : Option String) : Rate :=
  let trimmed := Text.trim (text.getD "")
  if Text.sameIgnoringCase trimmed "off" then off
  else if Text.sameIgnoringCase trimmed "low" then low
  else if Text.sameIgnoringCase trimmed "high" then high
  else medium

def text : Rate → String
  | off => "off"
  | low => "low"
  | medium => "medium"
  | high => "high"

def schedule : Rate → SyncSchedule
  | off => ⟨none, 120, 3⟩
  | low => ⟨some 3600, 180, 3⟩
  | medium => ⟨some 180, 90, 1⟩
  | high => ⟨some 120, 60, 1⟩

/-- Only at the medium rate may a tick be skipped because nothing changed. -/
def skipsUnchanged : Rate → Bool
  | medium => true
  | off | low | high => false

end Rate

/-- Why a tick synchronises everything again. -/
inductive ResyncReason where
  | firstRun | newCommit | lastAttemptFailed | forced | everyTick
  deriving DecidableEq

def ResyncReason.text : ResyncReason → String
  | firstRun => "first-run"
  | newCommit => "new-commit"
  | lastAttemptFailed => "last-attempt-failed"
  | forced => "forced"
  | everyTick => "every-tick"

inductive SyncDecision where
  | skip
  | resync (reason : ResyncReason)
  deriving DecidableEq

def SyncDecision.text : SyncDecision → String
  | skip => "skip"
  | resync reason => reason.text

/-- Ticks counted since everything was last synchronised. Every `limit`-th tick synchronises whether
something changed or not. -/
structure DriftWindow where
  ticks : Nat
  limit : Nat
  deriving DecidableEq

namespace DriftWindow

def start (limit : Nat) : DriftWindow :=
  ⟨0, max limit 1⟩

def reset (window : DriftWindow) : DriftWindow :=
  { window with ticks := 0 }

/-- Decides one tick from the commit applied last, the commit found remotely and whether the last
attempt went well. -/
def decide (window : DriftWindow) (applied : Option String) (remote : String) (succeeded : Bool) :
    SyncDecision × DriftWindow :=
  match applied.bind Text.nonEmpty? with
  | none => (.resync .firstRun, window.reset)
  | some commit =>
    let ticks := window.ticks + 1
    if window.limit ≤ ticks then (.resync .forced, window.reset)
    else if commit ≠ remote then (.resync .newCommit, window.reset)
    else if !succeeded then (.resync .lastAttemptFailed, window.reset)
    else (.skip, { window with ticks := ticks })

end DriftWindow

end GitDelivery
