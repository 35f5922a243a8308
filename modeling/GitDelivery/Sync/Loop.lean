import GitDelivery.Registry
import GitDelivery.Sync.Item

set_option autoImplicit false

/-! Loops that synchronise subscriptions in the background. A loop tries the first tick until it goes
well or its attempts are used up, and then ticks at its period, if it has one. Times are
milliseconds of a clock that never goes back. -/

namespace GitDelivery

/-- What a loop does next: an attempt at its first tick, a tick of its period, or nothing more. -/
inductive LoopPhase where
  | initial (attempt due : Nat)
  | periodic (due : Nat)
  | finished
  deriving DecidableEq

namespace LoopPhase

def due? : LoopPhase → Option Nat
  | initial _ due => some due
  | periodic due => some due
  | finished => none

def trigger : LoopPhase → Trigger
  | initial _ _ => .initial
  | periodic _ | finished => .periodic

def nextPeriod (schedule : SyncSchedule) (now : Nat) : LoopPhase :=
  match schedule.period with
  | some seconds => periodic (now + 1000 * seconds)
  | none => finished

def after (schedule : SyncSchedule) (now : Nat) (wentWell : Bool) : LoopPhase → LoopPhase
  | initial attempt _ =>
    if wentWell || schedule.retries ≤ attempt then nextPeriod schedule now
    else initial (attempt + 1) (now + 1000 * schedule.retryInterval)
  | periodic _ => nextPeriod schedule now
  | finished => finished

end LoopPhase

/-- A loop was started for one generation of its subscription. -/
structure SyncLoop where
  generation : Option Int
  item : SyncItem
  phase : LoopPhase
  deriving DecidableEq

def TickResult.isOk : TickResult → Bool
  | .ok _ => true
  | .error _ => false

namespace SyncLoop

/-- The tick that is due, made now. -/
def step (context : Context) (now : Nat) (loop : SyncLoop) : Work SyncLoop := do
  let (result, item) ← loop.item.run context loop.phase.trigger
  return { loop with
    item := item
    phase := loop.phase.after item.rate.schedule now result.isOk }

end SyncLoop

/-- The loops that were started and not stopped, ended or not. -/
abbrev SyncLoops := Registry SyncLoop

namespace SyncLoops

/-- Starts a loop for a subscription. One that has not ended is left alone unless it is to be
restarted. Says whether a loop was started. -/
def start (context : Context) (subscription : Subscription) (restart : Bool) (now : Nat)
    (loops : SyncLoops) : Bool × SyncLoops :=
  let key := subscription.key
  let fresh : SyncLoop :=
    { generation := subscription.metadata.generation
      item := .ofSubscription context.settings subscription
      phase := .initial 0 now }
  match Registry.find? key loops with
  | some loop =>
    if !restart && loop.phase ≠ .finished then (false, loops)
    else (true, Registry.set key fresh loops)
  | none => (true, Registry.set key fresh loops)

def stop (key : ObjectKey) (loops : SyncLoops) : Bool × SyncLoops :=
  (Registry.contains key loops, Registry.erase key loops)

/-- The generation that the loop of a subscription was started for. -/
def generation? (key : ObjectKey) (loops : SyncLoops) : Option Int :=
  (Registry.find? key loops).bind SyncLoop.generation

def lastSuccess? (key : ObjectKey) (loops : SyncLoops) : Option Bool :=
  (Registry.find? key loops).map (·.item.successful)

def lastCommit? (key : ObjectKey) (loops : SyncLoops) : Option String :=
  (Registry.find? key loops).bind (·.item.lastCommit)

/-- A tick outside the schedule, if the subscription has a loop. -/
def syncNow (context : Context) (key : ObjectKey) (loops : SyncLoops) :
    Work (Option TickResult × SyncLoops) := do
  match Registry.find? key loops with
  | none => return (none, loops)
  | some loop =>
    let (result, item) ← loop.item.run context .manual
    return (some result, Registry.set key { loop with item := item } loops)

end SyncLoops

end GitDelivery
