import GitDelivery.Repository.Source

set_option autoImplicit false

/-! How one tick of synchronising a subscription can end, and what the subscription's status says
about it. -/

namespace GitDelivery

/-- What made a tick happen: the start of a loop, its period, or an event from outside. -/
inductive Trigger where
  | initial | periodic | manual
  deriving DecidableEq

inductive TickSkip where
  | timeWindow | paused | awaitingWebhook | unchangedCommit
  deriving DecidableEq

def TickSkip.text : TickSkip → String
  | timeWindow => "time-window"
  | paused => "paused"
  | awaitingWebhook => "awaiting-webhook"
  | unchangedCommit => "unchanged-commit"

inductive TickOutcome where
  | applied (count : Nat) (commit : String)
  | skipped (reason : TickSkip)
  deriving DecidableEq

/-- Why a tick failed. Something that is missing is no failure of the subscription itself. -/
inductive SyncError where
  | notFound (what : String)
  | fetch (reason : String)
  | classification (reason : String)
  | kustomization (reason : String)
  | nothingToDeploy (reason : String)
  | deployment (reason : String)
  deriving DecidableEq

namespace SyncError

def message : SyncError → String
  | notFound what => what ++ " not found"
  | kustomization reason => "failed to apply kustomization: " ++ reason
  | fetch reason | classification reason | nothingToDeploy reason | deployment reason => reason

def isNotFound : SyncError → Bool
  | notFound _ => true
  | _ => false

def ofChannelError : ChannelError → SyncError
  | .unreadable key reason => fetch (ChannelError.message (.unreadable key reason))
  | .missing key => notFound ("channel " ++ key.text)
  | .missingSecondary key => notFound ("secondary channel " ++ key.text)

end SyncError

abbrev TickResult := Except SyncError TickOutcome

/-- Did the tick decide how the subscription stands? Skipped ticks do not, nor do those that found
something missing. -/
def TickResult.isDecisive : TickResult → Bool
  | .ok (.applied _ _) => true
  | .ok (.skipped _) => false
  | .error error => !error.isNotFound

inductive Phase where
  | subscribed | failed
  deriving DecidableEq

def Phase.text : Phase → String
  | subscribed => "Subscribed"
  | failed => "Failed"

namespace SubscriptionStatus

def ofPhase (phase : Phase) (message : String) (now : Time.Instant) : SubscriptionStatus :=
  { phase := some phase.text, message := some message, lastUpdateTime := some now.text }

/-- What the status says after a tick, if it says something new. Messages are cut after `limit`
characters. -/
def afterTick (limit : Nat) (now : Time.Instant) : TickResult → Option SubscriptionStatus
  | .ok (.applied _ _) => some (ofPhase .subscribed "" now)
  | .ok (.skipped _) => none
  | .error error =>
    if error.isNotFound then none
    else some (ofPhase .failed (Text.truncate limit error.message) now)

end SubscriptionStatus

end GitDelivery
