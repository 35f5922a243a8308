import GitDelivery.Repository.WorkingCopy
import GitDelivery.Sync.Assembly
import GitDelivery.SyncSchedule

set_option autoImplicit false

/-! One tick of synchronising a subscription, and what is remembered from one tick to the next. -/

namespace GitDelivery

/-- The rate stays what it was when the item was made. -/
structure SyncItem where
  key : ObjectKey
  rate : Rate
  directory : String
  lastCommit : Option String
  drift : DriftWindow
  successful : Bool
  deriving DecidableEq

namespace Subscription

/-- Why a subscription is not to be synchronised at a time, unless someone asks for it. -/
def blockedAt? (now : Time.Instant) (subscription : Subscription) : Option TickSkip :=
  if subscription.spec.timeWindow.any (·.excludes now) then some .timeWindow
  else if subscription.isPaused then some .paused
  else none

end Subscription

namespace SyncItem

def ofSubscription (settings : Settings) (subscription : Subscription) : SyncItem :=
  { key := subscription.key
    rate := .ofText subscription.rateText?
    directory := WorkingCopy.directoryOf settings.gitRoot subscription.key
    lastCommit := none
    drift := .start settings.forcedResyncTicks
    successful := false }

/-- Do time window and pause apply to a tick? The single run of a subscription without a period is
asked for by whoever made it. -/
def isGated (item : SyncItem) : Trigger → Bool
  | .periodic => true
  | .initial => item.rate ≠ .off
  | .manual => false

/-- Why a tick is skipped before anything is fetched. An event from outside is what a webhook
waits for. -/
def skipAt? (item : SyncItem) (trigger : Trigger) (now : Time.Instant)
    (subscription : Subscription) : Option TickSkip :=
  let blocked := if item.isGated trigger then subscription.blockedAt? now else none
  let awaiting :=
    if trigger ≠ .manual && subscription.awaitsWebhook && item.successful then
      some TickSkip.awaitingWebhook
    else none
  blocked.or awaiting

def skip? (item : SyncItem) (trigger : Trigger) (subscription : Subscription) :
    Work (Option TickSkip) := do
  let now ← Work.ask .time
  return item.skipAt? trigger now subscription

def read (key : ObjectKey) : ExceptT SyncError Work Subscription := do
  let found ← Work.attempt (fun reason => .fetch ("failed to read subscription: " ++ reason))
    (Work.ask (.subscription key))
  match found with
  | some subscription => return subscription
  | none => throw (.notFound ("subscription " ++ key.text))

def cloneOptions (subscription : Subscription) (directory : String) :
    ExceptT SyncError Work CloneOptions := do
  let channels ← ExceptT.adapt .ofChannelError (Channels.load subscription)
  ExceptT.adapt (fun error => .fetch error.message)
    (CloneOptions.ofSubscription subscription channels directory)

/-- Decides whether anything is to be fetched. A remote that cannot be asked counts as changed. -/
def decide (item : SyncItem) (options : CloneOptions) : Work (SyncDecision × DriftWindow) := do
  if !item.rate.skipsUnchanged then return (.resync .everyTick, item.drift)
  else
    match item.lastCommit with
    | none => return item.drift.decide none "" item.successful
    | some commit =>
      match ← options.remoteHead with
      | .ok head => return item.drift.decide (some commit) head item.successful
      | .error _ => return (.resync .newCommit, item.drift.reset)

/-- Fetches and deploys everything; gives the number of objects and the commit. -/
def resync (context : Context) (subscription : Subscription) (wentWell : Bool)
    (options : CloneOptions) : ExceptT SyncError Work (Nat × String) := do
  let checkout ← Work.attempt
    (fun reason => .fetch ("failed to clone " ++ options.primary.url ++ ": " ++ reason))
    options.fetch
  let count ← Assembly.deploy context subscription wentWell options checkout.tree
  return (count, checkout.commit)

/-- One tick up to its result. -/
def sync (context : Context) (trigger : Trigger) (item : SyncItem) : Work (TickResult × SyncItem) := do
  match ← (read item.key).run with
  | .error error => return (.error error, item)
  | .ok subscription =>
    match ← item.skip? trigger subscription with
    | some reason => return (.ok (.skipped reason), item)
    | none =>
      match ← (cloneOptions subscription item.directory).run with
      | .error error => return (.error error, item)
      | .ok options =>
        let (decision, drift) ← item.decide options
        let item := { item with drift := drift }
        match decision with
        | .skip => return (.ok (.skipped .unchangedCommit), item)
        | .resync _ =>
          match ← (resync context subscription item.successful options).run with
          | .error error => return (.error error, item)
          | .ok (count, commit) =>
            return (.ok (.applied count commit),
              { item with lastCommit := some commit, successful := true })

/-- The item after a tick with that result: a failure is remembered. -/
def settle (item : SyncItem) : TickResult → SyncItem
  | .error error => if error.isNotFound then item else { item with successful := false }
  | .ok _ => item

def tick (context : Context) (trigger : Trigger) (item : SyncItem) : Work (TickResult × SyncItem) := do
  let (result, item) ← item.sync context trigger
  return (result, item.settle result)

/-- One tick, after which the subscription's status is written if it says something new. A status
that cannot be written changes nothing. -/
def run (context : Context) (trigger : Trigger) (item : SyncItem) : Work (TickResult × SyncItem) := do
  let (result, item) ← item.tick context trigger
  let now ← Work.ask .time
  if let some status := SubscriptionStatus.afterTick context.settings.messageLimit now result then
    let _ ← Work.ask (.writeStatus item.key status)
  return (result, item)

end SyncItem

end GitDelivery
