import GitDelivery.Backoff
import GitDelivery.Hook.Registry
import GitDelivery.Sync.Loop

set_option autoImplicit false

/-! Bringing a subscription's delivery in line with what the subscription asks for: hooks before the
deployment, the loop that deploys, and hooks after it. Nothing is waited for; a pass that cannot go
on says when the next one is to be made. -/

namespace GitDelivery

/-- What is known of all subscriptions. Failures are kept by the text of the subscription's key. -/
structure Controller where
  loops : SyncLoops := []
  hooks : HookRecords := []
  failures : Table FailureRecord := []

/-- What follows a pass: another one after so many seconds, or none until something changes. -/
inductive NextPass where
  | afterChange
  | afterSeconds (seconds : Nat)
  deriving DecidableEq

inductive ReconcileError where
  | channel (key : ObjectKey) (reason : String)
  | hook (error : HookError)
  | hookStatus (reason : String)
  deriving DecidableEq

namespace ReconcileError

def reason : ReconcileError → String
  | channel key reason => "failed to read channel " ++ key.text ++ ": " ++ reason
  | hook error => error.message
  | hookStatus reason => "failed to write hook status: " ++ reason

def message (error : ReconcileError) : String :=
  "Reconciliation failed: " ++ error.reason

end ReconcileError

/-- A step of a pass. What it changed stays changed if it fails. -/
abbrev Pass (α : Type) := ExceptT ReconcileError (StateT Controller Work) α

namespace Pass

variable {α : Type}

def ask (failed : String → ReconcileError) (request : Work (Except String α)) : Pass α := do
  match ← (liftM request : StateT Controller Work (Except String α)) with
  | .ok value => return value
  | .error reason => throw (failed reason)

/-- Work on the hooks, which may fail. -/
def onHooks (work : HookRecords → Work (Except HookError α × HookRecords)) : Pass α := do
  let (result, hooks) ← (liftM (work (← get).hooks) : StateT Controller Work _)
  modify fun controller => { controller with hooks := hooks }
  match result with
  | .ok value => return value
  | .error error => throw (.hook error)

def setLoops (loops : SyncLoops) : Pass Unit :=
  modify fun controller => { controller with loops := loops }

end Pass

namespace Controller

def teardown (key : ObjectKey) (controller : Controller) : Controller :=
  { loops := Registry.erase key controller.loops
    hooks := Registry.erase key controller.hooks
    failures := Table.erase key.text controller.failures }

/-- Failures are counted anew after a pass that went well. -/
def forgive (key : ObjectKey) (controller : Controller) : Controller :=
  match Table.get? key.text controller.failures with
  | some record =>
    { controller with failures := Table.insert key.text record.reset controller.failures }
  | none => controller

/-- Counts a failed pass, and says after how many seconds to try again. -/
def countFailure (settings : Settings) (key : ObjectKey) (controller : Controller) :
    Nat × Controller :=
  let record := (Table.get? key.text controller.failures).getD
    (.start settings.backoffLeast settings.backoffMost)
  let (delay, record) := record.fail
  (delay, { controller with failures := Table.insert key.text record controller.failures })

/-- Does a subscription have a loop, but one of another generation? -/
def hasOutdatedLoop (subscription : Subscription) (controller : Controller) : Bool :=
  Registry.contains subscription.key controller.loops
    && SyncLoops.generation? subscription.key controller.loops ≠ subscription.metadata.generation

end Controller

namespace Pass

/-- Submits the jobs before the deployment and asks whether they are done. -/
def preHooksCompleted (context : Context) (key : ObjectKey) : Pass Bool := do
  if HookRecords.hasHooks key .pre (← get).hooks then
    onHooks (HookRecords.submit context key .pre)
    onHooks fun hooks => do return (← HookRecords.areCompleted key .pre hooks, hooks)
  else return true

/-- Sees to it that a loop of the subscription's generation runs. -/
def ensureLoop (context : Context) (subscription : Subscription) (now : Nat) : Pass Unit := do
  let controller ← get
  if !Registry.contains subscription.key controller.loops then
    setLoops (controller.loops.start context subscription false now).2
  else if controller.hasOutdatedLoop subscription then
    setLoops (controller.loops.start context subscription true now).2

/-- A loop of another generation must not go on while the hooks of this one are not done. -/
def stopOutdatedLoop (subscription : Subscription) : Pass Unit := do
  let controller ← get
  if controller.hasOutdatedLoop subscription then
    setLoops (controller.loops.stop subscription.key).2

/-- Writes what there is to tell about the hooks into the subscription's status, if that is news. -/
def writeHookStatus (subscription : Subscription) : Pass Unit := do
  let hooks := (HookRecords.extendStatus subscription (← get).hooks).hooks
  if hooks.isSome && hooks ≠ subscription.status.bind SubscriptionStatus.hooks then
    ask .hookStatus (Work.ask (.writeStatus subscription.key { hooks := hooks }))

/-- Submits the jobs after the deployment once it went well; gives the seconds to the next pass. -/
def postHooks (context : Context) (key : ObjectKey) : Pass Nat := do
  let controller ← get
  if HookRecords.hasHooks key .post controller.hooks then
    if controller.loops.lastSuccess? key = some true then
      onHooks (HookRecords.submit context key .post)
      return context.settings.resyncSeconds
    else return context.settings.hookPollSeconds
  else return context.settings.resyncSeconds

/-- The pass for a subscription whose channel is a Git repository. -/
def deliver (context : Context) (subscription : Subscription) (now : Nat) : Pass NextPass := do
  let key := subscription.key
  onHooks (HookRecords.register context key)
  if ← preHooksCompleted context key then
    ensureLoop context subscription now
    let seconds ← postHooks context key
    writeHookStatus subscription
    modify (Controller.forgive key)
    return .afterSeconds seconds
  else
    stopOutdatedLoop subscription
    writeHookStatus subscription
    return .afterSeconds context.settings.hookPollSeconds

/-- One pass for a subscription. One that is being deleted, or deploys from elsewhere than a Git
repository, is forgotten. -/
def reconcile (context : Context) (subscription : Subscription) (now : Nat) : Pass NextPass := do
  let key := subscription.key
  if subscription.metadata.deletionTimestamp.isSome then
    modify (Controller.teardown key)
    return .afterChange
  let channelKey := subscription.channelKey
  match ← ask (.channel channelKey) (Work.ask (.channel channelKey)) with
  | none => return .afterSeconds context.settings.resyncSeconds
  | some channel =>
    if channel.isGit then deliver context subscription now
    else
      modify (Controller.teardown key)
      return .afterChange

end Pass

namespace Controller

/-- Makes a pass; gives its result and what is known after it. -/
def pass (context : Context) (subscription : Subscription) (now : Nat) (controller : Controller) :
    Work (Except ReconcileError NextPass × Controller) :=
  ((Pass.reconcile context subscription now).run).run controller

end Controller

end GitDelivery
