import GitDelivery.Context
import GitDelivery.Hook.Ledger
import GitDelivery.Hook.Template
import GitDelivery.Registry
import GitDelivery.Repository.ResourcePath
import GitDelivery.Repository.Source
import GitDelivery.Repository.WorkingCopy

set_option autoImplicit false

/-! The hooks of every subscription: which jobs each side of a deployment has, for which generation
they were made, submitting them, and whether they are done. -/

namespace GitDelivery

/-- The generation is missing until the templates of one were downloaded. -/
structure HookRecord where
  generation : Option Int := none
  pre : JobLedger := {}
  post : JobLedger := {}

namespace HookRecord

def side (record : HookRecord) : HookSide → JobLedger
  | .pre => record.pre
  | .post => record.post

def setSide (record : HookRecord) (ledger : JobLedger) : HookSide → HookRecord
  | .pre => { record with pre := ledger }
  | .post => { record with post := ledger }

/-- No jobs for any generation; what was submitted is remembered. -/
def cleared (record : HookRecord) : HookRecord :=
  { generation := none, pre := record.pre.continuing, post := record.post.continuing }

end HookRecord

abbrev HookRecords := Registry HookRecord

inductive HookError where
  | unreadable (reason : String)
  | channel (error : ChannelError)
  | remote (error : RemoteError)
  | download (reason : String)
  | path (error : FilePath.JoinError)
  | submit (job : ObjectKey) (reason : String)
  deriving DecidableEq

def HookError.message : HookError → String
  | unreadable reason => reason
  | channel error => error.message
  | remote error => error.message
  | download reason => "failed to download hook templates: " ++ reason
  | path error => error.message
  | submit job reason => "failed to submit hook job " ++ job.text ++ ": " ++ reason

structure HookTemplates where
  pre : List HookJob
  post : List HookJob

namespace HookTemplates

def isEmpty (templates : HookTemplates) : Bool :=
  templates.pre.isEmpty && templates.post.isEmpty

/-- The templates in a checkout. A side with a template that cannot be read has none. -/
def ofTree (tree : FileTree) (directory : String) : HookTemplates :=
  let found (side : HookSide) : List HookJob :=
    match HookTemplate.discover tree (FilePath.push directory side.directory) with
    | .ok jobs => jobs
    | .error _ => []
  ⟨found .pre, found .post⟩

def download (subscription : Subscription) (root : String) : ExceptT HookError Work HookTemplates := do
  let channels ← ExceptT.adapt .channel (Channels.load subscription)
  let options ← ExceptT.adapt .remote (CloneOptions.ofSubscription subscription channels root)
  let checkout ← Work.attempt .download options.fetch
  let path := (PathSource.first? subscription none PathSource.forHooks).map Prod.snd
  let directory ← Work.known ((FilePath.joinWithin root path).mapError .path)
  return ofTree checkout.tree directory

end HookTemplates

namespace HookRecord

/-- The clusters that jobs are told about: those of a placement elsewhere, if they are known. -/
def clustersFor (subscription : Subscription) (templates : HookTemplates) : Work (List String) := do
  if templates.isEmpty || subscription.spec.placement.all Placement.deploysHere then return []
  else
    match ← Work.ask (.clusters subscription) with
    | .ok clusters => return clusters
    | .error _ => return []

def enroll (makeJob : HookJob → HookJob) (templates : List HookJob) (ledger : JobLedger) : JobLedger :=
  templates.foldl (fun ledger template =>
    ledger.register template.metadata.anyName (makeJob template)) ledger

/-- The record of a generation whose templates are known. -/
def renew (context : Context) (subscription : Subscription) (templates : HookTemplates)
    (clusters : List String) (record : HookRecord) : HookRecord :=
  let makeJob := HookJob.ofTemplate subscription (context.hookSuffix subscription) clusters
  { generation := subscription.metadata.generation
    pre := enroll makeJob templates.pre record.pre.continuing
    post := enroll makeJob templates.post record.post.continuing }

/-- Were the templates of the subscription's generation downloaded already? -/
def isCurrent (subscription : Subscription) (record : HookRecord) : Bool :=
  record.generation.isSome && record.generation = subscription.metadata.generation

/-- The record after looking for the subscription's templates. If they cannot be downloaded it is
cleared, so that the next time they are looked for again. -/
def refresh (context : Context) (key : ObjectKey) (subscription : Subscription)
    (record : HookRecord) : Work (Except HookError Unit × HookRecord) := do
  if record.isCurrent subscription then return (.ok (), record)
  else
    let root := WorkingCopy.directoryOf (FilePath.push context.settings.gitRoot "hooks") key
    match ← (HookTemplates.download subscription root).run with
    | .error error => return (.error error, record.cleared)
    | .ok templates =>
      let clusters ← clustersFor subscription templates
      return (.ok (), record.renew context subscription templates clusters)

/-- Submits jobs that are not there yet, and notes all of them. The first failure ends it. -/
def submitAll (limit : Nat) : List HookJob → JobLedger → Work (Except HookError Unit × JobLedger)
  | [], ledger => return (.ok (), ledger)
  | job :: rest, ledger => do
    match ← Work.ask (.job job.key) with
    | .error reason => return (.error (.unreadable reason), ledger)
    | .ok (some _) => submitAll limit rest (ledger.recordApplied limit job.key)
    | .ok none =>
      match ← Work.ask (.submit job) with
      | .error reason => return (.error (.submit job.key reason), ledger)
      | .ok () => submitAll limit rest (ledger.recordApplied limit job.key)

def allSucceeded : List HookJob → Work (Except HookError Bool)
  | [] => return .ok true
  | job :: rest => do
    match ← Work.ask (.job job.key) with
    | .error reason => return .error (.unreadable reason)
    | .ok found => if found.any HookJob.hasSucceeded then allSucceeded rest else return .ok false

def isBlank (record : HookRecord) : Bool :=
  record.pre.isEmpty && record.post.isEmpty
    && record.pre.lastApplied?.isNone && record.post.lastApplied?.isNone

def status (record : HookRecord) : HookStatus :=
  { lastPre := record.pre.lastAppliedText, preHistory := record.pre.history
    lastPost := record.post.lastAppliedText, postHistory := record.post.history }

end HookRecord

namespace HookRecords

/-- The channel of a subscription if it is a Git repository. -/
def gitChannel? (subscription : Subscription) : ExceptT HookError Work (Option Channel) := do
  let channel ← Work.attempt .unreadable (Work.ask (.channel subscription.channelKey))
  return channel.filter Channel.isGit

/-- The subscription if it is there and deploys from a Git repository. -/
def gitSubscription? (key : ObjectKey) : ExceptT HookError Work (Option Subscription) := do
  match ← Work.attempt .unreadable (Work.ask (.subscription key)) with
  | none => return none
  | some subscription => return (← gitChannel? subscription).map fun _ => subscription

/-- Brings the record of a subscription up to date. Subscriptions that are not there, or deploy from
elsewhere than a Git repository, are left alone. -/
def register (context : Context) (key : ObjectKey) (records : HookRecords) :
    Work (Except HookError Unit × HookRecords) := do
  match ← (gitSubscription? key).run with
  | .error error => return (.error error, records)
  | .ok none => return (.ok (), records)
  | .ok (some subscription) =>
    let record := (Registry.find? key records).getD {}
    let (result, record) ← record.refresh context key subscription
    return (result, Registry.set key record records)

def hasHooks (key : ObjectKey) (side : HookSide) (records : HookRecords) : Bool :=
  (Registry.find? key records).any fun record => !(record.side side).isEmpty

def submit (context : Context) (key : ObjectKey) (side : HookSide) (records : HookRecords) :
    Work (Except HookError Unit × HookRecords) := do
  match Registry.find? key records with
  | none => return (.ok (), records)
  | some record =>
    let ledger := record.side side
    let (result, ledger) ←
      HookRecord.submitAll context.settings.hookHistoryLimit ledger.latest ledger
    return (result, Registry.set key (record.setSide ledger side) records)

def areCompleted (key : ObjectKey) (side : HookSide) (records : HookRecords) :
    Work (Except HookError Bool) :=
  match Registry.find? key records with
  | none => return .ok true
  | some record => HookRecord.allSucceeded (record.side side).latest

/-- The jobs submitted last before and after deployments, as texts. -/
def lastApplied (key : ObjectKey) (records : HookRecords) : String × String :=
  let record := (Registry.find? key records).getD {}
  (record.pre.lastAppliedText, record.post.lastAppliedText)

def hookStatus? (key : ObjectKey) (records : HookRecords) : Option HookStatus :=
  ((Registry.find? key records).filter fun record => !record.isBlank).map HookRecord.status

/-- The subscription's status with what there is to tell about its hooks. -/
def extendStatus (subscription : Subscription) (records : HookRecords) : SubscriptionStatus :=
  let status := subscription.status.getD {}
  match hookStatus? subscription.key records with
  | some hooks => { status with hooks := some hooks }
  | none => status

end HookRecords

end GitDelivery
