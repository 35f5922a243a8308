import GitDelivery.Cluster.Failure
import GitDelivery.Resource.Channel
import GitDelivery.Resource.Secret
import GitDelivery.Sync.Outcome

set_option autoImplicit false

/-! Objects of delivery itself, as they are on the cluster. Nothing is remembered between requests. -/

namespace GitDelivery.Cluster.Store

def subscription? (key : ObjectKey) : ExceptT ClusterError Exchange (Option Subscription) :=
  Exchange.trying (.readSubscription key) (Exchange.find? Subscription.decode .subscriptions key)

def channel? (key : ObjectKey) : ExceptT ClusterError Exchange (Option Channel) :=
  Exchange.trying (.readChannel key) (Exchange.find? Channel.decode .channels key)

def secret? (key : ObjectKey) : ExceptT ClusterError Exchange (Option Secret) :=
  Exchange.trying (.readSecret key) (Exchange.find? .secret .secrets key)

def configMap? (key : ObjectKey) : ExceptT ClusterError Exchange (Option ConfigMap) :=
  Exchange.trying (.readConfigMap key) (Exchange.find? .configMap .configMaps key)

def job? (key : ObjectKey) : ExceptT ClusterError Exchange (Option HookJob) :=
  Exchange.trying (.readJob key) (Exchange.find? HookJob.decode .hookJobs key)

private def patchStatus (key : ObjectKey) (status : SubscriptionStatus) :
    ExceptT ApiError Exchange Unit := do
  let answer ← Exchange.patchStatus .subscriptions key status.toJson
  let _ ← Exchange.read Subscription.decode answer

def writeStatus (key : ObjectKey) (status : SubscriptionStatus) : ExceptT ClusterError Exchange Unit :=
  Exchange.trying (.writeStatus key) (patchStatus key status)

/-- Says on a subscription how its deployment went as a whole. -/
def reportOverall (subscription : Subscription) (failed : Bool) (message : String)
    (now : Time.Instant) : ExceptT ClusterError Exchange Unit :=
  let phase := if failed then Phase.failed else .subscribed
  Exchange.trying (.reportOverall subscription.key)
    (patchStatus subscription.key (.ofPhase phase message now))

def submit (job : HookJob) : ExceptT ClusterError Exchange Unit :=
  let key : ObjectKey := ⟨job.key.space, job.metadata.anyName⟩
  Exchange.trying (.submitJob key) do
    let _ ← Exchange.apply .hookJobs (some key.space) key.name false job.toJson

end GitDelivery.Cluster.Store
