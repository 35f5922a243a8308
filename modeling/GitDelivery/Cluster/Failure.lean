import GitDelivery.Cluster.DeployedObject
import GitDelivery.Cluster.Exchange
import GitDelivery.LabelSelector

set_option autoImplicit false

/-! What can go wrong on a cluster, and how it is reported. -/

namespace GitDelivery.Cluster

inductive Attempt where
  | readSubscription (key : ObjectKey)
  | readChannel (key : ObjectKey)
  | readSecret (key : ObjectKey)
  | readConfigMap (key : ObjectKey)
  | readJob (key : ObjectKey)
  | readPlacementRule (key : ObjectKey)
  | listDecisions (placement : ObjectKey)
  | listClusters
  | writeStatus (key : ObjectKey)
  | reportOverall (key : ObjectKey)
  | submitJob (job : ObjectKey)
  | apply (kind name : String)
  | delete (object : DeployedObject)
  deriving DecidableEq

def Attempt.text : Attempt → String
  | readSubscription key => "get subscription " ++ key.text
  | readChannel key => "get channel " ++ key.text
  | readSecret key => "get secret " ++ key.text
  | readConfigMap key => "get config map " ++ key.text
  | readJob key => "get AnsibleJob " ++ key.text
  | readPlacementRule key => "get placement rule " ++ key.text
  | listDecisions placement => "list placement decisions of " ++ placement.text
  | listClusters => "list managed clusters"
  | writeStatus key => "update status of subscription " ++ key.text
  | reportOverall key => "update overall status of " ++ key.text
  | submitJob job => "apply AnsibleJob " ++ job.text
  | apply kind name => "apply " ++ kind ++ " " ++ name
  | delete object => "delete " ++ object.text

inductive ClusterError where
  | failed (attempt : Attempt) (cause : ApiError)
  | unknownKind (kind : ResourceKind)
  | selector (error : SelectorError)
  deriving DecidableEq

def ClusterError.message : ClusterError → String
  | failed attempt cause => "failed to " ++ attempt.text ++ ": " ++ cause.message
  | unknownKind kind =>
    "unknown resource type " ++ kind.group ++ "/" ++ kind.version ++ " " ++ kind.kind
  | selector error => error.message

end Cluster

namespace Exchange

/-- A failure is one of what was tried. -/
def trying {α : Type} (attempt : Cluster.Attempt) (work : ExceptT Cluster.ApiError Exchange α) :
    ExceptT Cluster.ClusterError Exchange α :=
  explain (.failed attempt) work

end Exchange

end GitDelivery
