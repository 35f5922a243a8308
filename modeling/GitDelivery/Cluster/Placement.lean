import GitDelivery.Cluster.Failure
import GitDelivery.Resource.Subscription

set_option autoImplicit false

/-! The clusters that a subscription is for. A placement that is referred to goes before clusters
that are named, and those go before clusters that are selected. -/

namespace GitDelivery.Cluster.Placement

def decidedClusters (object : DynamicObject) : List String :=
  let decisions := ((Json.object object.others).at? ["status", "decisions"]).bind Json.items?
  (decisions.getD []).filterMap fun decision => (decision.textAt? "clusterName").bind Text.nonEmpty?

/-- Decisions of a placement, or those that a placement rule holds itself. -/
def decisions (reference : ObjectReference) (key : ObjectKey) :
    ExceptT ClusterError Exchange (List DynamicObject) := do
  if reference.kind = some "Placement" then
    Exchange.trying (.listDecisions key)
      (Exchange.list .placementDecisions (some key.space) (some (Vocabulary.placementLabel, key.name)))
  else
    let rule ← Exchange.trying (.readPlacementRule key)
      (Exchange.find? DynamicObject.decode .placementRules key)
    return rule.toList

/-- Names in ascending order, each of them once. -/
def sorted (names : List String) : List String :=
  (Table.ofList (names.map (·, ()))).keys

def select (selector : LabelSelector) :
    List DynamicObject → ExceptT ClusterError Exchange (List String)
  | [] => return []
  | cluster :: rest => do
    let labels := cluster.metadata.labels.getD []
    let selected ← Exchange.known ((selector.selects labels).mapError .selector)
    let others ← select selector rest
    return if selected then cluster.metadata.anyName :: others else others

/-- The clusters of a subscription; none for one that deploys where it is itself. -/
def clusters (subscription : Subscription) : ExceptT ClusterError Exchange (List String) := do
  let some placement := subscription.spec.placement | return []
  if placement.deploysHere then return []
  match placement.reference.filter (!·.name.isEmpty), placement.clusters, placement.selector with
  | some reference, _, _ =>
    let objects ← decisions reference (reference.key subscription.space)
    return sorted (objects.flatMap decidedClusters)
  | none, first :: rest, _ => return first :: rest
  | none, [], some selector =>
    let managed ← Exchange.trying .listClusters (Exchange.list .managedClusters none none)
    select selector managed
  | none, [], none => return []

end GitDelivery.Cluster.Placement
