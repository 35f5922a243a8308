import GitDelivery.Cluster.Failure
import GitDelivery.Cluster.Rules
import GitDelivery.Registry
import GitDelivery.Work

set_option autoImplicit false

/-! Brings what is wanted onto a cluster and takes away what no longer is. What was brought for a
subscription is remembered as long as the engine lives. -/

namespace GitDelivery.Cluster

/-- The kinds that were there when the engine was made, and the objects that it deployed for each
subscription. -/
structure Engine where
  kinds : List ServedKind
  deployed : Registry (List DeployedObject) := []

namespace Engine

/-- Kinds whose objects are in no namespace, for servers that do not know them. -/
def clusterKinds : List String :=
  ["Namespace", "CustomResourceDefinition", "ClusterRole", "ClusterRoleBinding", "PersistentVolume",
    "StorageClass", "PriorityClass", "APIService", "MutatingWebhookConfiguration",
    "ValidatingWebhookConfiguration", "IngressClass", "RuntimeClass", "Node"]

def findKind? (kind : ResourceKind) (kinds : List ServedKind) : Option ServedKind :=
  kinds.find? (·.kind = kind)

/-- Are objects of a kind in namespaces, as far as the engine knows? -/
def isNamespaced (engine : Engine) (kind : ResourceKind) : Bool :=
  match findKind? kind engine.kinds with
  | some served => served.isNamespaced
  | none => !clusterKinds.contains kind.kind

def deployedFor (key : ObjectKey) (engine : Engine) : List DeployedObject :=
  (engine.deployed.find? key).getD []

/-- A kind as the server offers it. Kinds may have come since the engine was made. -/
def resolve (engine : Engine) (kind : ResourceKind) : ExceptT ClusterError Exchange ServedKind :=
  ExceptT.mk do
    match findKind? kind engine.kinds with
    | some served => return .ok served
    | none =>
      match findKind? kind (← Exchange.ask (.kinds kind.apiVersion)) with
      | some served => return .ok served
      | none => return .error (.unknownKind kind)

/-- The object of an item as it is sent: in its namespace, and without what the server keeps. -/
def placed (space : Option String) (object : DynamicObject) : DynamicObject :=
  { object with
    metadata := { object.metadata with
      space := space, resourceVersion := none, managedFields := none } }

/-- Brings one item onto the cluster. One that is in no namespace is left out unless the subscription
may have such. -/
def applyItem (engine : Engine) (batch : Batch) (item : Deployable) :
    ExceptT ClusterError Exchange (Option DeployedObject) := do
  let served ← engine.resolve item.kind
  if !served.isNamespaced && !batch.clusterAdmin then return none
  let space := if served.isNamespaced then
      some ((Text.nonEmpty? item.space).getD batch.subscription.space)
    else none
  let _ ← Exchange.trying (.apply item.kind.kind item.name)
    (Exchange.apply served space item.name batch.dryRun (placed space item.object).toJson)
  return some ⟨item.kind, space, item.name⟩

/-- Brings the items that are allowed onto the cluster one after the other, and goes on after
failures. -/
def applyAll (engine : Engine) (batch : Batch) :
    List Deployable → Exchange (List DeployedObject × List ClusterError)
  | [] => return ([], [])
  | item :: rest => do
    if item.kind.isAllowed batch.allow batch.deny then
      let outcome ← (engine.applyItem batch item).run
      let (applied, errors) ← engine.applyAll batch rest
      match outcome with
      | .ok object => return (object.toList ++ applied, errors)
      | .error error => return (applied, error :: errors)
    else engine.applyAll batch rest

def deleteObject (engine : Engine) (object : DeployedObject) : ExceptT ClusterError Exchange Unit := do
  let served ← engine.resolve object.kind
  Exchange.trying (.delete object) (Exchange.delete served object.space object.name)

/-- Deletes objects one after the other, and goes on after failures. -/
def deleteAll (engine : Engine) : List DeployedObject → Exchange (List ClusterError)
  | [] => return []
  | object :: rest => do
    let outcome ← (engine.deleteObject object).run
    let errors ← engine.deleteAll rest
    match outcome with
    | .ok () => return errors
    | .error error => return error :: errors

/-- Objects of two lists, each of them once. -/
def union (first second : List DeployedObject) : List DeployedObject :=
  second.foldl (fun kept object => if kept.contains object then kept else kept ++ [object]) first

/-- Everything is brought onto the cluster that is wanted and allowed; then what was deployed before
and is not wanted is deleted. An object that is still wanted is remembered even if it could not be
written again. A dry run deletes nothing and is not remembered. -/
def deploy (batch : Batch) (engine : Engine) : Exchange (List ClusterError × Engine) := do
  let (applied, errors) ← engine.applyAll batch batch.items
  if batch.dryRun then return (errors, engine)
  let key := batch.subscription.key
  let previous := engine.deployedFor key
  let (kept, stale) := previous.partition (·.isWanted batch.items)
  let current := union (union [] applied) kept
  let failures ← engine.deleteAll stale
  return (errors ++ failures, { engine with deployed := Registry.set key current engine.deployed })

/-- All that went wrong, as one text; nothing if all went well. -/
def report? (errors : List ClusterError) : Option String :=
  if errors.isEmpty then none else some ("; ".intercalate (errors.map ClusterError.message))

end Engine

end GitDelivery.Cluster
