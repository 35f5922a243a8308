import GitDelivery.Resource.Dynamic

set_option autoImplicit false

/-! Objects that were brought onto a cluster. -/

namespace GitDelivery.Cluster

/-- Objects of a kind that has no namespaces are in none. -/
structure DeployedObject where
  kind : ResourceKind
  space : Option String
  name : String
  deriving DecidableEq

namespace DeployedObject

def text (object : DeployedObject) : String :=
  match object.space with
  | some space => object.kind.kind ++ " " ++ space ++ "/" ++ object.name
  | none => object.kind.kind ++ " " ++ object.name

/-- Does an item stand for the object? Versions of a group are versions of the same objects, and an
object that is wanted in another namespace is still wanted. -/
def isMeantBy (item : Deployable) (object : DeployedObject) : Bool :=
  object.kind.group = item.kind.group && object.kind.kind = item.kind.kind
    && object.name = item.name

def isWanted (items : List Deployable) (object : DeployedObject) : Bool :=
  items.any fun item => object.isMeantBy item

end DeployedObject

end GitDelivery.Cluster
