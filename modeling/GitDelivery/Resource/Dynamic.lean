import GitDelivery.Resource.HookJob
import GitDelivery.Resource.Kind
import GitDelivery.Resource.Metadata

set_option autoImplicit false

/-! Objects of any kind: only their metadata are typed, and everything else is kept as it is. -/

namespace GitDelivery

/-- Version and kind are either both there or neither. -/
structure DynamicObject where
  declared : Option (String × String)
  metadata : Metadata
  others : Table Json

/-- An object to be deployed, with its kind. -/
structure Deployable where
  kind : ResourceKind
  object : DynamicObject

namespace DynamicObject

/-- The declared version and kind, and the fields that are not used up by looking for them. A version
that is no text is used up alone, a kind that is no text together with the version. -/
def declaration (fields : Table Json) : Option (String × String) × Table Json :=
  match Table.get? "apiVersion" fields, Table.get? "kind" fields with
  | some (.text apiVersion), some (.text kind) =>
    (some (apiVersion, kind), fields.without ["apiVersion", "kind"])
  | some (.text _), some _ => (none, fields.without ["apiVersion", "kind"])
  | some (.text _), none => (none, fields.without ["apiVersion"])
  | some _, _ => (none, fields.without ["apiVersion"])
  | none, some _ => (none, fields.without ["kind"])
  | none, none => (none, fields)

def decode : Decoder DynamicObject := fun value => do
  let fields ← Decoder.fields value
  let metadata ← Decoder.defaulted {} .metadata "metadata" fields
  let (declared, others) := declaration (fields.without ["metadata"])
  return { declared := declared, metadata := metadata, others := others }

def toJson (object : DynamicObject) : Json :=
  .ofExtended [
    ("apiVersion", object.declared.map fun pair => .text pair.1),
    ("kind", object.declared.map fun pair => .text pair.2),
    ("metadata", some object.metadata.toJson)] object.others

end DynamicObject

namespace Deployable

def name (item : Deployable) : String :=
  item.object.metadata.anyName

def space (item : Deployable) : String :=
  item.object.metadata.space.getD ""

end Deployable

end GitDelivery
