import GitDelivery.Resource.Decode
import GitDelivery.Resource.Key
import GitDelivery.Time.Instant

set_option autoImplicit false

/-! The metadata that every object carries. Fields that are not listed here are dropped when metadata
is read. -/

namespace GitDelivery

structure OwnerReference where
  apiVersion : String
  blockOwnerDeletion : Option Bool
  controller : Option Bool
  kind : String
  name : String
  uid : String
  deriving DecidableEq

/-- Who wrote which fields of an object, and when. -/
structure ManagedFields where
  apiVersion : Option String
  fieldsType : Option String
  fieldsV1 : Option Json
  manager : Option String
  operation : Option String
  subresource : Option String
  time : Option Time.Instant

structure Metadata where
  annotations : Option (Table String) := none
  creationTimestamp : Option Time.Instant := none
  deletionGracePeriodSeconds : Option Int := none
  deletionTimestamp : Option Time.Instant := none
  finalizers : Option (List String) := none
  generateName : Option String := none
  generation : Option Int := none
  labels : Option (Table String) := none
  managedFields : Option (List ManagedFields) := none
  name : Option String := none
  space : Option String := none
  ownerReferences : Option (List OwnerReference) := none
  resourceVersion : Option String := none
  selfLink : Option String := none
  uid : Option String := none

namespace Decoder

def instant : Decoder Time.Instant
  | .text value =>
    match Time.Instant.ofText? value with
    | some instant => .ok instant
    | none => .error (.expected "a timestamp")
  | _ => .error (.expected "a timestamp")

/-- Text that is empty when it is missing. -/
private def lenientText (name : String) (fields : Table Json) : Except DecodeError String :=
  (optional text name fields).map (·.getD "")

def ownerReference : Decoder OwnerReference := fun value => do
  let fields ← Decoder.fields value
  return {
    apiVersion := ← lenientText "apiVersion" fields
    blockOwnerDeletion := ← optional bool "blockOwnerDeletion" fields
    controller := ← optional bool "controller" fields
    kind := ← lenientText "kind" fields
    name := ← lenientText "name" fields
    uid := ← lenientText "uid" fields }

def managedFields : Decoder ManagedFields := fun value => do
  let fields ← Decoder.fields value
  return {
    apiVersion := ← optional text "apiVersion" fields
    fieldsType := ← optional text "fieldsType" fields
    fieldsV1 := ← optional json "fieldsV1" fields
    manager := ← optional text "manager" fields
    operation := ← optional text "operation" fields
    subresource := ← optional text "subresource" fields
    time := ← optional instant "time" fields }

def metadata : Decoder Metadata := fun value => do
  let fields ← Decoder.fields value
  return {
    annotations := ← optional (table text) "annotations" fields
    creationTimestamp := ← optional instant "creationTimestamp" fields
    deletionGracePeriodSeconds := ← optional integer "deletionGracePeriodSeconds" fields
    deletionTimestamp := ← optional instant "deletionTimestamp" fields
    finalizers := ← optional (list text) "finalizers" fields
    generateName := ← optional text "generateName" fields
    generation := ← optional integer "generation" fields
    labels := ← optional (table text) "labels" fields
    managedFields := ← optional (list managedFields) "managedFields" fields
    name := ← optional text "name" fields
    space := ← optional text "namespace" fields
    ownerReferences := ← optional (list ownerReference) "ownerReferences" fields
    resourceVersion := ← optional text "resourceVersion" fields
    selfLink := ← optional text "selfLink" fields
    uid := ← optional text "uid" fields }

end Decoder

private def timestamp (instant : Time.Instant) : Json :=
  .text instant.secondsText

def OwnerReference.toJson (owner : OwnerReference) : Json :=
  Json.ofPresent [
    ("apiVersion", some (.text owner.apiVersion)),
    ("blockOwnerDeletion", owner.blockOwnerDeletion.map .bool),
    ("controller", owner.controller.map .bool),
    ("kind", some (.text owner.kind)),
    ("name", some (.text owner.name)),
    ("uid", some (.text owner.uid))]

def ManagedFields.toJson (entry : ManagedFields) : Json :=
  Json.ofPresent [
    ("apiVersion", entry.apiVersion.map .text),
    ("fieldsType", entry.fieldsType.map .text),
    ("fieldsV1", entry.fieldsV1),
    ("manager", entry.manager.map .text),
    ("operation", entry.operation.map .text),
    ("subresource", entry.subresource.map .text),
    ("time", entry.time.map timestamp)]

namespace Metadata

def toJson (metadata : Metadata) : Json :=
  Json.ofPresent [
    ("annotations", metadata.annotations.map (Json.ofTable .text)),
    ("creationTimestamp", metadata.creationTimestamp.map timestamp),
    ("deletionGracePeriodSeconds", metadata.deletionGracePeriodSeconds.map Json.ofInt),
    ("deletionTimestamp", metadata.deletionTimestamp.map timestamp),
    ("finalizers", metadata.finalizers.map Json.texts),
    ("generateName", metadata.generateName.map .text),
    ("generation", metadata.generation.map Json.ofInt),
    ("labels", metadata.labels.map (Json.ofTable .text)),
    ("managedFields", metadata.managedFields.map fun entries =>
      .array (entries.map ManagedFields.toJson)),
    ("name", metadata.name.map .text),
    ("namespace", metadata.space.map .text),
    ("ownerReferences", metadata.ownerReferences.map fun owners =>
      .array (owners.map OwnerReference.toJson)),
    ("resourceVersion", metadata.resourceVersion.map .text),
    ("selfLink", metadata.selfLink.map .text),
    ("uid", metadata.uid.map .text)]

/-- Missing parts of the identity are empty. -/
def key (metadata : Metadata) : ObjectKey :=
  ⟨metadata.space.getD "", metadata.name.getD ""⟩

/-- The name, or else what generated names start with. -/
def anyName (metadata : Metadata) : String :=
  (metadata.name.or metadata.generateName).getD ""

def annotation? (name : String) (metadata : Metadata) : Option String :=
  metadata.annotations.bind (Table.get? name)

def label? (name : String) (metadata : Metadata) : Option String :=
  metadata.labels.bind (Table.get? name)

end Metadata

end GitDelivery
