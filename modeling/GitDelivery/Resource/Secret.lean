import GitDelivery.Bytes.Base64
import GitDelivery.Resource.Metadata

set_option autoImplicit false

/-! Secrets and config maps: named texts and bytes. Bytes are written in base 64. -/

namespace GitDelivery

structure Secret where
  metadata : Metadata
  data : Option (Table Bytes)
  immutable : Option Bool
  textData : Option (Table String)
  kind : Option String

structure ConfigMap where
  metadata : Metadata
  binaryData : Option (Table Bytes)
  data : Option (Table String)
  immutable : Option Bool

namespace Decoder

def bytes : Decoder Bytes
  | .null => .ok []
  | .text value =>
    match Bytes.ofBase64? value with
    | some bytes => .ok bytes
    | none => .error (.expected "base 64")
  | _ => .error (.expected "base 64")

/-- A stated version or kind must be the right one. -/
private def stated (name expected : String) (fields : Table Json) : Except DecodeError Unit :=
  match Table.get? name fields with
  | none => .ok ()
  | some value => do
    if (← text value) = expected then return () else throw (.expected expected)

private def core (kind : String) (value : Json) : Except DecodeError (Table Json) := do
  let fields ← Decoder.fields value
  stated "apiVersion" "v1" fields
  stated "kind" kind fields
  return fields

def secret : Decoder Secret := fun value => do
  let fields ← core "Secret" value
  return {
    metadata := (← optional metadata "metadata" fields).getD {}
    data := ← optional (table bytes) "data" fields
    immutable := ← optional bool "immutable" fields
    textData := ← optional (table text) "stringData" fields
    kind := ← optional text "type" fields }

def configMap : Decoder ConfigMap := fun value => do
  let fields ← core "ConfigMap" value
  return {
    metadata := (← optional metadata "metadata" fields).getD {}
    binaryData := ← optional (table bytes) "binaryData" fields
    data := ← optional (table text) "data" fields
    immutable := ← optional bool "immutable" fields }

end Decoder

private def encodedTable (table : Table Bytes) : Json :=
  Json.ofTable (fun bytes => .text (Bytes.base64 bytes)) table

def Secret.toJson (secret : Secret) : Json :=
  Json.ofPresent [
    ("apiVersion", some (.text "v1")),
    ("kind", some (.text "Secret")),
    ("metadata", some secret.metadata.toJson),
    ("data", secret.data.map encodedTable),
    ("immutable", secret.immutable.map .bool),
    ("stringData", secret.textData.map (Json.ofTable .text)),
    ("type", secret.kind.map .text)]

def ConfigMap.toJson (configMap : ConfigMap) : Json :=
  Json.ofPresent [
    ("apiVersion", some (.text "v1")),
    ("kind", some (.text "ConfigMap")),
    ("metadata", some configMap.metadata.toJson),
    ("binaryData", configMap.binaryData.map encodedTable),
    ("data", configMap.data.map (Json.ofTable .text)),
    ("immutable", configMap.immutable.map .bool)]

def ConfigMap.get? (name : String) (configMap : ConfigMap) : Option String :=
  configMap.data.bind (Table.get? name)

end GitDelivery
