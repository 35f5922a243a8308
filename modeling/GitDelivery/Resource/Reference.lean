import GitDelivery.Resource.Decode
import GitDelivery.Resource.Key

set_option autoImplicit false

/-! References to other objects by name. -/

namespace GitDelivery

/-- A name, and optionally the namespace, kind and version of the object it names. -/
structure ObjectReference where
  name : String
  space : Option String
  kind : Option String
  apiVersion : Option String
  deriving DecidableEq

namespace ObjectReference

/-- The object referred to from another one in the namespace `home`. -/
def key (home : String) (reference : ObjectReference) : ObjectKey :=
  ⟨((reference.space.bind Text.nonEmpty?).getD home), reference.name⟩

def decode : Decoder ObjectReference := fun value => do
  let fields ← Decoder.record ["name", "namespace", "kind", "apiVersion"] value
  return {
    name := ← Decoder.defaulted "" .text "name" fields
    space := ← Decoder.optional .text "namespace" fields
    kind := ← Decoder.optional .text "kind" fields
    apiVersion := ← Decoder.optional .text "apiVersion" fields }

def toJson (reference : ObjectReference) : Json :=
  Json.ofPresent [
    ("name", some (.text reference.name)),
    ("namespace", reference.space.map .text),
    ("kind", reference.kind.map .text),
    ("apiVersion", reference.apiVersion.map .text)]

end ObjectReference

end GitDelivery
