import GitDelivery.Resource.Metadata
import GitDelivery.Resource.Reference
import GitDelivery.Resource.Vocabulary

set_option autoImplicit false

/-! Channels: the repositories that subscriptions deploy from. -/

namespace GitDelivery

structure ChannelSpec where
  kind : String
  address : String
  secret : Option ObjectReference
  configMap : Option ObjectReference
  skipsVerification : Bool
  deriving DecidableEq

structure Channel where
  metadata : Metadata
  spec : ChannelSpec

namespace ChannelSpec

def decode : Decoder ChannelSpec := fun value => do
  let fields ← Decoder.record
    ["type", "pathname", "secretRef", "configMapRef", "insecureSkipVerify"] value
  return {
    kind := ← Decoder.required .text "type" fields
    address := ← Decoder.required .text "pathname" fields
    secret := ← Decoder.optional ObjectReference.decode "secretRef" fields
    configMap := ← Decoder.optional ObjectReference.decode "configMapRef" fields
    skipsVerification := ← Decoder.defaulted false .bool "insecureSkipVerify" fields }

def toJson (spec : ChannelSpec) : Json :=
  Json.ofPresent [
    ("type", some (.text spec.kind)),
    ("pathname", some (.text spec.address)),
    ("secretRef", spec.secret.map ObjectReference.toJson),
    ("configMapRef", spec.configMap.map ObjectReference.toJson),
    ("insecureSkipVerify", some (.bool spec.skipsVerification))]

end ChannelSpec

namespace Channel

def decode : Decoder Channel := fun value => do
  let fields ← Decoder.record ["metadata", "spec"] value
  return {
    metadata := ← Decoder.required .metadata "metadata" fields
    spec := ← Decoder.required ChannelSpec.decode "spec" fields }

def toJson (channel : Channel) : Json :=
  Json.ofFields [
    ("apiVersion", .text (Vocabulary.appsGroup ++ "/" ++ Vocabulary.appsVersion)),
    ("kind", .text "Channel"),
    ("metadata", channel.metadata.toJson),
    ("spec", channel.spec.toJson)]

def key (channel : Channel) : ObjectKey :=
  channel.metadata.key

def space (channel : Channel) : String :=
  channel.metadata.space.getD ""

/-- Is the channel a Git repository? -/
def isGit (channel : Channel) : Bool :=
  Text.sameIgnoringCase channel.spec.kind "git" || Text.sameIgnoringCase channel.spec.kind "github"

end Channel

end GitDelivery
