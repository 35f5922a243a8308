import GitDelivery.LabelSelector
import GitDelivery.PackageOverride
import GitDelivery.Resource.Metadata
import GitDelivery.Resource.Reference
import GitDelivery.Resource.Vocabulary
import GitDelivery.TimeWindow

set_option autoImplicit false

/-! Subscriptions: what to deploy from which channel, where and when, and how that went. -/

namespace GitDelivery

/-- Conditions that a resource must meet to be deployed. -/
structure PackageFilter where
  selector : Option LabelSelector
  annotations : Table String
  version : Option String
  pathSource : Option ObjectReference

structure Placement where
  isLocal : Option Bool
  clusters : List String
  selector : Option LabelSelector
  reference : Option ObjectReference

/-- Kinds of one API version that may, or may not, be deployed. -/
structure KindRule where
  apiVersion : String
  kinds : List String
  deriving DecidableEq

structure SubscriptionSpec where
  channel : String
  secondaryChannel : Option String
  package : Option String
  filter : Option PackageFilter
  overrides : List PackageOverride
  placement : Option Placement
  timeWindow : Option TimeWindow
  hookSecret : Option ObjectReference
  allow : List KindRule
  deny : List KindRule

/-- The hook jobs applied last and before, as `namespace/name`. -/
structure HookStatus where
  lastPre : String
  preHistory : List String
  lastPost : String
  postHistory : List String
  deriving DecidableEq

structure SubscriptionStatus where
  phase : Option String := none
  message : Option String := none
  lastUpdateTime : Option String := none
  hooks : Option HookStatus := none
  deriving DecidableEq

structure Subscription where
  metadata : Metadata
  spec : SubscriptionSpec
  status : Option SubscriptionStatus

namespace LabelRequirement

def decode : Decoder LabelRequirement := fun value => do
  let fields ← Decoder.record ["key", "operator", "values"] value
  return {
    key := ← Decoder.required .text "key" fields
    operator := ← Decoder.required .text "operator" fields
    values := ← Decoder.defaulted [] (.list .text) "values" fields }

def toJson (requirement : LabelRequirement) : Json :=
  Json.ofPresent [
    ("key", some (.text requirement.key)),
    ("operator", some (.text requirement.operator)),
    ("values", Json.listUnlessEmpty .text requirement.values)]

end LabelRequirement

namespace LabelSelector

def decode : Decoder LabelSelector := fun value => do
  let fields ← Decoder.record ["matchLabels", "matchExpressions"] value
  return {
    labels := ← Decoder.defaulted [] (.table .text) "matchLabels" fields
    requirements := ← Decoder.defaulted [] (.list LabelRequirement.decode) "matchExpressions" fields }

def toJson (selector : LabelSelector) : Json :=
  Json.ofPresent [
    ("matchLabels", Json.tableUnlessEmpty .text selector.labels),
    ("matchExpressions", Json.listUnlessEmpty LabelRequirement.toJson selector.requirements)]

end LabelSelector

namespace PackageFilter

def decode : Decoder PackageFilter := fun value => do
  let fields ← Decoder.record ["labelSelector", "annotations", "version", "filterRef"] value
  return {
    selector := ← Decoder.optional LabelSelector.decode "labelSelector" fields
    annotations := ← Decoder.defaulted [] (.table .text) "annotations" fields
    version := ← Decoder.optional .text "version" fields
    pathSource := ← Decoder.optional ObjectReference.decode "filterRef" fields }

def toJson (filter : PackageFilter) : Json :=
  Json.ofPresent [
    ("labelSelector", filter.selector.map LabelSelector.toJson),
    ("annotations", Json.tableUnlessEmpty .text filter.annotations),
    ("version", filter.version.map .text),
    ("filterRef", filter.pathSource.map ObjectReference.toJson)]

end PackageFilter

namespace PackageOverride

def decode : Decoder PackageOverride := fun value => do
  let fields ← Decoder.record ["packageName", "packageAlias", "packageOverrides"] value
  return {
    name := ← Decoder.required .text "packageName" fields
    displayName := ← Decoder.optional .text "packageAlias" fields
    entries := ← Decoder.defaulted [] (.list .json) "packageOverrides" fields }

def toJson (override : PackageOverride) : Json :=
  Json.ofPresent [
    ("packageName", some (.text override.name)),
    ("packageAlias", override.displayName.map .text),
    ("packageOverrides", some (.array override.entries))]

end PackageOverride

/-- A cluster is written as a record with its name. -/
def Decoder.clusterName : Decoder String := fun value => do
  let fields ← Decoder.record ["name"] value
  Decoder.required .text "name" fields

def Json.ofClusterName (name : String) : Json :=
  Json.ofFields [("name", .text name)]

namespace Placement

def decode : Decoder Placement := fun value => do
  let fields ← Decoder.record ["local", "clusters", "clusterSelector", "placementRef"] value
  return {
    isLocal := ← Decoder.optional .bool "local" fields
    clusters := ← Decoder.defaulted [] (.list .clusterName) "clusters" fields
    selector := ← Decoder.optional LabelSelector.decode "clusterSelector" fields
    reference := ← Decoder.optional ObjectReference.decode "placementRef" fields }

def toJson (placement : Placement) : Json :=
  Json.ofPresent [
    ("local", placement.isLocal.map .bool),
    ("clusters", Json.listUnlessEmpty Json.ofClusterName placement.clusters),
    ("clusterSelector", placement.selector.map LabelSelector.toJson),
    ("placementRef", placement.reference.map ObjectReference.toJson)]

/-- Does the subscription deploy to the cluster it lives on, and nowhere else? -/
def deploysHere (placement : Placement) : Bool :=
  placement.isLocal.getD false

end Placement

namespace HourRange

def decode : Decoder HourRange := fun value => do
  let fields ← Decoder.record ["start", "end"] value
  return {
    start := ← Decoder.required .text "start" fields
    stop := ← Decoder.required .text "end" fields }

def toJson (range : HourRange) : Json :=
  Json.ofFields [("start", .text range.start), ("end", .text range.stop)]

end HourRange

namespace TimeWindow

def decode : Decoder TimeWindow := fun value => do
  let fields ← Decoder.record ["windowtype", "location", "daysofweek", "hours"] value
  return {
    kind := ← Decoder.optional .text "windowtype" fields
    location := ← Decoder.optional .text "location" fields
    days := ← Decoder.defaulted [] (.list .text) "daysofweek" fields
    hours := ← Decoder.defaulted [] (.list HourRange.decode) "hours" fields }

def toJson (window : TimeWindow) : Json :=
  Json.ofPresent [
    ("windowtype", window.kind.map .text),
    ("location", window.location.map .text),
    ("daysofweek", Json.listUnlessEmpty .text window.days),
    ("hours", Json.listUnlessEmpty HourRange.toJson window.hours)]

end TimeWindow

namespace KindRule

def decode : Decoder KindRule := fun value => do
  let fields ← Decoder.record ["apiVersion", "kinds"] value
  return {
    apiVersion := ← Decoder.defaulted "" .text "apiVersion" fields
    kinds := ← Decoder.defaulted [] (.list .text) "kinds" fields }

def toJson (rule : KindRule) : Json :=
  Json.ofFields [("apiVersion", .text rule.apiVersion), ("kinds", Json.texts rule.kinds)]

end KindRule

namespace SubscriptionSpec

def fieldNames : List String :=
  ["channel", "secondaryChannel", "name", "packageFilter", "packageOverrides", "placement",
    "timewindow", "hooksecretref", "allow", "deny"]

def decode : Decoder SubscriptionSpec := fun value => do
  let fields ← Decoder.record fieldNames value
  return {
    channel := ← Decoder.required .text "channel" fields
    secondaryChannel := ← Decoder.optional .text "secondaryChannel" fields
    package := ← Decoder.optional .text "name" fields
    filter := ← Decoder.optional PackageFilter.decode "packageFilter" fields
    overrides := ← Decoder.defaulted [] (.list PackageOverride.decode) "packageOverrides" fields
    placement := ← Decoder.optional Placement.decode "placement" fields
    timeWindow := ← Decoder.optional TimeWindow.decode "timewindow" fields
    hookSecret := ← Decoder.optional ObjectReference.decode "hooksecretref" fields
    allow := ← Decoder.defaulted [] (.list KindRule.decode) "allow" fields
    deny := ← Decoder.defaulted [] (.list KindRule.decode) "deny" fields }

def toJson (spec : SubscriptionSpec) : Json :=
  Json.ofPresent [
    ("channel", some (.text spec.channel)),
    ("secondaryChannel", spec.secondaryChannel.map .text),
    ("name", spec.package.map .text),
    ("packageFilter", spec.filter.map PackageFilter.toJson),
    ("packageOverrides", Json.listUnlessEmpty PackageOverride.toJson spec.overrides),
    ("placement", spec.placement.map Placement.toJson),
    ("timewindow", spec.timeWindow.map TimeWindow.toJson),
    ("hooksecretref", spec.hookSecret.map ObjectReference.toJson),
    ("allow", Json.listUnlessEmpty KindRule.toJson spec.allow),
    ("deny", Json.listUnlessEmpty KindRule.toJson spec.deny)]

end SubscriptionSpec

namespace HookStatus

def empty : HookStatus := ⟨"", [], "", []⟩

def decode : Decoder HookStatus := fun value => do
  let fields ← Decoder.record
    ["lastprehookjob", "prehookjobshistory", "lastposthookjob", "posthookjobshistory"] value
  return {
    lastPre := ← Decoder.defaulted "" .text "lastprehookjob" fields
    preHistory := ← Decoder.defaulted [] (.list .text) "prehookjobshistory" fields
    lastPost := ← Decoder.defaulted "" .text "lastposthookjob" fields
    postHistory := ← Decoder.defaulted [] (.list .text) "posthookjobshistory" fields }

def toJson (status : HookStatus) : Json :=
  Json.ofPresent [
    ("lastprehookjob", (Text.nonEmpty? status.lastPre).map .text),
    ("prehookjobshistory", Json.listUnlessEmpty .text status.preHistory),
    ("lastposthookjob", (Text.nonEmpty? status.lastPost).map .text),
    ("posthookjobshistory", Json.listUnlessEmpty .text status.postHistory)]

end HookStatus

namespace SubscriptionStatus

def decode : Decoder SubscriptionStatus := fun value => do
  let fields ← Decoder.record ["phase", "message", "lastUpdateTime", "ansiblejobs"] value
  return {
    phase := ← Decoder.optional .text "phase" fields
    message := ← Decoder.optional .text "message" fields
    lastUpdateTime := ← Decoder.optional .text "lastUpdateTime" fields
    hooks := ← Decoder.optional HookStatus.decode "ansiblejobs" fields }

def toJson (status : SubscriptionStatus) : Json :=
  Json.ofPresent [
    ("phase", status.phase.map .text),
    ("message", status.message.map .text),
    ("lastUpdateTime", status.lastUpdateTime.map .text),
    ("ansiblejobs", status.hooks.map HookStatus.toJson)]

/-- The status with what a patch carries. -/
def update (patch status : SubscriptionStatus) : SubscriptionStatus :=
  { phase := patch.phase.or status.phase
    message := patch.message.or status.message
    lastUpdateTime := patch.lastUpdateTime.or status.lastUpdateTime
    hooks := patch.hooks.or status.hooks }

end SubscriptionStatus

namespace Subscription

def decode : Decoder Subscription := fun value => do
  let fields ← Decoder.record ["metadata", "spec", "status"] value
  return {
    metadata := ← Decoder.required .metadata "metadata" fields
    spec := ← Decoder.required SubscriptionSpec.decode "spec" fields
    status := ← Decoder.optional SubscriptionStatus.decode "status" fields }

def toJson (subscription : Subscription) : Json :=
  Json.ofPresent [
    ("apiVersion", some (.text (Vocabulary.appsGroup ++ "/" ++ Vocabulary.appsVersion))),
    ("kind", some (.text "Subscription")),
    ("metadata", some subscription.metadata.toJson),
    ("spec", some subscription.spec.toJson),
    ("status", subscription.status.map SubscriptionStatus.toJson)]

def key (subscription : Subscription) : ObjectKey :=
  subscription.metadata.key

def space (subscription : Subscription) : String :=
  subscription.metadata.space.getD ""

def name (subscription : Subscription) : String :=
  subscription.metadata.name.getD ""

def annotation? (name : String) (subscription : Subscription) : Option String :=
  subscription.metadata.annotation? name

def label? (name : String) (subscription : Subscription) : Option String :=
  subscription.metadata.label? name

private def isTrue (value : Option String) : Bool :=
  value.any (Text.sameIgnoringCase · "true")

/-- May the subscription deploy to every namespace, and objects that have none? -/
def isClusterAdmin (subscription : Subscription) : Bool :=
  isTrue (subscription.annotation? Vocabulary.clusterAdmin)

/-- Does everything go to the subscription's own namespace, whatever else it may do? -/
def isConfined (subscription : Subscription) : Bool :=
  isTrue (subscription.annotation? Vocabulary.currentNamespaceScoped)

def awaitsWebhook (subscription : Subscription) : Bool :=
  isTrue (subscription.annotation? Vocabulary.webhookEnabled)

def isPaused (subscription : Subscription) : Bool :=
  isTrue (subscription.label? Vocabulary.pauseLabel)

def userIdentity? (subscription : Subscription) : Option String :=
  (subscription.annotation? Vocabulary.userIdentity).bind Text.nonEmpty?

def userGroup? (subscription : Subscription) : Option String :=
  (subscription.annotation? Vocabulary.userGroup).bind Text.nonEmpty?

def channelKey (subscription : Subscription) : ObjectKey :=
  .ofReference subscription.space subscription.spec.channel

def secondaryChannelKey? (subscription : Subscription) : Option ObjectKey :=
  (subscription.spec.secondaryChannel.bind Text.nonEmpty?).map (.ofReference subscription.space ·)

def rateText? (subscription : Subscription) : Option String :=
  subscription.annotation? Vocabulary.reconcileRate

end Subscription

end GitDelivery
