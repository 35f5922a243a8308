import GitDelivery.Resource.Dynamic
import GitDelivery.Resource.Subscription
import GitDelivery.Yaml.Value

set_option autoImplicit false

/-! From a manifest to the object that is deployed for a subscription. A manifest is checked, put into
its namespace, filtered, overridden and marked with where it comes from, in this order. -/

namespace GitDelivery.Manifest

inductive Origin where
  | file | kustomize | helm
  deriving DecidableEq

inductive SkipReason where
  | unparsable (failure : Yaml.Failure)
  | notAResource
  | otherPackage (package : String)
  | labelsDiffer
  | annotationDiffers (key : String)
  deriving DecidableEq

def SkipReason.message : SkipReason → String
  | unparsable failure => "not parseable as YAML: " ++ failure.message
  | notAResource => "not a Kubernetes resource"
  | otherPackage package => "name does not match package " ++ package
  | labelsDiffer => "labels do not match the package filter"
  | annotationDiffers key => "annotation " ++ key ++ " does not match the package filter"

inductive TransformError where
  | notRepresentable (failure : Yaml.Failure)
  | claimsClusterAdmin (kind : ResourceKind) (name : String)
  | selector (error : SelectorError)
  | override (name : String) (failure : PackageOverride.Failure)
  | invalidObject (kind name : String) (error : DecodeError)

def TransformError.message : TransformError → String
  | notRepresentable failure =>
    "manifest cannot be represented as JSON: " ++ failure.message
  | claimsClusterAdmin kind name =>
    kind.group ++ "/" ++ kind.kind ++ " " ++ name ++ " contains annotation "
      ++ Vocabulary.clusterAdmin ++ " set to true"
  | selector error => error.message
  | override name failure => "failed to override package " ++ name ++ ": " ++ failure.message
  | invalidObject kind name error =>
    kind ++ " " ++ name ++ " is not a valid object: " ++ error.message

inductive Transformed where
  | deploy (item : Deployable)
  | skip (reason : SkipReason)

def metadataText? (field : String) (object : Json) : Option String :=
  (object.get? "metadata").bind (Json.textAt? field)

def nameOf (object : Json) : String :=
  (metadataText? "name" object).getD ""

def annotationOf? (key : String) (object : Json) : Option String :=
  ((object.get? "metadata").bind (Json.get? "annotations")).bind (Json.textAt? key)

def onlyTexts : List (String × Json) → Table String
  | [] => []
  | (key, .text value) :: rest => (key, value) :: onlyTexts rest
  | _ :: rest => onlyTexts rest

/-- The entries of labels or annotations that are texts. -/
def metadataTexts (field : String) (object : Json) : Table String :=
  match (object.get? "metadata").bind (Json.get? field) with
  | some (.object fields) => onlyTexts fields
  | _ => []

/-- Writes a field of metadata that are there. -/
def setMetadataField (field : String) (value object : Json) : Json :=
  match object with
  | .object fields =>
    match Table.get? "metadata" fields with
    | some (.object metadata) =>
      .object (Table.insert "metadata" (.object (Table.insert field value metadata)) fields)
    | _ => object
  | _ => object

/-- Writes an entry of labels or annotations. They are made if they are missing or no object;
metadata that are no object stay as they are. -/
def setMetadataEntry (field key value : String) (object : Json) : Json :=
  match object with
  | .object fields =>
    match (Table.get? "metadata" fields).getD (.object []) with
    | .object metadata =>
      let entries := ((Table.get? field metadata).bind Json.fields?).getD []
      let entries : Json := .object (Table.insert key (.text value) entries)
      .object (Table.insert "metadata" (.object (Table.insert field entries metadata)) fields)
    | _ => object
  | _ => object

def annotate (key value : String) (object : Json) : Json :=
  setMetadataEntry "annotations" key value object

def setNamespace (space : String) (object : Json) : Json :=
  setMetadataField "namespace" (.text space) object

/-- Objects go to the subscription's namespace, unless a cluster admin's object declares one and the
subscription is not confined to its own. -/
def placeInNamespace (subscription : Subscription) (nested : Bool) (object : Json) : Json :=
  if subscription.isClusterAdmin then
    let declared := ((metadataText? "namespace" object).bind Text.nonEmpty?).isSome
    let placed :=
      if !declared || subscription.isConfined then setNamespace subscription.space object
      else object
    if nested then annotate Vocabulary.clusterAdmin "true" placed else placed
  else setNamespace subscription.space object

/-- The first annotation asked for that an object does not have. -/
def unmetAnnotations? (wanted found : Table String) : Option String :=
  (wanted.find? fun (key, value) => Table.get? key found ≠ some value).map Prod.fst

/-- Why the package name or filter of a subscription leaves an object out. Charts are chosen by name
before, so their releases are not. -/
def filterReason? (subscription : Subscription) (origin : Origin) (name : String) (object : Json) :
    Except SelectorError (Option SkipReason) := do
  if origin ≠ .helm then
    if let some package := subscription.spec.package.bind Text.nonEmpty? then
      if package ≠ name then return some (.otherPackage package)
  match subscription.spec.filter with
  | none => return none
  | some filter =>
    if let some selector := filter.selector then
      if !(← selector.selects (metadataTexts "labels" object)) then return some .labelsDiffer
    return (unmetAnnotations? filter.annotations (metadataTexts "annotations" object)).map
      .annotationDiffers

/-- Marks what a cluster admin deploys, and says how objects are brought in line if they do not say
so themselves. -/
def markDeployment (subscription : Subscription) (object : Json) : Json :=
  let marked :=
    if subscription.isClusterAdmin then annotate Vocabulary.clusterAdmin "true" object
    else object
  if ((annotationOf? Vocabulary.reconcileOption marked).bind Text.nonEmpty?).isSome then marked
  else
    let option := (subscription.annotation? Vocabulary.reconcileOption).bind Text.nonEmpty?
    annotate Vocabulary.reconcileOption (option.getD "merge") marked

/-- The application an object belongs to unless it says so itself: what the subscription's labels
say, or else the subscription's name. -/
def markApplication (subscription : Subscription) (object : Json) : Json :=
  let present := (Table.get? Vocabulary.partOfLabel (metadataTexts "labels" object)).bind Text.nonEmpty?
  if present.isSome then object
  else
    let label := (subscription.label? Vocabulary.partOfLabel).or
      (subscription.label? Vocabulary.appLabel)
    setMetadataEntry "labels" Vocabulary.partOfLabel
      ((label.bind Text.nonEmpty?).getD subscription.name) object

/-- Hands the acting user on to subscriptions that are deployed. -/
def markIdentity (subscription : Subscription) (object : Json) : Json :=
  let withUser :=
    match subscription.userIdentity? with
    | some user => annotate Vocabulary.userIdentity user object
    | none => object
  match subscription.userGroup? with
  | some group => annotate Vocabulary.userGroup group withUser
  | none => withUser

/-- Does an object ask for cluster admin rights? -/
def claimsClusterAdmin (object : Json) : Bool :=
  (annotationOf? Vocabulary.clusterAdmin object).any (Text.sameIgnoringCase · "true")

def applyOverrides (subscription : Subscription) (origin : Origin) (name : String)
    (object : Json) : Except TransformError Json :=
  if origin = .helm then .ok object
  else
    let (written, result) := PackageOverride.apply subscription.spec.overrides name object
    match result with
    | .ok _ => .ok written
    | .error failure => .error (.override name failure)

/-- Everything that marks an object as deployed by a subscription. -/
def mark (subscription : Subscription) (nested : Bool) (object : Json) : Json :=
  let marked := markApplication subscription (markDeployment subscription object)
  if nested then markIdentity subscription marked else marked

/-- The object to be deployed for a structured manifest. `isNamespaced` says which kinds live in
namespaces. Rendered manifests must not ask for cluster admin rights themselves. -/
def transform (isNamespaced : ResourceKind → Bool) (subscription : Subscription) (origin : Origin)
    (object : Json) : Except TransformError Transformed := do
  match ResourceKind.declared? object with
  | none => return .skip .notAResource
  | some kind =>
    let nested := kind.isSubscription
    let name := nameOf object
    if origin = .kustomize && nested && claimsClusterAdmin object then
      throw (.claimsClusterAdmin kind name)
    let placed :=
      if isNamespaced kind then placeInNamespace subscription nested object else object
    match ← (filterReason? subscription origin name placed).mapError .selector with
    | some reason => return .skip reason
    | none =>
      let written ← applyOverrides subscription origin name placed
      match DynamicObject.decode (mark subscription nested written) with
      | .ok object => return .deploy ⟨kind, object⟩
      | .error error => throw (.invalidObject kind.kind name error)

/-- Labels or annotations with every scalar as text. Keys that are no scalars are dropped, and values
that are none are empty. -/
def renderedTexts (value : Option Yaml.Value) : Option (Table String) :=
  (value.bind Yaml.Value.entries?).map fun entries =>
    .ofList (entries.filterMap fun (key, value) =>
      key.scalarText?.map fun name => (name, value.scalarText?.getD ""))

def restamp (field : String) (texts : Option (Table String)) (object : Json) : Json :=
  match texts with
  | some texts => setMetadataField field (Json.ofTable .text texts) object
  | none => object

/-- Does a document declare version and kind? -/
def declaresKind (document : Yaml.Value) : Bool :=
  let given (name : String) : Bool :=
    (((document.get? name).bind Yaml.Value.text?).bind Text.nonEmpty?).isSome
  given "apiVersion" && given "kind"

/-- The structured form of a document, with labels and annotations as texts. -/
def structured (document : Yaml.Value) : Except Yaml.Failure Json := do
  let metadata := document.get? "metadata"
  let object ← document.toJson
  return restamp "annotations" (renderedTexts (metadata.bind (Yaml.Value.get? "annotations")))
    (restamp "labels" (renderedTexts (metadata.bind (Yaml.Value.get? "labels"))) object)

def transformText (isNamespaced : ResourceKind → Bool) (subscription : Subscription)
    (origin : Origin) (manifest : String) : Except TransformError Transformed := do
  match Yaml.parse manifest with
  | .error failure => return .skip (.unparsable failure)
  | .ok document =>
    if !declaresKind document then return .skip .notAResource
    let object ← (structured document).mapError .notRepresentable
    transform isNamespaced subscription origin object

end GitDelivery.Manifest
