import GitDelivery.Context
import GitDelivery.Manifest.Chart
import GitDelivery.Manifest.Transform
import GitDelivery.Repository.ResourcePath
import GitDelivery.Sync.Outcome

set_option autoImplicit false

/-! From a checkout to the objects that are deployed: plain manifests first, those others depend on
before the rest, then what kustomizations render, then releases of charts. -/

namespace GitDelivery

/-- Objects to deploy, and what went wrong with others. -/
structure Assembly where
  items : List Deployable := []
  errors : List String := []

namespace Assembly

def append (left right : Assembly) : Assembly :=
  ⟨left.items ++ right.items, left.errors ++ right.errors⟩

/-- Sorts what became of manifests; those that are skipped leave no trace. -/
def ofTransformed : List (Except Manifest.TransformError Manifest.Transformed) → Assembly
  | [] => {}
  | .ok (.deploy item) :: rest =>
    let others := ofTransformed rest
    { others with items := item :: others.items }
  | .ok (.skip _) :: rest => ofTransformed rest
  | .error error :: rest =>
    let others := ofTransformed rest
    { others with errors := error.message :: others.errors }

def ofDocuments (context : Context) (subscription : Subscription) (origin : Manifest.Origin)
    (documents : List String) : Assembly :=
  ofTransformed (documents.map
    (Manifest.transformText context.isNamespaced subscription origin))

/-- The documents of manifest files in the order in which they are deployed. -/
def fileDocuments (classes : Manifest.Classification) : List String :=
  (classes.first ++ classes.access ++ classes.other).map Manifest.Source.content

def ofCharts (context : Context) (subscription : Subscription) (options : CloneOptions)
    (charts : List Manifest.Chart) : Assembly :=
  ofTransformed (charts.map fun chart =>
    Manifest.transform context.isNamespaced subscription .helm (chart.release subscription options))

/-- Everything to be deployed from classified files, rendered documents and charts. -/
def gather (context : Context) (subscription : Subscription) (options : CloneOptions)
    (classes : Manifest.Classification) (rendered : List String) (charts : List Manifest.Chart) :
    Assembly :=
  ((ofDocuments context subscription .file (fileDocuments classes)).append
    (ofDocuments context subscription .kustomize rendered)).append
      (ofCharts context subscription options charts)

/-- Renders the kustomizations in directories of a repository, after laying the subscription's
overrides over them. The first that fails ends it. -/
def render (context : Context) (subscription : Subscription) (root : String) :
    FileTree → List String → ExceptT Manifest.Kustomization.Failure Work (List String)
  | _, [] => return []
  | tree, directory :: rest => do
    let relative := FilePath.relativeTo root directory
    let (_, tree) ← Work.known
      (Manifest.Kustomization.override subscription.spec.overrides relative directory tree)
    let build ← liftM (Work.ask (.build tree directory))
    let documents ← Work.known
      (Manifest.Kustomization.documents context.settings.kustomizeBinary directory build)
    return documents ++ (← render context subscription root tree rest)

/-- The config map that may name the resource path. One that cannot be read says nothing. -/
def filterConfig (subscription : Subscription) : Work (Option ConfigMap) := do
  match subscription.spec.filter.bind PackageFilter.pathSource with
  | none => return none
  | some reference =>
    match ← Work.ask (.configMap (reference.key subscription.space)) with
    | .ok configMap => return configMap
    | .error _ => return none

/-- Where in a checkout the resources of a subscription lie. -/
def resourcePath (subscription : Subscription) (root : String) : ExceptT SyncError Work String := do
  let configMap ← liftM (filterConfig subscription)
  let path := (PathSource.first? subscription configMap PathSource.forResources).map Prod.snd
  Work.known ((FilePath.joinWithin root path).mapError fun error => .classification error.message)

/-- Gives up because a kustomization failed: nothing of the checkout is deployed, and that is
reported at once. A report that fails changes nothing. -/
def abandon (context : Context) (subscription : Subscription)
    (failure : Manifest.Kustomization.Failure) (others : List String) : Work SyncError := do
  let error := SyncError.kustomization (", ".intercalate (failure.message :: others))
  let message := Text.truncate context.settings.messageLimit error.message
  let _ ← Work.ask (.reportOverall subscription true message)
  return error

def joinCut (context : Context) (errors : List String) : String :=
  Text.truncate context.settings.messageLimit (", ".intercalate errors)

def ofSubscription (subscription : Subscription) (items : List Deployable) : Batch :=
  { subscription := subscription, items := items
    allow := subscription.spec.allow, deny := subscription.spec.deny
    clusterAdmin := subscription.isClusterAdmin, dryRun := false }

/-- What a checkout comes to: where its resources lie, everything to be deployed, and what is wrong
with its charts. -/
structure Draft where
  path : String
  assembly : Assembly
  chartErrors : List String

def draft (context : Context) (subscription : Subscription) (options : CloneOptions)
    (tree : FileTree) : ExceptT SyncError Work Draft := do
  let root := options.directory
  let path ← resourcePath subscription root
  let some classes := Manifest.classify tree path Manifest.hookDirectories
    | throw (.classification (Manifest.missingMessage path))
  let index := Manifest.ChartIndex.ofDirectories subscription tree root classes.charts
  let (charts, chartErrors) : List Manifest.Chart × List String :=
    match index with
    | .ok index => (index.lastCharts, [])
    | .error error => ([], ["failed to generate helm index: " ++ error.message])
  let rendered ←
    match ← liftM (render context subscription root tree classes.kustomizations).run with
    | .ok rendered => pure rendered
    | .error failure => throw (← liftM (abandon context subscription failure chartErrors))
  return ⟨path, gather context subscription options classes rendered charts, chartErrors⟩

namespace Draft

/-- Is what was deployed before left alone? It is if there is nothing to deploy, unless the last tick
went well and nothing is wrong with the charts. -/
def isWithheld (wentWell : Bool) (draft : Draft) : Bool :=
  draft.assembly.items.isEmpty && !(wentWell && draft.chartErrors.isEmpty)

/-- Why a draft is withheld: all that went wrong, or that nothing was found. -/
def reasons (root : String) (draft : Draft) : List String :=
  let errors := draft.chartErrors ++ draft.assembly.errors
  if errors.isEmpty then
    ["no deployable resources found in " ++ FilePath.relativeTo root draft.path]
  else errors

/-- Deploys what was assembled and says how many objects there were. -/
def deploy (context : Context) (subscription : Subscription) (wentWell : Bool) (root : String)
    (draft : Draft) : ExceptT SyncError Work Nat :=
  if draft.isWithheld wentWell then
    throw (.nothingToDeploy (joinCut context (draft.reasons root)))
  else do
    Work.attempt .deployment (Work.ask (.deploy (ofSubscription subscription draft.assembly.items)))
    if draft.chartErrors.isEmpty then return draft.assembly.items.length
    else throw (.classification (joinCut context draft.chartErrors))

end Draft

def deploy (context : Context) (subscription : Subscription) (wentWell : Bool)
    (options : CloneOptions) (tree : FileTree) : ExceptT SyncError Work Nat := do
  let draft ← draft context subscription options tree
  draft.deploy context subscription wentWell options.directory

end Assembly

end GitDelivery
