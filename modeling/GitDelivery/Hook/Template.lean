import GitDelivery.Manifest.Classification
import GitDelivery.Resource.HookJob
import GitDelivery.Resource.Subscription
import GitDelivery.Yaml.Value

set_option autoImplicit false

/-! Hook jobs as they lie in a repository, and the jobs that are made of them for one revision of a
subscription. -/

namespace GitDelivery

/-- Which side of a deployment a hook runs on. -/
inductive HookSide where
  | pre | post
  deriving DecidableEq

namespace HookSide

def all : List HookSide := [pre, post]

def text : HookSide → String
  | pre => "pre"
  | post => "post"

/-- The directory, beside the resources, that holds the side's hooks. -/
def directory : HookSide → String
  | pre => "prehook"
  | post => "posthook"

end HookSide

namespace HookTemplate

inductive DiscoveryError where
  | unreadable (file : String)
  | unparsable (file : String) (failure : Yaml.Failure)
  | invalid (file : String) (error : DecodeError)
  | unnamed (file : String)
  deriving DecidableEq

def DiscoveryError.message : DiscoveryError → String
  | unreadable file =>
    "failed to read " ++ file ++ ": " ++ FileTree.ReadError.message .notText
  | unparsable file failure => "failed to parse " ++ file ++ ": " ++ failure.message
  | invalid file error => "invalid AnsibleJob in " ++ file ++ ": " ++ error.message
  | unnamed file => "AnsibleJob in " ++ file ++ " has no name"

/-- Does a document declare a hook job, of any version? -/
def isHookJob (document : Json) : Bool :=
  let group := ((document.textAt? "apiVersion").bind (Text.splitOnce '/')).map Prod.fst
  document.textAt? "kind" = some Vocabulary.jobKind && group = some Vocabulary.jobGroup

/-- The hook jobs among the documents of a file; each must have a name. -/
def ofDocuments (file : String) : List String → Except DiscoveryError (List HookJob)
  | [] => .ok []
  | document :: rest => do
    let value ← (Yaml.parseJson document).mapError (.unparsable file)
    if isHookJob value then
      let job ← (HookJob.decode value).mapError (.invalid file)
      if (job.metadata.name.getD "").isEmpty then throw (.unnamed file)
      return job :: (← ofDocuments file rest)
    else ofDocuments file rest

def ofFile (file : String) (content : Bytes) : Except DiscoveryError (List HookJob) :=
  match content.text? with
  | some text => ofDocuments file (Manifest.splitDocuments text)
  | none => .error (.unreadable file)

mutual

def ofEntry (path name : String) : FileTree → Except DiscoveryError (List HookJob)
  | .file content => if Manifest.isManifestName name then ofFile path content else .ok []
  | .link _ => .ok []
  | .directory children => ofChildren path children

def ofChildren (path : String) :
    List (String × FileTree) → Except DiscoveryError (List HookJob)
  | [] => .ok []
  | (name, entry) :: rest => do
    let first ← ofEntry (FilePath.push path name) name entry
    return first ++ (← ofChildren path rest)

end

/-- The hook jobs below a directory, in the order of their files. There are none if the directory is
missing. -/
def discover (tree : FileTree) (directory : String) : Except DiscoveryError (List HookJob) :=
  match tree.find? directory with
  | some (.directory children) => ofChildren directory children
  | _ => .ok []

end HookTemplate

namespace HookJob

/-- Sets names of jobs of different revisions of a subscription apart. -/
def revisionSuffix (subscription : Subscription) : String :=
  let metadata := subscription.metadata
  "-" ++ toString (metadata.generation.getD 0) ++ "-" ++ metadata.resourceVersion.getD ""

/-- The subscription as the controlling owner of its jobs. -/
def ownerOf? (subscription : Subscription) : Option OwnerReference := do
  let name ← subscription.metadata.name
  let uid ← subscription.metadata.uid
  return {
    apiVersion := Vocabulary.appsGroup ++ "/" ++ Vocabulary.appsVersion
    blockOwnerDeletion := none, controller := some true, kind := "Subscription"
    name := name, uid := uid }

/-- Variables with the names of clusters among them. What is no table of variables is dropped. -/
def withClusters (clusters : List String) (extra : Option Json) : Option Json :=
  if clusters.isEmpty then extra
  else
    let fields := (extra.bind Json.fields?).getD []
    some (.object (Table.insert Vocabulary.targetClusters (Json.texts clusters) fields))

/-- What metadata of a template stay in a job. Everything the cluster decides is left out. -/
def instanceMetadata (subscription : Subscription) (suffix : String) (template : Metadata) :
    Metadata :=
  { template with
    name := some (template.name.getD "" ++ suffix)
    space := some subscription.space
    resourceVersion := none
    uid := none
    creationTimestamp := none
    generation := none
    managedFields := none
    ownerReferences :=
      match ownerOf? subscription with
      | some owner => some [owner]
      | none => template.ownerReferences
    annotations := some (Table.insert Vocabulary.hostingSubscription subscription.key.text
      (template.annotations.getD [])) }

/-- The job that runs a template for a revision of a subscription. -/
def ofTemplate (subscription : Subscription) (suffix : String) (clusters : List String)
    (template : HookJob) : HookJob :=
  let secret := subscription.spec.hookSecret.bind fun reference => Text.nonEmpty? reference.name
  { metadata := instanceMetadata subscription suffix template.metadata
    spec :=
      { template.spec with
        secret := secret.or template.spec.secret
        extraVars := withClusters clusters template.spec.extraVars }
    status := none }

end HookJob

end GitDelivery
