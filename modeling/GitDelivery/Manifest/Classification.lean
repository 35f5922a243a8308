import GitDelivery.FileTree.Basic
import GitDelivery.Manifest.Document
import GitDelivery.Yaml.Value

set_option autoImplicit false

/-! Sorting what a directory holds: chart and kustomization directories, whose contents are left to
them, and the documents of all other manifest files by the kind they declare. Directories are walked
in order of names, and links in them are not followed. -/

namespace GitDelivery.Manifest

/-- A document of a manifest file, and its position among the documents there. -/
structure Source where
  path : String
  index : Nat
  content : String
  deriving DecidableEq

/-- Documents by the order in which they are to be deployed: first those others depend on, then
access rules, then the rest. -/
structure Classification where
  charts : List String := []
  kustomizations : List String := []
  first : List Source := []
  access : List Source := []
  other : List Source := []
  deriving DecidableEq

namespace Classification

def isEmpty (classes : Classification) : Bool :=
  classes.charts.isEmpty && classes.kustomizations.isEmpty && classes.first.isEmpty
    && classes.access.isEmpty && classes.other.isEmpty

/-- What the first holds, then what the second holds, class by class. -/
def append (left right : Classification) : Classification :=
  { charts := left.charts ++ right.charts
    kustomizations := left.kustomizations ++ right.kustomizations
    first := left.first ++ right.first
    access := left.access ++ right.access
    other := left.other ++ right.other }

end Classification

def chartFile : String := "Chart.yaml"

/-- The names a kustomization file can have; the first that is there counts. -/
def kustomizationFiles : List String :=
  ["kustomization.yaml", "kustomization.yml", "Kustomization"]

def hookDirectories : List String := ["prehook", "posthook"]

def leadingKinds : List String := ["CustomResourceDefinition", "Namespace"]

def accessKinds : List String :=
  ["ServiceAccount", "Role", "ClusterRole", "RoleBinding", "ClusterRoleBinding"]

/-- The kind of a document that declares a version too. -/
def declaredKind? (document : String) : Option String :=
  match Yaml.parse document with
  | .error _ => none
  | .ok value => do
    let _ ← ((value.get? "apiVersion").bind Yaml.Value.text?).bind Text.nonEmpty?
    ((value.get? "kind").bind Yaml.Value.text?).bind Text.nonEmpty?

def inClass (kind : String) (source : Source) : Classification :=
  if leadingKinds.contains kind then { first := [source] }
  else if accessKinds.contains kind then { access := [source] }
  else { other := [source] }

def classifyDocuments (path : String) : Nat → List String → Classification
  | _, [] => {}
  | index, document :: rest =>
    let found : Classification :=
      match declaredKind? document with
      | some kind => inClass kind ⟨path, index, document⟩
      | none => {}
    found.append (classifyDocuments path (index + 1) rest)

/-- Files that are not text hold no documents. -/
def classifyFile (path : String) (content : Bytes) : Classification :=
  match content.text? with
  | some text => classifyDocuments path 0 (splitDocuments text)
  | none => {}

/-- What follows the last point of a name; nothing if there is no point after its first letter. -/
def extension? (name : String) : Option String :=
  let pieces := Text.splitAll '.' name
  match pieces.reverse with
  | last :: before :: more => if more.isEmpty && before.isEmpty then none else some last
  | _ => none

def isManifestName (name : String) : Bool :=
  match extension? name with
  | some extension =>
    Text.sameIgnoringCase extension "yaml" || Text.sameIgnoringCase extension "yml"
  | none => false

/-- Is a chart, or else a kustomization, described in the directory? -/
inductive DirectoryRole where
  | chart | kustomization | plain
  deriving DecidableEq

def roleOf (tree : FileTree) (path : String) : DirectoryRole :=
  if tree.isFile (FilePath.push path chartFile) then .chart
  else if kustomizationFiles.any fun name => tree.isFile (FilePath.push path name) then .kustomization
  else .plain

mutual

/-- What one entry of a directory holds. `skipped` names the directories to leave out. -/
def classifyEntry (tree : FileTree) (skipped : List String) (path name : String) :
    FileTree → Classification
  | .file content => if isManifestName name then classifyFile path content else {}
  | .link _ => {}
  | .directory children =>
    if name = ".git" || skipped.contains name then {}
    else
      match roleOf tree path with
      | .chart => { charts := [path] }
      | .kustomization => { kustomizations := [path] }
      | .plain => classifyChildren tree [] path children

def classifyChildren (tree : FileTree) (skipped : List String) (path : String) :
    List (String × FileTree) → Classification
  | [] => {}
  | (name, entry) :: rest =>
    (classifyEntry tree skipped (FilePath.push path name) name entry).append
      (classifyChildren tree skipped path rest)

end

def missingMessage (path : String) : String :=
  "resource path " ++ path ++ " does not exist in the repository"

def endsInLink (tree : FileTree) (path : String) : Bool :=
  let components := FilePath.components path
  match components.getLast?, tree.resolveFrom FileTree.linkLimit [] components.dropLast with
  | some (.name name), some location =>
    match (tree.at? location).bind (FileTree.child? name) with
    | some (.link _) => true
    | _ => false
  | _, _ => false

private def lastName (path : String) : String :=
  match (FilePath.components path).getLast? with
  | some (.name name) => name
  | _ => ""

/-- Classifies what lies under a directory, which may be reached through a link; then it is never a
chart or kustomization directory itself. `skipped` names directories right below it to leave out. -/
def classify (tree : FileTree) (path : String) (skipped : List String) :
    Option Classification :=
  match tree.find? path with
  | some (.directory children) =>
    if endsInLink tree path then some (classifyChildren tree skipped path children)
    else if lastName path = ".git" then some {}
    else
      match roleOf tree path with
      | .chart => some { charts := [path] }
      | .kustomization => some { kustomizations := [path] }
      | .plain => some (classifyChildren tree skipped path children)
  | _ => none

end GitDelivery.Manifest
