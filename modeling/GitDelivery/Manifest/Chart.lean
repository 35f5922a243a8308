import GitDelivery.FileTree.Basic
import GitDelivery.Manifest.Classification
import GitDelivery.Repository.Remote
import GitDelivery.Text.Lowercase
import GitDelivery.Yaml.Record

set_option autoImplicit false

/-! Charts of a repository by name, and the releases that install them. -/

namespace GitDelivery.Manifest

/-- A chart, and the directory that holds it as seen from the repository. -/
structure Chart where
  name : String
  version : String
  path : String
  deriving DecidableEq

/-- The charts of each name, in the order in which they were found. -/
abbrev ChartIndex := Table (List Chart)

inductive ChartError where
  | unreadable (file : String) (error : FileTree.ReadError)
  | unparsable (file : String) (failure : Yaml.Failure)
  | noName (file : String)
  | noVersion (file : String)
  deriving DecidableEq

def ChartError.message : ChartError → String
  | unreadable file error => "failed to read " ++ file ++ ": " ++ error.message
  | unparsable file failure => "failed to parse " ++ file ++ ": " ++ failure.message
  | noName file => file ++ " has no chart name"
  | noVersion file => file ++ " has no chart version"

namespace ChartIndex

/-- Name and version that a chart file gives. -/
def describe (tree : FileTree) (file : String) : Except ChartError (String × String) := do
  let content ← (tree.readText file).mapError (.unreadable file)
  let fields ←
    ((Yaml.Document.ofText content).bind fun document =>
      document.textFields ["name", "version"]).mapError (.unparsable file)
  match fields.map (·.bind Text.nonEmpty?) with
  | some name :: some version :: _ => return (name, version)
  | some _ :: _ => throw (.noVersion file)
  | _ => throw (.noName file)

/-- Does the subscription want a chart of that name and version? -/
def wants (subscription : Subscription) (name version : String) : Bool :=
  let wanted (given : Option String) (found : String) : Bool :=
    (given.bind Text.nonEmpty?).all (· = found)
  wanted subscription.spec.package name
    && wanted (subscription.spec.filter.bind PackageFilter.version) version

def add (chart : Chart) (index : ChartIndex) : ChartIndex :=
  Table.insert chart.name ((Table.get? chart.name index).getD [] ++ [chart]) index

/-- Adds the charts of directories, in their order, to an index. -/
def addAll (subscription : Subscription) (tree : FileTree) (root : String) :
    ChartIndex → List String → Except ChartError ChartIndex
  | index, [] => .ok index
  | index, directory :: rest => do
    let (name, version) ← describe tree (FilePath.push directory chartFile)
    if wants subscription name version then
      addAll subscription tree root
        (index.add ⟨name, version, FilePath.relativeTo root directory⟩) rest
    else addAll subscription tree root index rest

/-- The charts in directories of a repository that a subscription wants. -/
def ofDirectories (subscription : Subscription) (tree : FileTree) (root : String)
    (directories : List String) : Except ChartError ChartIndex :=
  addAll subscription tree root [] directories

/-- For each name the chart found last. -/
def lastCharts (index : ChartIndex) : List Chart :=
  index.filterMap fun (_, charts) => charts.getLast?

end ChartIndex

namespace Chart

/-- The override for a chart, which may rename its release. -/
def override? (subscription : Subscription) (chart : Chart) : Option PackageOverride :=
  subscription.spec.overrides.find? (·.name = chart.name)

/-- Small letters only. -/
def releaseName (subscription : Subscription) (chart : Chart) : String :=
  let given := ((chart.override? subscription).bind PackageOverride.displayName).bind Text.nonEmpty?
  Text.lowercase (given.getD (subscription.name ++ "-" ++ chart.name))

private def specPatch? (entry : Json) : Option Json :=
  if (entry.textAt? "path").any (Text.sameIgnoringCase · "spec") then entry.get? "value" else none

/-- Lays the overrides for `spec` over each other. -/
def releaseSpec (entries : List Json) : Option Json :=
  (entries.filterMap specPatch?).foldl
    (fun spec patch => some ((spec.getD (.object [])).merge patch)) none

/-- The release that installs a chart from its repository. -/
def release (subscription : Subscription) (options : CloneOptions) (chart : Chart) : Json :=
  let git := Json.ofPresent [
    ("urls", some (Json.texts (options.remotes.map Remote.url))),
    ("chartPath", some (.text chart.path)),
    ("branch", options.revision.branch?.map .text)]
  Json.ofPresent [
    ("apiVersion", some (.text (Vocabulary.appsGroup ++ "/" ++ Vocabulary.appsVersion))),
    ("kind", some (.text "HelmRelease")),
    ("metadata", some (Json.ofFields [
      ("name", .text (chart.releaseName subscription)),
      ("namespace", .text subscription.space)])),
    ("repo", some (Json.ofFields [
      ("chartName", .text chart.name),
      ("version", .text chart.version),
      ("source", Json.ofFields [("type", .text "git"), ("git", git)])])),
    ("spec", releaseSpec (((chart.override? subscription).map PackageOverride.entries).getD []))]

end Chart

end GitDelivery.Manifest
