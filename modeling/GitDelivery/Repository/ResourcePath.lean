import GitDelivery.FilePath
import GitDelivery.Resource.Secret
import GitDelivery.Resource.Subscription

set_option autoImplicit false

/-! Where in a repository the resources of a subscription lie, and its hooks. -/

namespace GitDelivery

/-- Where a path may be given. -/
inductive PathSource where
  | githubPath
  | gitPath
  | filterConfig
  deriving DecidableEq

namespace PathSource

def text : PathSource → String
  | githubPath => "github-path annotation"
  | gitPath => "git-path annotation"
  | filterConfig => "filter config map"

/-- What a source says, without blanks around it. -/
def path? (subscription : Subscription) (filterConfig : Option ConfigMap) (source : PathSource) :
    Option String :=
  let given :=
    match source with
    | githubPath => subscription.annotation? Vocabulary.githubPath
    | gitPath => subscription.annotation? Vocabulary.gitPath
    | PathSource.filterConfig => filterConfig.bind (ConfigMap.get? "path")
  given.bind fun path => Text.nonEmpty? (Text.trim path)

/-- Sources for resources, the first of which that says something counts. -/
def forResources : List PathSource := [githubPath, gitPath, filterConfig]

def forHooks : List PathSource := [githubPath, gitPath]

/-- The first source that says something, and what it says. -/
def first? (subscription : Subscription) (filterConfig : Option ConfigMap)
    (sources : List PathSource) : Option (PathSource × String) :=
  sources.findSome? fun source =>
    (source.path? subscription filterConfig).map (source, ·)

end PathSource

end GitDelivery
