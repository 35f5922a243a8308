set_option autoImplicit false

/-! Names of API groups, annotations, labels and keys that subscriptions and their objects use. -/

namespace GitDelivery.Vocabulary

def appsGroup : String := "apps.open-cluster-management.io"
def appsVersion : String := "v1"
def clusterGroup : String := "cluster.open-cluster-management.io"
def fieldManager : String := "git-subscription-controller"

private def ofApps (name : String) : String :=
  "apps.open-cluster-management.io/" ++ name

def githubPath : String := ofApps "github-path"
def gitPath : String := ofApps "git-path"
def githubBranch : String := ofApps "github-branch"
def gitBranch : String := ofApps "git-branch"
def gitCommit : String := ofApps "git-desired-commit"
def gitTag : String := ofApps "git-tag"
def cloneDepth : String := ofApps "git-clone-depth"
def reconcileRate : String := ofApps "reconcile-rate"
def webhookEnabled : String := ofApps "webhook-enabled"
def clusterAdmin : String := ofApps "cluster-admin"
def currentNamespaceScoped : String := ofApps "current-namespace-scoped"
def reconcileOption : String := ofApps "reconcile-option"
def hostingSubscription : String := ofApps "hosting-subscription"
def userIdentity : String := ofApps "user-identity"
def userGroup : String := ofApps "user-group"
def pauseLabel : String := ofApps "subscription-pause"
def partOfLabel : String := "app.kubernetes.io/part-of"
def appLabel : String := "app"
def placementLabel : String := clusterGroup ++ "/placement"

def jobGroup : String := "tower.ansible.com"
def jobVersion : String := "v1alpha1"
def jobKind : String := "AnsibleJob"
def targetClusters : String := "target_clusters"
def jobSucceeded : String := "successful"

end GitDelivery.Vocabulary
