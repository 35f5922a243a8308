import GitDelivery.Dialogue
import GitDelivery.Manifest.Kustomization
import GitDelivery.Repository.Remote
import GitDelivery.Resource.Channel
import GitDelivery.Resource.Dynamic
import GitDelivery.Resource.HookJob
import GitDelivery.Resource.Secret

set_option autoImplicit false

/-! What delivery asks of the outside: objects of the cluster, remote repositories, builds, and the
engine that brings objects onto the cluster. A failure comes back as text. -/

namespace GitDelivery

/-- The commit that was checked out, and the files that are there after that. -/
structure Checkout where
  commit : String
  tree : FileTree

/-- Everything that is to be deployed for a subscription, and what kinds may be. -/
structure Batch where
  subscription : Subscription
  items : List Deployable
  allow : List KindRule
  deny : List KindRule
  clusterAdmin : Bool
  dryRun : Bool

namespace Work

inductive Request where
  | subscription (key : ObjectKey)
  | channel (key : ObjectKey)
  | secret (key : ObjectKey)
  | configMap (key : ObjectKey)
  | writeStatus (key : ObjectKey) (status : SubscriptionStatus)
  | clone (options : CloneOptions) (remote : Remote)
  | head (options : CloneOptions) (remote : Remote)
  | build (tree : FileTree) (directory : String)
  | deploy (batch : Batch)
  | reportOverall (subscription : Subscription) (failed : Bool) (message : String)
  | clusters (subscription : Subscription)
  | job (key : ObjectKey)
  | submit (job : HookJob)
  | time

@[reducible] def Request.Reply : Request → Type
  | subscription _ => Except String (Option Subscription)
  | channel _ => Except String (Option Channel)
  | secret _ => Except String (Option Secret)
  | configMap _ => Except String (Option ConfigMap)
  | writeStatus _ _ => Except String Unit
  | clone _ _ => Except String Checkout
  | head _ _ => Except String String
  | build _ _ => Manifest.Kustomization.Build
  | deploy _ => Except String Unit
  | reportOverall _ _ _ => Except String Unit
  | clusters _ => Except String (List String)
  | job _ => Except String (Option HookJob)
  | submit _ => Except String Unit
  | time => Time.Instant

end Work

abbrev Work := Dialogue Work.Request Work.Request.Reply

namespace Work

def ask (request : Request) : Work request.Reply :=
  .request request

/-- Asks for something that may fail, and says what a failure means. -/
def attempt {ε α : Type} (failed : String → ε) (work : Work (Except String α)) :
    ExceptT ε Work α :=
  ExceptT.mk do
    match ← work with
    | .ok value => return .ok value
    | .error reason => return .error (failed reason)

/-- What is known already, without asking. -/
def known {ε α : Type} (result : Except ε α) : ExceptT ε Work α :=
  ExceptT.mk (pure result)

end Work

end GitDelivery
