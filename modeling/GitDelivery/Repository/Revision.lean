import GitDelivery.Resource.Subscription
import GitDelivery.Settings

set_option autoImplicit false

/-! Which revision of a repository a subscription wants, and how much of its history. -/

namespace GitDelivery

inductive Revision where
  | commit (id : String)
  | tag (name : String)
  | branch (name : String)
  | standard
  deriving DecidableEq

namespace Revision

/-- A commit goes before a tag, and a tag before a branch. -/
def ofSubscription (subscription : Subscription) : Revision :=
  let given (key : String) : Option String :=
    (subscription.annotation? key).bind fun text => Text.nonEmpty? (Text.trim text)
  match given Vocabulary.gitCommit, given Vocabulary.gitTag,
    (given Vocabulary.githubBranch).or (given Vocabulary.gitBranch) with
  | some id, _, _ => commit id
  | none, some name, _ => tag name
  | none, none, some name => branch name
  | none, none, none => standard

def branch? : Revision → Option String
  | branch name => some name
  | commit _ | tag _ | standard => none

def text : Revision → String
  | commit id => "commit " ++ id
  | tag name => "tag " ++ name
  | branch name => "branch " ++ name
  | standard => "default branch"

end Revision

/-- How many commits of history are fetched: at least one, and one unless a number is given. -/
def cloneDepth (subscription : Subscription) : Nat :=
  let given := (subscription.annotation? Vocabulary.cloneDepth).bind fun text =>
    Settings.natural? 32 (Text.trim text)
  match given with
  | some (depth + 1) => depth + 1
  | _ => 1

end GitDelivery
