import GitDelivery.Work

set_option autoImplicit false

/-! From a subscription to the commit it deploys: its channels, how to reach their repositories, and
fetching from the first of them that answers. -/

namespace GitDelivery

inductive RemoteError where
  | secret (key : ObjectKey) (reason : String)
  | configMap (key : ObjectKey) (reason : String)
  | settings (channel : ObjectKey) (error : ConnectionError)
  deriving DecidableEq

def RemoteError.message : RemoteError → String
  | secret key reason => "failed to read channel secret " ++ key.text ++ ": " ++ reason
  | configMap key reason => "failed to read channel config map " ++ key.text ++ ": " ++ reason
  | settings channel error =>
    "invalid connection settings for channel " ++ channel.text ++ ": " ++ error.message

inductive ChannelError where
  | unreadable (key : ObjectKey) (reason : String)
  | missing (key : ObjectKey)
  | missingSecondary (key : ObjectKey)
  deriving DecidableEq

def ChannelError.message : ChannelError → String
  | unreadable key reason => "failed to read channel " ++ key.text ++ ": " ++ reason
  | missing key => "channel " ++ key.text ++ " not found"
  | missingSecondary key => "secondary channel " ++ key.text ++ " not found"

structure Channels where
  primary : Channel
  secondary : Option Channel

namespace Channels

/-- The channels that a subscription names, all of which must be there. -/
def load (subscription : Subscription) : ExceptT ChannelError Work Channels := do
  let key := subscription.channelKey
  match ← Work.attempt (.unreadable key) (Work.ask (.channel key)) with
  | none => throw (.missing key)
  | some primary =>
    match subscription.secondaryChannelKey? with
    | none => return ⟨primary, none⟩
    | some other =>
      match ← Work.attempt (.unreadable other) (Work.ask (.channel other)) with
      | none => throw (.missingSecondary other)
      | some secondary => return ⟨primary, some secondary⟩

end Channels

namespace Remote

def secretOf (channel : Channel) : ExceptT RemoteError Work (Option Secret) :=
  match channel.spec.secret.map (ObjectReference.key channel.space) with
  | some key => Work.attempt (.secret key) (Work.ask (.secret key))
  | none => return none

def configMapOf (channel : Channel) : ExceptT RemoteError Work (Option ConfigMap) :=
  match channel.spec.configMap.map (ObjectReference.key channel.space) with
  | some key => Work.attempt (.configMap key) (Work.ask (.configMap key))
  | none => return none

/-- The repository of a channel. Without its secret it is reached anonymously. -/
def ofChannel (channel : Channel) : ExceptT RemoteError Work Remote := do
  let secret ← secretOf channel
  let configMap ← configMapOf channel
  let connection ←
    Work.known ((Connection.resolve secret configMap).mapError (.settings channel.key))
  return ⟨channel.spec.address,
    { connection with skipsVerification := channel.spec.skipsVerification }⟩

def ofChannel? : Option Channel → ExceptT RemoteError Work (Option Remote)
  | some channel => do return some (← ofChannel channel)
  | none => return none

end Remote

namespace CloneOptions

/-- What to clone for a subscription into a directory. -/
def ofSubscription (subscription : Subscription) (channels : Channels) (directory : String) :
    ExceptT RemoteError Work CloneOptions := do
  let primary ← Remote.ofChannel channels.primary
  let secondary ← Remote.ofChannel? channels.secondary
  return {
    revision := .ofSubscription subscription, depth := cloneDepth subscription
    directory := directory, primary := primary, secondary := secondary }

/-- The answer of the first remote that gives one, or the failure of the last remote. -/
def firstAnswer {α : Type} (ask : Remote → Work (Except String α)) (first : Remote) :
    List Remote → Work (Except String α)
  | [] => ask first
  | next :: rest => do
    match ← ask first with
    | .ok answer => return .ok answer
    | .error _ => firstAnswer ask next rest

def fetch (options : CloneOptions) : Work (Except String Checkout) :=
  firstAnswer (fun remote => Work.ask (.clone options remote)) options.primary
    options.secondary.toList

/-- Where the revision is remotely now; a commit stays where it is. -/
def remoteHead (options : CloneOptions) : Work (Except String String) :=
  match options.revision with
  | .commit id => return .ok id
  | .branch _ | .tag _ | .standard =>
    firstAnswer (fun remote => Work.ask (.head options remote)) options.primary
      options.secondary.toList

end CloneOptions

end GitDelivery
