import GitDelivery.Reconcile

set_option autoImplicit false

/-! A cluster, a repository and a clock in memory, for trying deliveries out. Calls that change
something are recorded, and any call can be made to fail. -/

namespace GitDelivery.Simulation

inductive Call where
  | subscription | channel | secret | configMap | status | deploy | overall | placement
  | job | submit | clone | probe
  deriving DecidableEq

/-- Calls about subjects that contain `fragment` fail. -/
structure Fault where
  call : Call
  fragment : String
  reason : String
  deriving DecidableEq

/-- What was done, in the order in which it was tried. -/
inductive Event where
  | cloned (options : CloneOptions) (remote : Remote)
  | probed (options : CloneOptions) (remote : Remote)
  | deployed (batch : Batch)
  | reported (key : ObjectKey) (failed : Bool) (message : String)
  | statusWritten (key : ObjectKey) (status : SubscriptionStatus)
  | clustersAsked (key : ObjectKey)
  | submitted (job : HookJob)

/-- Objects and jobs are kept by the texts of their keys. The clock counts milliseconds. -/
structure World where
  context : Context
  buildTool : FileTree → String → Manifest.Kustomization.Build
  subscriptions : Table Subscription := []
  channels : Table Channel := []
  secrets : Table Secret := []
  configMaps : Table ConfigMap := []
  repository : FileTree := .empty
  commit : String
  clusters : List String := []
  faults : List Fault := []
  jobs : Table HookJob := []
  disk : FileTree := .empty
  items : Table SyncItem := []
  controller : Controller := {}
  clock : Nat := 0
  events : List Event := []

namespace World

def kinds : List String := ["Subscription", "Channel", "Secret", "ConfigMap"]

def put (kind : String) (object : Json) (world : World) : Except DecodeError World := do
  if kind = "Subscription" then
    let value ← Subscription.decode object
    return { world with subscriptions := Table.insert value.key.text value world.subscriptions }
  else if kind = "Channel" then
    let value ← Channel.decode object
    return { world with channels := Table.insert value.key.text value world.channels }
  else if kind = "Secret" then
    let value ← Decoder.secret object
    return { world with secrets := Table.insert value.metadata.key.text value world.secrets }
  else if kind = "ConfigMap" then
    let value ← Decoder.configMap object
    return { world with configMaps := Table.insert value.metadata.key.text value world.configMaps }
  else throw (.expected "an object of a known kind")

def drop (kind name : String) (world : World) : Bool × World :=
  if kind = "Subscription" then
    ((Table.get? name world.subscriptions).isSome,
      { world with subscriptions := Table.erase name world.subscriptions })
  else if kind = "Channel" then
    ((Table.get? name world.channels).isSome,
      { world with channels := Table.erase name world.channels })
  else if kind = "Secret" then
    ((Table.get? name world.secrets).isSome,
      { world with secrets := Table.erase name world.secrets })
  else if kind = "ConfigMap" then
    ((Table.get? name world.configMaps).isSome,
      { world with configMaps := Table.erase name world.configMaps })
  else (false, world)

def record (event : Event) : StateM World Unit :=
  modify fun world => { world with events := world.events ++ [event] }

/-- The reason for which a call fails, if it does: that of the first fault that covers it. -/
def fault? (world : World) (call : Call) (subject : String) : Option String :=
  (world.faults.find? fun fault =>
    fault.call = call && Text.containsText fault.fragment subject).map Fault.reason

/-- Sets a fault in place of the one for the same calls, or takes that away. -/
def setFault (call : Call) (fragment : String) (reason : Option String) (world : World) : World :=
  let others := world.faults.filter fun fault => !(fault.call = call && fault.fragment = fragment)
  { world with faults := others ++ (reason.map (Fault.mk call fragment)).toList }

def unlessFault {α : Type} (call : Call) (subject : String) (answer : StateM World (Except String α)) :
    StateM World (Except String α) := do
  match (← get).fault? call subject with
  | some reason => return .error reason
  | none => answer

private def readFrom {α : Type} (call : Call) (key : ObjectKey) (objects : World → Table α) :
    StateM World (Except String (Option α)) :=
  unlessFault call key.text do return .ok (Table.get? key.text (objects (← get)))

/-- Time of the first moment of the clock. -/
def epoch : Int := 1704067200

def time (world : World) : Time.Instant :=
  ⟨epoch + (world.clock / 1000 : Nat), world.clock % 1000 * 1000000⟩

def writeStatus (key : ObjectKey) (status : SubscriptionStatus) : StateM World (Except String Unit) := do
  let world ← get
  match Table.get? key.text world.subscriptions with
  | none => return .error ("subscription " ++ key.text ++ " not found")
  | some subscription =>
    let updated := { subscription with status := some (status.update (subscription.status.getD {})) }
    set { world with subscriptions := Table.insert key.text updated world.subscriptions }
    return .ok ()

/-- The repository in place of whatever was in the directory. -/
def checkOut (directory : String) (world : World) : World :=
  { world with
    disk := FileTree.put world.repository (FileTree.plainLocation directory) world.disk }

def answer : (request : Work.Request) → StateM World request.Reply
  | .subscription key => readFrom .subscription key World.subscriptions
  | .channel key => readFrom .channel key World.channels
  | .secret key => readFrom .secret key World.secrets
  | .configMap key => readFrom .configMap key World.configMaps
  | .writeStatus key status => do
    record (.statusWritten key status)
    unlessFault .status key.text (writeStatus key status)
  | .clone options remote => do
    record (.cloned options remote)
    unlessFault .clone remote.url do
      modify (checkOut options.directory)
      let world ← get
      return .ok ⟨world.commit, world.disk⟩
  | .head options remote => do
    record (.probed options remote)
    unlessFault .probe remote.url do return .ok (← get).commit
  | .build tree directory => do
    modify fun world => { world with disk := tree }
    return (← get).buildTool tree directory
  | .deploy batch => do
    record (.deployed batch)
    unlessFault .deploy batch.subscription.key.text (pure (.ok ()))
  | .reportOverall subscription failed message => do
    record (.reported subscription.key failed message)
    unlessFault .overall subscription.key.text (pure (.ok ()))
  | .clusters subscription => do
    record (.clustersAsked subscription.key)
    unlessFault .placement subscription.key.text do return .ok (← get).clusters
  | .job key => readFrom .job key World.jobs
  | .submit job => do
    record (.submitted job)
    unlessFault .submit job.key.text do
      modify fun world => { world with jobs := Table.insert job.key.text job world.jobs }
      return .ok ()
  | .time => return (← get).time

def perform {α : Type} (work : Work α) : StateM World α :=
  Dialogue.runWith (M := StateM World) answer work

def control {α : Type} (work : Controller → Work (α × Controller)) : StateM World α := do
  let (result, controller) ← perform (work (← get).controller)
  modify fun world => { world with controller := controller }
  return result

def controlLoops {α : Type} (change : SyncLoops → α × SyncLoops) : StateM World α :=
  modifyGet fun world =>
    let (result, loops) := change world.controller.loops
    (result, { world with controller := { world.controller with loops := loops } })

/-- The loop whose tick is due first, if that is before `limit`. -/
def firstDue? (limit : Nat) : SyncLoops → Option (Nat × ObjectKey × SyncLoop)
  | [] => none
  | (key, loop) :: rest =>
    match loop.phase.due?.filter (· < limit), firstDue? limit rest with
    | some due, some (other, found) => if due ≤ other then some (due, key, loop) else some (other, found)
    | some due, none => some (due, key, loop)
    | none, found => found

/-- Makes at most so many ticks that are due before `limit`, in the order of their times. -/
def runLoops (limit : Nat) : Nat → StateM World Unit
  | 0 => return ()
  | ticks + 1 => do
    let world ← get
    match firstDue? limit world.controller.loops with
    | none => return ()
    | some (due, key, loop) =>
      set { world with clock := max due world.clock }
      let loop ← perform (loop.step world.context (max due world.clock))
      let _ ← controlLoops fun loops => ((), Registry.set key loop loops)
      runLoops limit ticks

/-- Lets time pass. Ticks of one loop are a minute apart or more, which bounds their number. -/
def wait (milliseconds : Nat) : StateM World Unit := do
  let world ← get
  let limit := world.clock + milliseconds
  runLoops limit (world.controller.loops.length * (milliseconds / 60000 + 2))
  modify fun world => { world with clock := limit }

/-- Sets what jobs report whose keys contain a fragment; gives their keys. -/
def finishJobs (fragment : String) (status : Option String) (world : World) :
    List String × World :=
  let matching (name : String) : Bool := Text.containsText fragment name
  let finish (job : HookJob) : HookJob :=
    { job with status := some { result := some { status := status, others := [] }, others := [] } }
  (world.jobs.keys.filter matching,
    { world with jobs := world.jobs.map fun (name, job) =>
        (name, if matching name then finish job else job) })

def tick (trigger : Trigger) (name : String) (item : SyncItem) :
    StateM World (TickResult × SyncItem × Option SubscriptionStatus) := do
  let world ← get
  let (result, item) ← perform (item.tick world.context trigger)
  modify fun world => { world with items := Table.insert name item world.items }
  return (result, item,
    SubscriptionStatus.afterTick world.context.settings.messageLimit world.time result)

/-- A pass for a subscription; a failed one gives the seconds to the next one as well. -/
def reconcile (subscription : Subscription) :
    StateM World (Except (ReconcileError × Nat) NextPass) := do
  let world ← get
  match ← control (·.pass world.context subscription world.clock) with
  | .ok next => return .ok next
  | .error error =>
    let delay ← control fun controller =>
      return controller.countFailure world.context.settings subscription.key
    return .error (error, delay)

/-- How many passes for a subscription failed in a row, if any were counted. -/
def failureCount? (key : ObjectKey) (world : World) : Option Nat :=
  (Table.get? key.text world.controller.failures).map FailureRecord.count

end World

end GitDelivery.Simulation
