import GitDelivery.Proofs.Cluster.Exchange
import GitDelivery.Proofs.Cluster.Tracking

set_option autoImplicit false

/-! What a deployment sends to a cluster. Items are written in the order of the batch, whatever became
of those before them. After that objects are deleted, and only those that the same engine wrote for
the same subscription and that no item of the batch stands for. -/

namespace GitDelivery

open Dialogue Cluster

def Cluster.Sends (verb : Verb) (history : Exchanges) : Prop :=
  ∃ address body reply, ⟨.send verb address body, reply⟩ ∈ history

namespace Batch

/-- The namespace of the object that an item is written as; none if its kind has no namespaces. -/
def spaceOn (batch : Batch) (served : ServedKind) (item : Deployable) : Option String :=
  if served.isNamespaced then some ((Text.nonEmpty? item.space).getD batch.subscription.space)
  else none

def objectOn (batch : Batch) (served : ServedKind) (item : Deployable) : DeployedObject :=
  ⟨item.kind, batch.spaceOn served item, item.name⟩

def addressOn (batch : Batch) (served : ServedKind) (item : Deployable) : String :=
  Exchange.writeAddress served (batch.spaceOn served item) item.name batch.dryRun

def bodyOn (batch : Batch) (served : ServedKind) (item : Deployable) : Json :=
  (Engine.placed (batch.spaceOn served item) item.object).toJson

/-- May objects of a kind be written? Those that are in no namespace only by a cluster admin. -/
def mayWrite (batch : Batch) (served : ServedKind) : Bool :=
  served.isNamespaced || batch.clusterAdmin

end Batch

namespace Cluster

variable {engine : Engine} {history : Exchanges} {batch : Batch} {item : Deployable}
  {object : DeployedObject} {served : ServedKind}

/-! ### Looking kinds up -/

/-- The kind was there when the engine was made, or the cluster offered it when it was asked. -/
def Engine.Finds (engine : Engine) (history : Exchanges) (kind : ResourceKind)
    (served : ServedKind) : Prop :=
  findKind? kind engine.kinds = some served ∨
    ∃ offered : List ServedKind, ⟨.kinds kind.apiVersion, offered⟩ ∈ history ∧
      findKind? kind offered = some served

theorem Engine.Finds.widen {kind : ResourceKind} {wider : Exchanges}
    (finds : engine.Finds history kind served) (within : ∀ entry ∈ history, entry ∈ wider) :
    engine.Finds wider kind served := by
  rcases finds with known | ⟨offered, asked, found⟩
  · exact .inl known
  · exact .inr ⟨offered, within _ asked, found⟩

private theorem Engine.findKind?_kind {kind : ResourceKind} {kinds : List ServedKind}
    (found : findKind? kind kinds = some served) : served.kind = kind := by
  have satisfied := List.find?_some found
  exact of_decide_eq_true satisfied

private theorem Engine.Finds.kind {kind : ResourceKind} (finds : engine.Finds history kind served) :
    served.kind = kind := by
  rcases finds with found | ⟨_, _, found⟩
  · exact findKind?_kind found
  · exact findKind?_kind found

def AsksKinds : Request → Prop
  | .kinds _ => True
  | .send _ _ _ => False

private theorem Engine.only_resolve (engine : Engine) (kind : ResourceKind) :
    Only AsksKinds (engine.resolve kind).run := by
  unfold Engine.resolve
  rw [ExceptT.run_mk]
  split
  · exact only_pure _
  · refine only_bind (only_request trivial) ?_
    intro offered
    split
    · exact only_pure _
    · exact only_pure _

theorem Engine.resolve_ok {kind : ResourceKind}
    (ended : Ends (engine.resolve kind).run history (.ok served)) :
    engine.Finds history kind served := by
  unfold Engine.resolve at ended
  rw [ExceptT.run_mk] at ended
  cases known : findKind? kind engine.kinds with
  | some found =>
      rw [known] at ended
      obtain ⟨_, same⟩ := ends_pure_iff.mp ended
      cases same
      exact .inl known
  | none =>
      rw [known] at ended
      obtain ⟨asking, offered, _, asked, rest, rfl⟩ := ends_bind_iff.mp ended
      obtain rfl := ends_request_iff.mp asked
      cases late : findKind? kind offered with
      | none =>
          rw [late] at rest
          cases (ends_pure_iff.mp rest).2
      | some found =>
          rw [late] at rest
          obtain ⟨rfl, same⟩ := ends_pure_iff.mp rest
          cases same
          exact .inr ⟨offered, List.mem_singleton.mpr rfl, late⟩

theorem Engine.resolve_not_sends {kind : ResourceKind} {found : Except ClusterError ServedKind}
    (ended : Ends (engine.resolve kind).run history found) (verb : Verb) :
    ¬ Sends verb history := by
  rintro ⟨address, body, reply, sent⟩
  exact only_history (engine.only_resolve kind) ended _ sent

theorem sends_append_iff {verb : Verb} {before after : Exchanges} :
    Sends verb (before ++ after) ↔ Sends verb before ∨ Sends verb after := by
  simp only [Sends, List.mem_append, exists_or]

/-! ### What becomes of an item -/

def applicationVerdict (batch : Batch) (served : ServedKind) (item : Deployable) :
    Except Refusal Json → Except ClusterError (Option DeployedObject)
  | .ok _ => .ok (some (batch.objectOn served item))
  | .error refusal => .error (.failed (.apply item.kind.kind item.name) (.refused refusal))

/-- How the work on one item goes. -/
inductive ItemCourse (engine : Engine) (batch : Batch) (item : Deployable) :
    Exchanges → Except ClusterError (Option DeployedObject) → Prop where
  | unknown {asking : Exchanges} {error : ClusterError}
      (resolved : Ends (engine.resolve item.kind).run asking (.error error)) :
      ItemCourse engine batch item asking (.error error)
  | barred {asking : Exchanges} {served : ServedKind}
      (resolved : Ends (engine.resolve item.kind).run asking (.ok served))
      (forbidden : batch.mayWrite served = false) : ItemCourse engine batch item asking (.ok none)
  | unreachable {asking : Exchanges} {served : ServedKind}
      (resolved : Ends (engine.resolve item.kind).run asking (.ok served))
      (permitted : batch.mayWrite served = true)
      (nowhere : Exchange.isReachable item.name (batch.addressOn served item) = false) :
      ItemCourse engine batch item asking
        (.error (.failed (.apply item.kind.kind item.name) .unsendable))
  | sent {asking : Exchanges} {served : ServedKind}
      (resolved : Ends (engine.resolve item.kind).run asking (.ok served))
      (permitted : batch.mayWrite served = true)
      (reachable : Exchange.isReachable item.name (batch.addressOn served item) = true)
      (reply : Except Refusal Json) :
      ItemCourse engine batch item
        (asking ++
          [⟨.send .patch (batch.addressOn served item) (some (batch.bodyOn served item)), reply⟩])
        (applicationVerdict batch served item reply)

theorem Engine.applyItem_course {outcome : Except ClusterError (Option DeployedObject)}
    (ended : Ends (engine.applyItem batch item).run history outcome) :
    ItemCourse engine batch item history outcome := by
  unfold Engine.applyItem at ended
  rcases ends_run_bind_iff.mp ended with
    ⟨error, failed, rfl⟩ | ⟨asking, served, _, resolved, rest, rfl⟩
  · exact .unknown failed
  have permission : batch.mayWrite served = !(!served.isNamespaced && !batch.clusterAdmin) := by
    simp [Batch.mayWrite]
  by_cases forbidden : (!served.isNamespaced && !batch.clusterAdmin) = true
  · rw [if_pos forbidden] at rest
    obtain ⟨rfl, rfl⟩ := ends_run_pure_iff.mp rest
    rw [List.append_nil]
    rw [forbidden] at permission
    exact .barred resolved permission
  · rw [if_neg forbidden] at rest
    rw [Bool.not_eq_true] at forbidden
    rw [forbidden] at permission
    obtain ⟨written, tried, rfl⟩ := ends_run_bind_pure_iff.mp rest
    obtain ⟨answer, applied, rfl⟩ := ends_run_adapt_iff.mp tried
    have shape := Exchange.apply_ends_iff.mp applied
    change if Exchange.isReachable item.name (batch.addressOn served item) then _ else _ at shape
    by_cases reachable : Exchange.isReachable item.name (batch.addressOn served item) = true
    · rw [if_pos reachable] at shape
      obtain ⟨reply, rfl, rfl⟩ := shape
      have course := ItemCourse.sent resolved permission reachable reply
      cases reply with
      | ok answer => exact course
      | error refusal => exact course
    · rw [if_neg reachable] at shape
      obtain ⟨rfl, rfl⟩ := shape
      rw [List.append_nil]
      rw [Bool.not_eq_true] at reachable
      exact .unreachable resolved permission reachable

/-- Nothing is written for an item but the item itself, and only if it may be. -/
theorem ItemCourse.patch {outcome : Except ClusterError (Option DeployedObject)}
    (course : ItemCourse engine batch item history outcome) {address : String}
    {body : Option Json} {reply : Except Refusal Json}
    (member : ⟨.send .patch address body, reply⟩ ∈ history) :
    ∃ served, engine.Finds history item.kind served ∧ batch.mayWrite served = true ∧
      address = batch.addressOn served item ∧ body = some (batch.bodyOn served item) := by
  cases course with
  | unknown resolved => exact absurd ⟨_, _, _, member⟩ (Engine.resolve_not_sends resolved .patch)
  | barred resolved forbidden =>
      exact absurd ⟨_, _, _, member⟩ (Engine.resolve_not_sends resolved .patch)
  | unreachable resolved permitted nowhere =>
      exact absurd ⟨_, _, _, member⟩ (Engine.resolve_not_sends resolved .patch)
  | @sent asking served resolved permitted reachable answer =>
      rcases List.mem_append.mp member with early | late
      · exact absurd ⟨_, _, _, early⟩ (Engine.resolve_not_sends resolved .patch)
      · cases List.mem_singleton.mp late
        refine ⟨served, (Engine.resolve_ok resolved).widen ?_, permitted, rfl, rfl⟩
        intro entry inside
        exact List.mem_append_left _ inside

private theorem ItemCourse.not_sends_delete {outcome : Except ClusterError (Option DeployedObject)}
    (course : ItemCourse engine batch item history outcome) : ¬ Sends .delete history := by
  cases course with
  | unknown resolved => exact Engine.resolve_not_sends resolved .delete
  | barred resolved forbidden => exact Engine.resolve_not_sends resolved .delete
  | unreachable resolved permitted nowhere => exact Engine.resolve_not_sends resolved .delete
  | sent resolved permitted reachable answer =>
      rw [sends_append_iff, not_or]
      refine ⟨Engine.resolve_not_sends resolved .delete, ?_⟩
      rintro ⟨address, body, reply, member⟩
      cases List.mem_singleton.mp member

theorem ItemCourse.written (course : ItemCourse engine batch item history (.ok (some object))) :
    ∃ served answer, engine.Finds history item.kind served ∧
      ⟨.send .patch (batch.addressOn served item) (some (batch.bodyOn served item)), .ok answer⟩ ∈
        history ∧
      object = batch.objectOn served item := by
  generalize same : (Except.ok (some object) : Except ClusterError (Option DeployedObject)) =
    outcome at course
  cases course with
  | unknown resolved => cases same
  | barred resolved forbidden => cases same
  | unreachable resolved permitted nowhere => cases same
  | @sent asking served resolved permitted reachable reply =>
      cases reply with
      | error refusal => cases same
      | ok answer =>
          cases same
          refine ⟨served, answer, (Engine.resolve_ok resolved).widen ?_,
            List.mem_append_right _ (List.mem_singleton.mpr rfl), rfl⟩
          intro entry inside
          exact List.mem_append_left _ inside

/-! ### What becomes of an object that is deleted -/

inductive DeletionCourse (engine : Engine) (object : DeployedObject) :
    Exchanges → Except ClusterError Unit → Prop where
  | unknown {asking : Exchanges} {error : ClusterError}
      (resolved : Ends (engine.resolve object.kind).run asking (.error error)) :
      DeletionCourse engine object asking (.error error)
  | unreachable {asking : Exchanges} {served : ServedKind}
      (resolved : Ends (engine.resolve object.kind).run asking (.ok served))
      (nowhere : Exchange.isReachable object.name
        (Exchange.deletionAddress served object.space object.name) = false) :
      DeletionCourse engine object asking (.error (.failed (.delete object) .unsendable))
  | sent {asking : Exchanges} {served : ServedKind}
      (resolved : Ends (engine.resolve object.kind).run asking (.ok served))
      (reachable : Exchange.isReachable object.name
        (Exchange.deletionAddress served object.space object.name) = true)
      (reply : Except Refusal Json) :
      DeletionCourse engine object
        (asking ++ [⟨.send .delete (Exchange.deletionAddress served object.space object.name)
          (some Exchange.deletionBody), reply⟩])
        ((Exchange.deletionVerdict (reply.mapError .refused)).mapError (.failed (.delete object)))

private theorem Engine.deleteObject_course {outcome : Except ClusterError Unit}
    (ended : Ends (engine.deleteObject object).run history outcome) :
    DeletionCourse engine object history outcome := by
  unfold Engine.deleteObject at ended
  rcases ends_run_bind_iff.mp ended with
    ⟨error, failed, rfl⟩ | ⟨asking, served, _, resolved, rest, rfl⟩
  · exact .unknown failed
  obtain ⟨answer, deleted, rfl⟩ := ends_run_adapt_iff.mp rest
  have shape := Exchange.delete_ends_iff.mp deleted
  by_cases reachable : Exchange.isReachable object.name
      (Exchange.deletionAddress served object.space object.name) = true
  · rw [if_pos reachable] at shape
    obtain ⟨reply, rfl, rfl⟩ := shape
    exact .sent resolved reachable reply
  · rw [if_neg reachable] at shape
    obtain ⟨rfl, rfl⟩ := shape
    rw [List.append_nil]
    rw [Bool.not_eq_true] at reachable
    exact .unreachable resolved reachable

private theorem DeletionCourse.delete {outcome : Except ClusterError Unit}
    (course : DeletionCourse engine object history outcome) {address : String}
    {body : Option Json} {reply : Except Refusal Json}
    (member : ⟨.send .delete address body, reply⟩ ∈ history) :
    ∃ served, engine.Finds history object.kind served ∧
      address = Exchange.deletionAddress served object.space object.name := by
  cases course with
  | unknown resolved => exact absurd ⟨_, _, _, member⟩ (Engine.resolve_not_sends resolved .delete)
  | unreachable resolved nowhere =>
      exact absurd ⟨_, _, _, member⟩ (Engine.resolve_not_sends resolved .delete)
  | @sent asking served resolved reachable answer =>
      rcases List.mem_append.mp member with early | late
      · exact absurd ⟨_, _, _, early⟩ (Engine.resolve_not_sends resolved .delete)
      · cases List.mem_singleton.mp late
        refine ⟨served, (Engine.resolve_ok resolved).widen ?_, rfl⟩
        intro entry inside
        exact List.mem_append_left _ inside

private theorem DeletionCourse.not_sends_patch {outcome : Except ClusterError Unit}
    (course : DeletionCourse engine object history outcome) : ¬ Sends .patch history := by
  cases course with
  | unknown resolved => exact Engine.resolve_not_sends resolved .patch
  | unreachable resolved nowhere => exact Engine.resolve_not_sends resolved .patch
  | sent resolved reachable answer =>
      rw [sends_append_iff, not_or]
      refine ⟨Engine.resolve_not_sends resolved .patch, ?_⟩
      rintro ⟨address, body, reply, member⟩
      cases List.mem_singleton.mp member

/-! ### Whole deployments -/

def Deployment.Writes (key : ObjectKey) (object : DeployedObject) (deployment : Deployment) :
    Prop :=
  deployment.batch.dryRun = false ∧ deployment.key = key ∧
    ∃ item ∈ deployment.batch.items, ∃ served answer, served.kind = item.kind ∧
      object = deployment.batch.objectOn served item ∧
      ⟨.send .patch (deployment.batch.addressOn served item)
        (some (deployment.batch.bodyOn served item)), .ok answer⟩ ∈ deployment.history

namespace Engine

variable {after : Engine} {deployment : Deployment} {key : ObjectKey}

theorem Performs.itemCourse (performed : engine.Performs deployment after)
    {trial : Trial Deployable (Option DeployedObject)}
    (member : trial ∈ deployment.applications) :
    ItemCourse engine deployment.batch trial.target trial.history trial.outcome :=
  applyItem_course (performed.applications.ended trial member)

theorem Performs.deletionCourse (performed : engine.Performs deployment after)
    {trial : Trial DeployedObject Unit} (member : trial ∈ deployment.deletions) :
    DeletionCourse engine trial.target trial.history trial.outcome :=
  deleteObject_course (performed.deletions.ended trial member)

theorem Performs.writes (performed : engine.Performs deployment after)
    (applies : deployment.Applies key object) : deployment.Writes key object := by
  obtain ⟨real, same, applied⟩ := applies
  obtain ⟨trial, member, brought⟩ := List.mem_filterMap.mp applied
  have course := performed.itemCourse member
  rw [Trial.object?_eq_some_iff.mp brought] at course
  obtain ⟨served, answer, finds, sent, rfl⟩ := course.written
  have recorded := List.mem_flatMap.mpr ⟨trial, member, sent⟩
  exact ⟨real, same, trial.target, (performed.mem_items member).1, served, answer, finds.kind, rfl,
    List.mem_append_left _ recorded⟩

theorem Run.performs {first last : Engine} {deployments : List Deployment}
    (run : Run first deployments last) (member : deployment ∈ deployments) :
    ∃ before next, Engine.Performs before deployment next := by
  induction run with
  | nil engine => cases member
  | @cons engine next last head rest ended performed later ih =>
      rcases List.mem_cons.mp member with rfl | inside
      · exact ⟨engine, next, performed⟩
      · exact ih inside

theorem Run.written {kinds : List ServedKind} {deployments : List Deployment}
    (run : Run { kinds := kinds } deployments engine) (known : object ∈ engine.deployedFor key) :
    ∃ former ∈ deployments, former.Writes key object := by
  apply Classical.byContradiction
  intro never
  have unapplied : ∀ former ∈ deployments, ¬ former.Applies key object := by
    intro former member applies
    obtain ⟨before, next, performed⟩ := run.performs member
    exact never ⟨former, member, performed.writes applies⟩
  have unknown : object ∉ ({ kinds := kinds } : Engine).deployedFor key := List.not_mem_nil
  exact (run.stays_unknown unknown unapplied).1 known

theorem Performs.not_sends_delete (performed : engine.Performs deployment after) :
    ¬ Sends .delete (Trial.historyOf deployment.applications) := by
  rintro ⟨address, body, reply, sent⟩
  obtain ⟨trial, member, inside⟩ := List.mem_flatMap.mp sent
  exact (performed.itemCourse member).not_sends_delete ⟨address, body, reply, inside⟩

theorem Performs.not_sends_patch (performed : engine.Performs deployment after) :
    ¬ Sends .patch (Trial.historyOf deployment.deletions) := by
  rintro ⟨address, body, reply, sent⟩
  obtain ⟨trial, member, inside⟩ := List.mem_flatMap.mp sent
  exact (performed.deletionCourse member).not_sends_patch ⟨address, body, reply, inside⟩

theorem Performs.delete (performed : engine.Performs deployment after) {address : String}
    {body : Option Json} {reply : Except Refusal Json}
    (sent : ⟨.send .delete address body, reply⟩ ∈ deployment.history) :
    ∃ object served, engine.Finds deployment.history object.kind served ∧
      address = Exchange.deletionAddress served object.space object.name ∧
      object ∈ engine.stale deployment.batch := by
  rcases List.mem_append.mp sent with early | late
  · exact absurd ⟨address, body, reply, early⟩ performed.not_sends_delete
  · obtain ⟨trial, member, inside⟩ := List.mem_flatMap.mp late
    obtain ⟨served, finds, same⟩ := (performed.deletionCourse member).delete inside
    refine ⟨trial.target, served, finds.widen ?_, same, ?_⟩
    · intro entry within
      exact List.mem_append_right _ (List.mem_flatMap.mpr ⟨trial, member, within⟩)
    · exact (performed.deletions.exists_iff_mem trial.target).mp ⟨trial, member, rfl⟩

theorem Performs.patch (performed : engine.Performs deployment after) {address : String}
    {body : Option Json} {reply : Except Refusal Json}
    (sent : ⟨.send .patch address body, reply⟩ ∈ deployment.history) :
    ∃ item ∈ deployment.batch.items,
      item.kind.isAllowed deployment.batch.allow deployment.batch.deny = true ∧
      ∃ served, engine.Finds deployment.history item.kind served ∧
        deployment.batch.mayWrite served = true ∧
        address = deployment.batch.addressOn served item ∧
        body = some (deployment.batch.bodyOn served item) := by
  rcases List.mem_append.mp sent with early | late
  · obtain ⟨trial, member, inside⟩ := List.mem_flatMap.mp early
    obtain ⟨served, finds, permitted, same, content⟩ := (performed.itemCourse member).patch inside
    obtain ⟨within, allowed⟩ := performed.mem_items member
    refine ⟨trial.target, within, allowed, served, finds.widen ?_, permitted, same, content⟩
    intro entry recorded
    exact List.mem_append_left _ (List.mem_flatMap.mpr ⟨trial, member, recorded⟩)
  · exact absurd ⟨address, body, reply, late⟩ performed.not_sends_patch

/-- After any deployments of an engine, one more deletes only objects that one of them wrote for the
same subscription and that no item stands for; it writes only what is allowed and permitted. Every
allowed item is tried, in the order of the batch and whatever became of the items before it, and
everything is written before anything is deleted. A dry run deletes and remembers nothing. -/
theorem requests_permitted {kinds : List ServedKind} {earlier : List Deployment}
    {errors : List ClusterError} (run : Run { kinds := kinds } earlier engine)
    (ended : Ends (engine.deploy batch) history (errors, after)) :
    (∀ address body (reply : Except Refusal Json),
      ⟨.send .delete address body, reply⟩ ∈ history →
        ∃ object served, engine.Finds history object.kind served ∧
          address = Exchange.deletionAddress served object.space object.name ∧
          object.isWanted batch.items = false ∧
          ∃ former ∈ earlier, former.Writes batch.subscription.key object) ∧
    (batch.dryRun = true → ¬ Sends .delete history ∧ after.deployed = engine.deployed) ∧
    (∀ address body (reply : Except Refusal Json),
      ⟨.send .patch address body, reply⟩ ∈ history →
        ∃ item ∈ batch.items, item.kind.isAllowed batch.allow batch.deny = true ∧
          ∃ served, engine.Finds history item.kind served ∧ batch.mayWrite served = true ∧
            address = batch.addressOn served item ∧ body = some (batch.bodyOn served item)) ∧
    ∃ trials deleting, history = Trial.historyOf trials ++ deleting ∧
      trials.map Trial.target =
        batch.items.filter (fun item => item.kind.isAllowed batch.allow batch.deny) ∧
      (∀ trial ∈ trials, ItemCourse engine batch trial.target trial.history trial.outcome) ∧
      ¬ Sends .delete (Trial.historyOf trials) ∧ ¬ Sends .patch deleting := by
  obtain ⟨deployment, performed, rfl, rfl, rfl⟩ := deploy_ends_iff.mp ended
  refine ⟨?_, ?_, ?_, ?_⟩
  · intro address body reply sent
    obtain ⟨object, served, finds, same, stale⟩ := performed.delete sent
    have tries : deployment.TriesToDelete deployment.key object :=
      ⟨rfl, (performed.deletions.exists_iff_mem object).mpr stale⟩
    obtain ⟨_, known, unwanted⟩ := performed.triesToDelete_iff.mp tries
    exact ⟨object, served, finds, same, unwanted, run.written known⟩
  · intro dry
    constructor
    · rintro ⟨address, body, reply, sent⟩
      obtain ⟨object, _, _, _, stale⟩ := performed.delete sent
      rw [stale_of_dry dry] at stale
      cases stale
    · rw [performed.remembers, remember_of_dry dry]
  · intro address body reply sent
    exact performed.patch sent
  · exact ⟨deployment.applications, Trial.historyOf deployment.deletions, rfl,
      performed.applications.targets, fun trial member => performed.itemCourse member,
      performed.not_sends_delete, performed.not_sends_patch⟩

/-! ### A batch of which one item is refused

The first of the two items that the rules allow is refused, the other one is written all the same, and
then the configuration map of an earlier batch is deleted. -/

namespace Replacement

open FailedDeletion

def named (apiVersion kind name : String) : Deployable :=
  { kind := .ofTexts apiVersion kind
    object := { declared := some (apiVersion, kind), metadata := { name := some name }, others := [] } }

def answer : (request : Request) → request.Reply
  | .kinds _ => []
  | .send _ _ body =>
    if ((body.bind (·.get? "metadata")).bind (·.textAt? "name")) = some "locked" then
      .error ⟨403, "Forbidden", "locked"⟩
    else .ok .null

/-- Everything of the first version may be deployed, except secrets. -/
def replacement : Batch :=
  { FailedDeletion.batch [named "v1" "ConfigMap" "locked", named "v1" "Secret" "token",
      named "apps/v1" "Deployment" "front", named "v1" "ConfigMap" "extra"] with
    allow := [⟨"v1", ["*"]⟩]
    deny := [⟨"v1", ["Secret"]⟩] }

def replacing : Deployment :=
  (holding [deployedSettings]).answered answer replacement

private theorem run : Run first [bringing] (holding [deployedSettings]) := by
  have brings := performs_answered first FailedDeletion.answer (FailedDeletion.batch [settings])
  rw [after_bringing] at brings
  exact .cons (deploy_ends_iff.mpr ⟨bringing, brings, rfl, rfl, rfl⟩) brings (.nil _)

private theorem replacing_ends :
    Ends ((holding [deployedSettings]).deploy replacement) replacing.history
      (replacing.errors, (holding [deployedSettings]).afterAnswered answer replacement) := by
  have performs := performs_answered (holding [deployedSettings]) answer replacement
  exact deploy_ends_iff.mpr ⟨replacing, performs, rfl, rfl, rfl⟩

set_option maxRecDepth 4000 in
private theorem deletions_history : Trial.historyOf replacing.deletions =
    [⟨.send .delete (Exchange.deletionAddress .configMaps (some "apps") "settings")
      (some Exchange.deletionBody), .ok .null⟩] :=
  rfl

private theorem errors_ne : replacing.errors ≠ [] := by
  decide +kernel

/-- The secret is left out by what is denied only, and the deployment by what is allowed only. -/
theorem rules_decide :
    replacement.items.filter (fun item => item.kind.isAllowed replacement.allow replacement.deny) =
        [named "v1" "ConfigMap" "locked", named "v1" "ConfigMap" "extra"] ∧
      (ResourceKind.ofTexts "v1" "Secret").isAllowed replacement.allow [] = true ∧
      (ResourceKind.ofTexts "apps/v1" "Deployment").isAllowed [] replacement.deny = true :=
  ⟨rfl, by decide, by decide⟩

/-- The configuration map is deleted that the earlier batch wrote, although an item was refused, and
nothing is tried but the two items that the rules leave. -/
theorem former_settings_deleted :
    Run first [bringing] (holding [deployedSettings]) ∧ replacing.errors ≠ [] ∧
      (∃ address body, ⟨.send .delete address body, .ok .null⟩ ∈ replacing.history ∧
        ∃ object served, address = Exchange.deletionAddress served object.space object.name ∧
          object.isWanted replacement.items = false ∧
          ∃ former ∈ [bringing], former.Writes replacement.subscription.key object) ∧
      ∃ (trials : List (Trial Deployable (Option DeployedObject))) (deleting : Exchanges),
        replacing.history = Trial.historyOf trials ++ deleting ∧
        trials.map Trial.target = [named "v1" "ConfigMap" "locked", named "v1" "ConfigMap" "extra"] ∧
        ¬ Sends .patch deleting := by
  obtain ⟨deletes, -, -, trials, deleting, same, tried, -, -, unsent⟩ :=
    requests_permitted run replacing_ends
  have sent : ⟨.send .delete (Exchange.deletionAddress .configMaps (some "apps") "settings")
      (some Exchange.deletionBody), .ok .null⟩ ∈ replacing.history := by
    refine List.mem_append_right _ ?_
    rw [deletions_history]
    exact List.mem_singleton.mpr rfl
  obtain ⟨object, served, _, address, unwanted, wrote⟩ := deletes _ _ _ sent
  exact ⟨run, errors_ne, ⟨_, _, sent, object, served, address, unwanted, wrote⟩,
    trials, deleting, same, tried.trans rules_decide.1, unsent⟩

end Replacement

end Engine

end Cluster

end GitDelivery
