import GitDelivery.Proofs.Cluster.Deployment

set_option autoImplicit false

/-! Which of the objects that an engine deployed it still knows of. An object is forgotten as soon as
it is not wanted, whether it could be deleted or not. -/

namespace GitDelivery.Cluster

open Dialogue

/-- The answers to a request to delete an object after which it is gone. -/
def meansGone : Except Refusal Json → Prop
  | .ok _ => True
  | .error refusal => refusal.code = Refusal.notFound.code

def ConfirmsDeletion (history : Exchanges) : Prop :=
  ∃ address body reply, ⟨.send .delete address body, reply⟩ ∈ history ∧ meansGone reply

namespace Deployment

def Applies (key : ObjectKey) (object : DeployedObject) (deployment : Deployment) : Prop :=
  deployment.batch.dryRun = false ∧ deployment.key = key ∧ object ∈ deployment.applied

def TriesToDelete (key : ObjectKey) (object : DeployedObject) (deployment : Deployment) : Prop :=
  deployment.key = key ∧ ∃ trial ∈ deployment.deletions, trial.target = object

def Deletes (key : ObjectKey) (object : DeployedObject) (deployment : Deployment) : Prop :=
  deployment.key = key ∧
    ∃ trial ∈ deployment.deletions, trial.target = object ∧ ConfirmsDeletion trial.history

/-- The deployment set about deleting an object in vain. -/
def FailsToDelete (key : ObjectKey) (object : DeployedObject) (deployment : Deployment) : Prop :=
  deployment.key = key ∧
    ∃ trial ∈ deployment.deletions, trial.target = object ∧ ¬ ConfirmsDeletion trial.history

theorem triesToDelete_of_fails {key : ObjectKey} {object : DeployedObject} {deployment : Deployment}
    (fails : deployment.FailsToDelete key object) : deployment.TriesToDelete key object := by
  obtain ⟨same, trial, member, target, _⟩ := fails
  exact ⟨same, trial, member, target⟩

theorem triesToDelete_of_deletes {key : ObjectKey} {object : DeployedObject}
    {deployment : Deployment} (deletes : deployment.Deletes key object) :
    deployment.TriesToDelete key object := by
  obtain ⟨same, trial, member, target, _⟩ := deletes
  exact ⟨same, trial, member, target⟩

theorem triesToDelete_cases {key : ObjectKey} {object : DeployedObject} {deployment : Deployment}
    (tries : deployment.TriesToDelete key object) :
    deployment.Deletes key object ∨ deployment.FailsToDelete key object := by
  obtain ⟨same, trial, member, target⟩ := tries
  by_cases confirmed : ConfirmsDeletion trial.history
  · exact .inl ⟨same, trial, member, target, confirmed⟩
  · exact .inr ⟨same, trial, member, target, confirmed⟩

end Deployment

namespace Engine

theorem applyItem_some {engine : Engine} {batch : Batch} {item : Deployable} {history : Exchanges}
    {object : DeployedObject}
    (ended : Ends (engine.applyItem batch item).run history (.ok (some object))) :
    object.kind = item.kind ∧ object.name = item.name := by
  unfold applyItem at ended
  rcases ends_run_bind_iff.mp ended with ⟨_, _, failed⟩ | ⟨_, served, _, _, rest, _⟩
  · cases failed
  · split at rest
    · obtain ⟨_, skipped⟩ := ends_run_pure_iff.mp rest
      cases skipped
    · rcases ends_run_bind_iff.mp rest with ⟨_, _, failed⟩ | ⟨_, _, _, _, last, _⟩
      · cases failed
      · obtain ⟨_, brought⟩ := ends_run_pure_iff.mp last
        cases brought
        exact ⟨rfl, rfl⟩

namespace Performs

variable {engine after : Engine} {deployment : Deployment} {object : DeployedObject}

private theorem applied_isWanted (performed : engine.Performs deployment after)
    (applied : object ∈ deployment.applied) :
    object.isWanted deployment.batch.items = true := by
  obtain ⟨trial, member, brought⟩ := List.mem_filterMap.mp applied
  have ended := performed.applications.ended trial member
  rw [Trial.object?_eq_some_iff.mp brought] at ended
  obtain ⟨kind, name⟩ := applyItem_some ended
  refine List.any_eq_true.mpr ⟨trial.target, (performed.mem_items member).1, ?_⟩
  simp [DeployedObject.isMeantBy, kind, name]

/-- Only what was deployed before and is not wanted is deleted. -/
theorem triesToDelete_iff (performed : engine.Performs deployment after) :
    deployment.TriesToDelete deployment.key object ↔
      deployment.batch.dryRun = false ∧ object ∈ engine.deployedFor deployment.key ∧
        object.isWanted deployment.batch.items = false := by
  have listed : deployment.TriesToDelete deployment.key object ↔
      object ∈ engine.stale deployment.batch :=
    Iff.trans (and_iff_right rfl) (performed.deletions.exists_iff_mem object)
  rw [listed]
  cases kind : deployment.batch.dryRun with
  | true => simp [stale_of_dry kind]
  | false => simp [stale_of_real kind, Deployment.key]

theorem deployedFor_of_ne (performed : engine.Performs deployment after) {key : ObjectKey}
    (different : key ≠ deployment.key) : after.deployedFor key = engine.deployedFor key := by
  rw [performed.remembers]
  cases kind : deployment.batch.dryRun with
  | true => rw [remember_of_dry kind]
  | false =>
      rw [remember_of_real kind]
      exact congrArg (fun found : Option (List DeployedObject) => found.getD [])
        (Registry.find?_set_of_ne different _ _)

/-- What is known after a deployment was applied by it, or was known and is still wanted. -/
theorem mem_deployedFor_iff (performed : engine.Performs deployment after)
    (real : deployment.batch.dryRun = false) :
    object ∈ after.deployedFor deployment.key ↔
      object ∈ deployment.applied ∨
        (object ∈ engine.deployedFor deployment.key ∧
          object.isWanted deployment.batch.items = true) := by
  rw [performed.remembers, remember_of_real real]
  change object ∈ (Registry.find? deployment.batch.subscription.key
    (Registry.set deployment.batch.subscription.key _ engine.deployed)).getD [] ↔ _
  rw [Registry.find?_set_self]
  simp only [Option.getD_some, mem_union, List.not_mem_nil, false_or, List.mem_filter]
  rfl

theorem deployedFor_of_dry (performed : engine.Performs deployment after)
    (dry : deployment.batch.dryRun = true) (key : ObjectKey) :
    after.deployedFor key = engine.deployedFor key := by
  rw [performed.remembers, remember_of_dry dry]

theorem keeps (performed : engine.Performs deployment after) {key : ObjectKey}
    (known : object ∈ engine.deployedFor key) (spared : ¬ deployment.TriesToDelete key object) :
    object ∈ after.deployedFor key := by
  by_cases same : key = deployment.key
  · subst same
    cases kind : deployment.batch.dryRun with
    | true =>
        rw [performed.deployedFor_of_dry kind]
        exact known
    | false =>
        rw [performed.mem_deployedFor_iff kind]
        cases wanted : object.isWanted deployment.batch.items with
        | true => exact .inr ⟨known, rfl⟩
        | false => exact absurd (performed.triesToDelete_iff.mpr ⟨kind, known, wanted⟩) spared
  · rw [performed.deployedFor_of_ne same]
    exact known

theorem forgets (performed : engine.Performs deployment after) {key : ObjectKey}
    (tried : deployment.TriesToDelete key object) : object ∉ after.deployedFor key := by
  obtain rfl : deployment.key = key := tried.1
  obtain ⟨real, _, unwanted⟩ := performed.triesToDelete_iff.mp tried
  rw [performed.mem_deployedFor_iff real]
  rintro (applied | ⟨_, wanted⟩)
  · rw [performed.applied_isWanted applied] at unwanted
    cases unwanted
  · rw [wanted] at unwanted
    cases unwanted

theorem stays_unknown (performed : engine.Performs deployment after) {key : ObjectKey}
    (unknown : object ∉ engine.deployedFor key) (unapplied : ¬ deployment.Applies key object) :
    object ∉ after.deployedFor key := by
  by_cases same : key = deployment.key
  · subst same
    cases kind : deployment.batch.dryRun with
    | true =>
        rw [performed.deployedFor_of_dry kind]
        exact unknown
    | false =>
        rw [performed.mem_deployedFor_iff kind]
        rintro (applied | ⟨known, _⟩)
        · exact unapplied ⟨kind, rfl, applied⟩
        · exact unknown known
  · rw [performed.deployedFor_of_ne same]
    exact unknown

end Performs

/-- Deployments one after the other, whatever the cluster answers. -/
inductive Run : Engine → List Deployment → Engine → Prop where
  | nil (engine : Engine) : Run engine [] engine
  | cons {engine next last : Engine} {deployment : Deployment} {rest : List Deployment}
      (ended : Ends (engine.deploy deployment.batch) deployment.history (deployment.errors, next))
      (performed : engine.Performs deployment next) (later : Run next rest last) :
      Run engine (deployment :: rest) last

namespace Run

variable {engine last : Engine} {deployments : List Deployment} {key : ObjectKey}
  {object : DeployedObject}

theorem split {earlier later : List Deployment} (run : Run engine (earlier ++ later) last) :
    ∃ between, Run engine earlier between ∧ Run between later last := by
  induction earlier generalizing engine with
  | nil => exact ⟨engine, .nil engine, run⟩
  | cons deployment rest ih =>
      cases run with
      | cons ended performed later =>
          obtain ⟨between, first, second⟩ := ih later
          exact ⟨between, .cons ended performed first, second⟩

private theorem keeps (run : Run engine deployments last) (known : object ∈ engine.deployedFor key)
    (spared : ∀ deployment ∈ deployments, ¬ deployment.TriesToDelete key object) :
    object ∈ last.deployedFor key := by
  induction run with
  | nil engine => exact known
  | cons ended performed later ih =>
      obtain ⟨first, others⟩ := List.forall_mem_cons.mp spared
      exact ih (performed.keeps known first) others

theorem stays_unknown (run : Run engine deployments last)
    (unknown : object ∉ engine.deployedFor key)
    (unapplied : ∀ deployment ∈ deployments, ¬ deployment.Applies key object) :
    object ∉ last.deployedFor key ∧
      ∀ deployment ∈ deployments, ¬ deployment.TriesToDelete key object := by
  induction run with
  | nil engine => exact ⟨unknown, by simp⟩
  | cons ended performed later ih =>
      obtain ⟨first, others⟩ := List.forall_mem_cons.mp unapplied
      obtain ⟨unknownLast, spared⟩ := ih (performed.stays_unknown unknown first) others
      refine ⟨unknownLast, List.forall_mem_cons.mpr ⟨?_, spared⟩⟩
      intro tried
      obtain rfl := tried.1
      exact unknown (performed.triesToDelete_iff.mp tried).2.1

/-- Once someone set about deleting an object, it is not known until it is applied again. -/
theorem forgets_once_tried {before after : List Deployment} {trying : Deployment}
    (run : Run engine (before ++ trying :: after) last) (tries : trying.TriesToDelete key object)
    (unapplied : ∀ next ∈ after, ¬ next.Applies key object) :
    object ∉ last.deployedFor key ∧ ∀ next ∈ after, ¬ next.TriesToDelete key object := by
  obtain ⟨between, _, rest⟩ := run.split
  cases rest with
  | cons ended performed others => exact others.stays_unknown (performed.forgets tries) unapplied

private theorem forgets_until_applied {later : List Deployment} (run : Run engine later last)
    {before after : List Deployment} {failing : Deployment}
    (shape : later = before ++ failing :: after) (fails : failing.FailsToDelete key object)
    (unapplied : ∀ next ∈ after, ¬ next.Applies key object) :
    object ∉ last.deployedFor key ∧ ∀ next ∈ after, ¬ next.TriesToDelete key object := by
  subst shape
  exact run.forgets_once_tried (Deployment.triesToDelete_of_fails fails) unapplied

private theorem exists_last {deployments : List Deployment} {property : Deployment → Prop}
    (any : ∃ deployment ∈ deployments, property deployment) :
    ∃ before newest after, deployments = before ++ newest :: after ∧ property newest ∧
      ∀ next ∈ after, ¬ property next := by
  induction deployments with
  | nil =>
      obtain ⟨_, member, _⟩ := any
      cases member
  | cons head rest ih =>
      by_cases later : ∃ deployment ∈ rest, property deployment
      · obtain ⟨before, newest, after, rfl, holds, none⟩ := ih later
        exact ⟨head :: before, newest, after, rfl, holds, none⟩
      · have none : ∀ next ∈ rest, ¬ property next := fun next member holds =>
          later ⟨next, member, holds⟩
        obtain ⟨deployment, member, holds⟩ := any
        rcases List.mem_cons.mp member with rfl | inside
        · exact ⟨[], deployment, rest, rfl, holds, none⟩
        · exact absurd holds (none deployment inside)

theorem from_last_application {deployment : Deployment} {later : List Deployment}
    (run : Run engine (deployment :: later) last) (applied : deployment.Applies key object) :
    ∃ start newest front after, Run start (newest :: after) last ∧ later = front ++ after ∧
      newest.Applies key object ∧ ∀ next ∈ after, ¬ next.Applies key object := by
  by_cases again : ∃ next ∈ later, next.Applies key object
  · obtain ⟨before, newest, after, rfl, applies, none⟩ := exists_last again
    rw [← List.cons_append] at run
    obtain ⟨start, _, rest⟩ := run.split
    exact ⟨start, newest, before ++ [newest], after, rest, by simp, applies, none⟩
  · refine ⟨engine, deployment, [], later, run, rfl, applied, ?_⟩
    intro next member applies
    exact again ⟨next, member, applies⟩

end Run

/-- What was applied and was not deleted since is known exactly if it was applied again after every
deletion that failed. Until then no one sets about deleting it a second time. -/
theorem known_iff_applied_after_failures {first last : Engine} {earlier later : List Deployment}
    {deployment : Deployment} {key : ObjectKey} {object : DeployedObject}
    (run : Run first (earlier ++ deployment :: later) last)
    (applied : deployment.Applies key object)
    (present : ∀ next ∈ later, ¬ next.Deletes key object) :
    (object ∈ last.deployedFor key ↔
      ∀ before failing after, later = before ++ failing :: after →
        failing.FailsToDelete key object → ∃ next ∈ after, next.Applies key object) ∧
      ∀ before failing after, later = before ++ failing :: after →
        failing.FailsToDelete key object → (∀ next ∈ after, ¬ next.Applies key object) →
          ∀ next ∈ after, ¬ next.TriesToDelete key object := by
  obtain ⟨start, _, fromApplied⟩ := run.split
  have after_failure {before after : List Deployment} {failing : Deployment}
      (shape : later = before ++ failing :: after) (fails : failing.FailsToDelete key object)
      (unapplied : ∀ next ∈ after, ¬ next.Applies key object) :
      object ∉ last.deployedFor key ∧ ∀ next ∈ after, ¬ next.TriesToDelete key object := by
    cases fromApplied with
    | cons ended performed others => exact others.forgets_until_applied shape fails unapplied
  refine ⟨⟨?_, ?_⟩, ?_⟩
  · intro known before failing after shape fails
    apply Classical.byContradiction
    intro never
    have unapplied : ∀ next ∈ after, ¬ next.Applies key object := fun next member applies =>
      never ⟨next, member, applies⟩
    exact (after_failure shape fails unapplied).1 known
  · intro repaired
    -- From the last application on no deletion fails, so that none is tried.
    obtain ⟨_, newest, front, after, recent, shape, applies, none⟩ :=
      fromApplied.from_last_application applied
    have spared : ∀ next ∈ after, ¬ next.TriesToDelete key object := by
      intro next member tries
      rcases Deployment.triesToDelete_cases tries with deletes | fails
      · rw [shape] at present
        exact present next (List.mem_append_right front member) deletes
      · obtain ⟨middle, back, rfl⟩ := List.append_of_mem member
        rw [← List.append_assoc] at shape
        obtain ⟨again, inside, applies⟩ := repaired (front ++ middle) next back shape fails
        have later := List.mem_append_right middle (List.mem_cons_of_mem next inside)
        exact none again later applies
    cases recent with
    | cons ended performed following =>
        obtain ⟨real, rfl, brought⟩ := applies
        have known := (performed.mem_deployedFor_iff real).mpr (.inl brought)
        exact following.keeps known spared
  · intro before failing after shape fails unapplied
    exact (after_failure shape fails unapplied).2

/-! ### A deletion that fails

A server writes a configuration map and refuses to delete it. The third batch does not want it
either. -/

namespace FailedDeletion

def subscription : Subscription :=
  { metadata := { name := some "web", space := some "apps" }
    spec := ⟨"repo", none, none, none, [], none, none, none, [], []⟩
    status := none }

def settings : Deployable :=
  { kind := ServedKind.configMaps.kind
    object :=
      { declared := some ("v1", "ConfigMap"), metadata := { name := some "settings" }, others := [] } }

def deployedSettings : DeployedObject :=
  ⟨ServedKind.configMaps.kind, some "apps", "settings"⟩

def batch (items : List Deployable) : Batch :=
  { subscription := subscription
    items := items
    allow := []
    deny := []
    clusterAdmin := false
    dryRun := false }

def answer : (request : Request) → request.Reply
  | .kinds _ => []
  | .send .delete _ _ => .error ⟨500, "InternalError", "not now"⟩
  | .send _ _ _ => .ok .null

def holding (objects : List DeployedObject) : Engine :=
  { kinds := [.configMaps], deployed := [(⟨"apps", "web"⟩, objects)] }

def first : Engine := { kinds := [.configMaps] }

def bringing : Deployment := first.answered answer (batch [settings])

def dropping : Deployment := (holding [deployedSettings]).answered answer (batch [])

def ignoring : Deployment := (holding []).answered answer (batch [])

set_option maxRecDepth 4000 in
theorem after_bringing : first.afterAnswered answer (batch [settings]) = holding [deployedSettings] :=
  rfl

set_option maxRecDepth 4000 in
theorem bringing_applies : bringing.Applies ⟨"apps", "web"⟩ deployedSettings := by
  unfold Deployment.Applies
  decide

theorem run : Run first ([] ++ bringing :: [dropping, ignoring]) (holding []) := by
  have brings := performs_answered first answer (batch [settings])
  rw [after_bringing] at brings
  have drops : (holding [deployedSettings]).Performs dropping (holding []) :=
    performs_answered (holding [deployedSettings]) answer (batch [])
  have ignores : (holding []).Performs ignoring (holding []) :=
    performs_answered (holding []) answer (batch [])
  refine .cons (deploy_ends_iff.mpr ⟨bringing, brings, rfl, rfl, rfl⟩) brings ?_
  refine .cons (deploy_ends_iff.mpr ⟨dropping, drops, rfl, rfl, rfl⟩) drops ?_
  exact .cons (deploy_ends_iff.mpr ⟨ignoring, ignores, rfl, rfl, rfl⟩) ignores (.nil _)

theorem deletes_nothing (engine : Engine) (items : List Deployable) (key : ObjectKey)
    (object : DeployedObject) : ¬ (engine.answered answer (batch items)).Deletes key object := by
  rintro ⟨_, trial, member, _, address, body, reply, sent, gone⟩
  obtain ⟨target, _, rfl⟩ := List.mem_map.mp member
  have refused : reply = .error ⟨500, "InternalError", "not now"⟩ := mem_answeredBy sent
  subst refused
  cases gone

theorem never_deletes : ∀ next ∈ [dropping, ignoring],
    ¬ next.Deletes ⟨"apps", "web"⟩ deployedSettings := by
  intro next member
  simp only [List.mem_cons, List.not_mem_nil, or_false] at member
  rcases member with rfl | rfl
  · exact deletes_nothing (holding [deployedSettings]) [] _ _
  · exact deletes_nothing (holding []) [] _ _

private theorem dropping_fails : dropping.FailsToDelete ⟨"apps", "web"⟩ deployedSettings := by
  have drops := performs_answered (holding [deployedSettings]) answer (batch [])
  have wanted : deployedSettings ∈ (holding [deployedSettings]).deployedFor ⟨"apps", "web"⟩ := by
    decide
  have tries : dropping.TriesToDelete ⟨"apps", "web"⟩ deployedSettings :=
    drops.triesToDelete_iff.mpr ⟨rfl, wanted, rfl⟩
  rcases Deployment.triesToDelete_cases tries with deletes | fails
  · exact absurd deletes (deletes_nothing (holding [deployedSettings]) [] _ _)
  · exact fails

/-- The configuration map is still on the cluster, and the last batch does not try to delete it. -/
theorem settings_abandoned :
    Run first ([] ++ bringing :: [dropping, ignoring]) (holding []) ∧
      bringing.Applies ⟨"apps", "web"⟩ deployedSettings ∧
      (∀ next ∈ [dropping, ignoring], ¬ next.Deletes ⟨"apps", "web"⟩ deployedSettings) ∧
      deployedSettings ∉ (holding []).deployedFor ⟨"apps", "web"⟩ ∧
      ¬ ignoring.TriesToDelete ⟨"apps", "web"⟩ deployedSettings := by
  have exactly := known_iff_applied_after_failures run bringing_applies never_deletes
  have unapplied : ∀ next ∈ [ignoring], ¬ next.Applies ⟨"apps", "web"⟩ deployedSettings := by
    intro next member
    rw [List.mem_singleton.mp member]
    unfold Deployment.Applies
    decide
  have tries := exactly.2 [] dropping [ignoring] rfl dropping_fails unapplied
  refine ⟨run, bringing_applies, never_deletes, ?_, tries ignoring (List.mem_singleton.mpr rfl)⟩
  intro known
  obtain ⟨next, member, applies⟩ := exactly.1.mp known [] dropping [ignoring] rfl dropping_fails
  exact unapplied next member applies

/-- Not every object is known that was applied and was not deleted since. -/
theorem not_always_known :
    ¬ ∀ (kinds : List ServedKind) (last : Engine) (earlier later : List Deployment)
      (deployment : Deployment) (key : ObjectKey) (object : DeployedObject),
      Run { kinds := kinds } (earlier ++ deployment :: later) last →
      (∀ next ∈ earlier ++ deployment :: later, next.batch.dryRun = false) →
      deployment.Applies key object →
      (∀ next ∈ later, ¬ next.Deletes key object) → object ∈ last.deployedFor key := by
  intro always
  have real : ∀ next ∈ [] ++ bringing :: [dropping, ignoring], next.batch.dryRun = false := by
    simp [bringing, dropping, ignoring, answered, batch]
  have known := always [.configMaps] (holding []) [] [dropping, ignoring] bringing
    ⟨"apps", "web"⟩ deployedSettings run real bringing_applies never_deletes
  have unknown : deployedSettings ∉ (holding []).deployedFor ⟨"apps", "web"⟩ := by decide
  exact unknown known

end FailedDeletion

end Engine

end GitDelivery.Cluster
