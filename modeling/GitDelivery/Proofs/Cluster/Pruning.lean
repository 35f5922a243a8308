import GitDelivery.Proofs.Cluster.Requests
import Mathlib.Data.List.Nodup

set_option autoImplicit false

/-! Which objects are gone from a cluster after a deployment in which nothing failed. An object is
taken away by the first batch that has nothing of its kind and name; nothing of the kind and name in
another namespace takes its place, and it keeps the object. -/

namespace GitDelivery

open Dialogue Cluster

/-- Does an item stand for an object, in the namespace that the object is in? -/
def Cluster.DeployedObject.isDenotedBy (home : String) (item : Deployable)
    (object : DeployedObject) : Bool :=
  object.isMeantBy item && object.space.all fun space => space = (Text.nonEmpty? item.space).getD home

def Batch.denotes (batch : Batch) (object : DeployedObject) : Bool :=
  batch.items.any fun item => object.isDenotedBy batch.subscription.space item

private theorem Batch.objectOn_isDenotedBy (batch : Batch) (served : ServedKind) (item : Deployable) :
    (batch.objectOn served item).isDenotedBy batch.subscription.space item = true := by
  unfold Batch.objectOn Batch.spaceOn DeployedObject.isDenotedBy DeployedObject.isMeantBy
  cases served.isNamespaced with
  | true => simp
  | false => simp

theorem Exchange.deletionVerdict_ok_iff {reply : Except Refusal Json} :
    Exchange.deletionVerdict (reply.mapError .refused) = .ok () ↔ meansGone reply := by
  cases reply with
  | ok answer => exact iff_of_true rfl trivial
  | error refusal =>
      change (if decide (refusal.code = Refusal.notFound.code) then Except.ok () else .error _) =
        .ok () ↔ refusal.code = Refusal.notFound.code
      by_cases missing : refusal.code = Refusal.notFound.code
      · simp [missing]
      · simp [missing]

namespace Cluster

variable {engine after : Engine} {deployment : Deployment} {object : DeployedObject}
  {key : ObjectKey} {history : Exchanges}

/-- A deletion goes well exactly if the answer to its request says that the object is gone. -/
theorem DeletionCourse.confirms_iff {outcome : Except ClusterError Unit}
    (course : DeletionCourse engine object history outcome) :
    ConfirmsDeletion history ↔ outcome = .ok () := by
  have asking_only {asking : Exchanges} {found : Except ClusterError ServedKind}
      (resolved : Ends (engine.resolve object.kind).run asking found) :
      ¬ ConfirmsDeletion asking := by
    rintro ⟨address, body, reply, sent, _⟩
    exact Engine.resolve_not_sends resolved .delete ⟨address, body, reply, sent⟩
  cases course with
  | unknown resolved => exact iff_of_false (asking_only resolved) (by simp)
  | unreachable resolved nowhere => exact iff_of_false (asking_only resolved) (by simp)
  | @sent asking served resolved reachable reply =>
      have verdict : (Exchange.deletionVerdict (reply.mapError .refused)).mapError
          (ClusterError.failed (.delete object)) = .ok () ↔ meansGone reply := by
        rw [← Exchange.deletionVerdict_ok_iff]
        cases Exchange.deletionVerdict (reply.mapError .refused) with
        | ok value => exact iff_of_true rfl rfl
        | error error => exact iff_of_false (by rintro ⟨⟩) (by rintro ⟨⟩)
      rw [verdict]
      constructor
      · rintro ⟨address, body, given, sent, gone⟩
        rcases List.mem_append.mp sent with early | late
        · exact absurd ⟨address, body, given, early, gone⟩ (asking_only resolved)
        · cases List.mem_singleton.mp late
          exact gone
      · intro gone
        exact ⟨_, _, reply, List.mem_append_right asking (List.mem_singleton.mpr rfl), gone⟩

namespace Deployment

def Drops (key : ObjectKey) (object : DeployedObject) (deployment : Deployment) : Prop :=
  deployment.batch.dryRun = false ∧ deployment.key = key ∧
    object.isWanted deployment.batch.items = false

end Deployment

namespace Engine

def IsDistinct (engine : Engine) : Prop :=
  ∀ key, (engine.deployedFor key).Nodup

private theorem nodup_union {first second : List DeployedObject} (distinct : first.Nodup) :
    (union first second).Nodup := by
  unfold union
  induction second generalizing first with
  | nil => exact distinct
  | cons head rest ih =>
      rw [List.foldl_cons]
      by_cases present : head ∈ first
      · rw [if_pos (by simpa using present)]
        exact ih distinct
      · rw [if_neg (by simpa using present)]
        have added : (first ++ [head]).Nodup := by
          rw [← List.concat_eq_append]
          exact List.Nodup.concat present distinct
        exact ih added

namespace Performs

theorem isDistinct (performed : engine.Performs deployment after) (distinct : engine.IsDistinct) :
    after.IsDistinct := by
  intro key
  by_cases same : key = deployment.key
  · cases kind : deployment.batch.dryRun with
    | true =>
        rw [performed.deployedFor_of_dry kind]
        exact distinct key
    | false =>
        rw [performed.remembers, remember_of_real kind, same]
        change ((Registry.find? deployment.batch.subscription.key
          (Registry.set deployment.batch.subscription.key _ engine.deployed)).getD []).Nodup
        rw [Registry.find?_set_self]
        exact nodup_union (nodup_union List.nodup_nil)
  · rw [performed.deployedFor_of_ne same]
    exact distinct key

theorem applied_denoted (performed : engine.Performs deployment after)
    (applied : object ∈ deployment.applied) : deployment.batch.denotes object = true := by
  obtain ⟨trial, member, brought⟩ := List.mem_filterMap.mp applied
  have course := performed.itemCourse member
  rw [Trial.object?_eq_some_iff.mp brought] at course
  obtain ⟨served, _, _, _, rfl⟩ := course.written
  exact List.any_eq_true.mpr ⟨trial.target, (performed.mem_items member).1,
    deployment.batch.objectOn_isDenotedBy served trial.target⟩

theorem not_fails_of_deletes (performed : engine.Performs deployment after)
    (distinct : engine.IsDistinct) (deletes : deployment.Deletes key object) :
    ¬ deployment.FailsToDelete key object := by
  rintro ⟨_, failing, failed, target, unconfirmed⟩
  obtain ⟨_, trial, member, same, confirmed⟩ := deletes
  have once : (deployment.deletions.map Trial.target).Nodup := by
    rw [performed.deletions.targets]
    unfold stale
    split
    · exact List.nodup_nil
    · exact (distinct deployment.batch.subscription.key).filter _
  obtain rfl : trial = failing :=
    List.inj_on_of_nodup_map once member failed (same.trans target.symm)
  exact unconfirmed confirmed

theorem not_fails_of_clean (performed : engine.Performs deployment after)
    (clean : deployment.errors = []) : ¬ deployment.FailsToDelete key object := by
  rintro ⟨_, trial, member, _, unconfirmed⟩
  have course := performed.deletionCourse member
  rw [course.confirms_iff] at unconfirmed
  have silent : deployment.deletions.filterMap Trial.error? = [] :=
    (List.append_eq_nil_iff.mp clean).2
  have quiet : trial.error? = none := List.filterMap_eq_nil_iff.mp silent trial member
  unfold Trial.error? at quiet
  cases outcome : trial.outcome with
  | ok value => exact unconfirmed outcome
  | error error =>
      rw [outcome] at quiet
      cases quiet

private theorem tries_iff_drops (performed : engine.Performs deployment after)
    (known : object ∈ engine.deployedFor key) :
    deployment.TriesToDelete key object ↔ deployment.Drops key object := by
  constructor
  · intro tries
    obtain rfl := tries.1
    obtain ⟨real, _, unwanted⟩ := performed.triesToDelete_iff.mp tries
    exact ⟨real, rfl, unwanted⟩
  · rintro ⟨real, rfl, unwanted⟩
    exact performed.triesToDelete_iff.mpr ⟨real, known, unwanted⟩

end Performs

namespace Run

variable {last : Engine} {deployments : List Deployment}

private theorem isDistinct (run : Run engine deployments last) (distinct : engine.IsDistinct) :
    last.IsDistinct := by
  induction run with
  | nil engine => exact distinct
  | cons ended performed later ih => exact ih (performed.isDistinct distinct)

private theorem forgets (run : Run engine deployments last)
    (tries : ∃ next ∈ deployments, next.TriesToDelete key object)
    (unapplied : ∀ next ∈ deployments, ¬ next.Applies key object) :
    object ∉ last.deployedFor key := by
  obtain ⟨next, member, tried⟩ := tries
  obtain ⟨before, after, rfl⟩ := List.append_of_mem member
  refine (run.forgets_once_tried tried ?_).1
  intro other inside
  exact unapplied other (List.mem_append_right before (List.mem_cons_of_mem next inside))

/-- An object that is known and not applied again is tried to be deleted once, when it is dropped
first, and that decides whether it is deleted at all. -/
theorem deletes_iff (run : Run engine deployments last) (distinct : engine.IsDistinct)
    (known : object ∈ engine.deployedFor key)
    (unapplied : ∀ next ∈ deployments, ¬ next.Applies key object) :
    (∃ next ∈ deployments, next.Deletes key object) ↔
      (∃ next ∈ deployments, next.Drops key object) ∧
        ∀ next ∈ deployments, ¬ next.FailsToDelete key object := by
  induction run with
  | nil engine => simp
  | @cons engine next last deployment rest ended performed later ih =>
      obtain ⟨headUnapplied, restUnapplied⟩ := List.forall_mem_cons.mp unapplied
      simp only [List.exists_mem_cons_iff, List.forall_mem_cons]
      by_cases drops : deployment.Drops key object
      · -- It is forgotten here, whatever becomes of its deletion, and no one tries again.
        have tries := (performed.tries_iff_drops known).mpr drops
        have spared := (later.stays_unknown (performed.forgets tries) restUnapplied).2
        have deletesNone : ¬ ∃ next ∈ rest, next.Deletes key object := by
          rintro ⟨next, member, deletes⟩
          exact spared next member (Deployment.triesToDelete_of_deletes deletes)
        have failsNone : ∀ next ∈ rest, ¬ next.FailsToDelete key object := by
          intro next member fails
          exact spared next member (Deployment.triesToDelete_of_fails fails)
        constructor
        · rintro (deletes | later)
          · exact ⟨.inl drops, performed.not_fails_of_deletes distinct deletes, failsNone⟩
          · exact absurd later deletesNone
        · rintro ⟨_, succeeds, _⟩
          rcases Deployment.triesToDelete_cases tries with deletes | fails
          · exact .inl deletes
          · exact absurd fails succeeds
      · have spared : ¬ deployment.TriesToDelete key object := fun tries =>
          drops ((performed.tries_iff_drops known).mp tries)
        have keepsOn := ih (performed.isDistinct distinct) (performed.keeps known spared)
          restUnapplied
        constructor
        · rintro (deletes | deletes)
          · exact absurd (Deployment.triesToDelete_of_deletes deletes) spared
          · obtain ⟨dropped, succeed⟩ := keepsOn.mp deletes
            refine ⟨.inr dropped, ?_, succeed⟩
            intro fails
            exact spared (Deployment.triesToDelete_of_fails fails)
        · rintro ⟨dropped | dropped, _, succeed⟩
          · exact absurd dropped drops
          · exact .inr (keepsOn.mpr ⟨dropped, succeed⟩)

end Run

/-- After a deployment in which nothing failed, an object that no item denotes and that was not
applied again is deleted and forgotten exactly if some batch since had nothing of its kind and name
and no deletion of it failed before. -/
theorem pruned_iff {kinds : List ServedKind} {last : Engine} {earlier later : List Deployment}
    {deployment current : Deployment}
    (run : Run { kinds := kinds } (earlier ++ deployment :: (later ++ [current])) last)
    (applied : deployment.Applies key object)
    (unapplied : ∀ next ∈ later, ¬ next.Applies key object)
    (absent : current.batch.denotes object = false) (clean : current.errors = []) :
    ((∃ next ∈ later ++ [current], next.Deletes key object) ∧ object ∉ last.deployedFor key) ↔
      (∃ next ∈ later ++ [current], next.Drops key object) ∧
        ∀ next ∈ later, ¬ next.FailsToDelete key object := by
  obtain ⟨start, first, rest⟩ := run.split
  have distinct : start.IsDistinct := first.isDistinct fun _ => List.nodup_nil
  cases rest with
  | @cons _ brought _ _ _ ended performed others =>
      obtain ⟨_, _, recent⟩ := others.split
      cases recent with
      | cons currentEnded currentPerformed nothing =>
          have unappliedAll : ∀ next ∈ later ++ [current], ¬ next.Applies key object := by
            intro next member
            rcases List.mem_append.mp member with before | now
            · exact unapplied next before
            · obtain rfl := List.mem_singleton.mp now
              rintro ⟨_, _, now⟩
              rw [currentPerformed.applied_denoted now] at absent
              cases absent
          have known : object ∈ brought.deployedFor key := by
            obtain ⟨real, rfl, first⟩ := applied
            exact (performed.mem_deployedFor_iff real).mpr (.inl first)
          have decides := others.deletes_iff (performed.isDistinct distinct) known unappliedAll
          -- The last batch cannot have failed to delete it, for then it would have reported that.
          have quiet : ¬ current.FailsToDelete key object := currentPerformed.not_fails_of_clean clean
          constructor
          · rintro ⟨deleted, _⟩
            obtain ⟨dropped, succeed⟩ := decides.mp deleted
            exact ⟨dropped, fun next member => succeed next (List.mem_append_left _ member)⟩
          · rintro ⟨dropped, succeed⟩
            have all : ∀ next ∈ later ++ [current], ¬ next.FailsToDelete key object := by
              intro next member
              rcases List.mem_append.mp member with before | now
              · exact succeed next before
              · rw [List.mem_singleton.mp now]
                exact quiet
            have deleted := decides.mpr ⟨dropped, all⟩
            refine ⟨deleted, others.forgets ?_ unappliedAll⟩
            obtain ⟨next, member, deletes⟩ := deleted
            exact ⟨next, member, Deployment.triesToDelete_of_deletes deletes⟩

/-! ### A configuration map that moves

It is written in one namespace and then in another. The batch after that has nothing. -/

namespace MovedSettings

open FailedDeletion (first)

def settings (space : String) : Deployable :=
  { kind := ServedKind.configMaps.kind
    object :=
      { declared := some ("v1", "ConfigMap")
        metadata := { name := some "settings", space := some space }
        others := [] } }

def deployedSettings (space : String) : DeployedObject :=
  ⟨ServedKind.configMaps.kind, some space, "settings"⟩

def answer : (request : Request) → request.Reply
  | .kinds _ => []
  | .send _ _ _ => .ok .null

def batch (items : List Deployable) : Batch :=
  { FailedDeletion.batch items with clusterAdmin := true }

def holding (spaces : List String) : Engine :=
  FailedDeletion.holding (spaces.map deployedSettings)

def bringing : Deployment := first.answered answer (batch [settings "blue"])

def moving : Deployment := (holding ["blue"]).answered answer (batch [settings "green"])

def clearing : Deployment := (holding ["green", "blue"]).answered answer (batch [])

set_option maxRecDepth 4000 in
theorem brings : first.Performs bringing (holding ["blue"]) :=
  performs_answered first answer (batch [settings "blue"])

set_option maxRecDepth 4000 in
theorem moves : (holding ["blue"]).Performs moving (holding ["green", "blue"]) :=
  performs_answered (holding ["blue"]) answer (batch [settings "green"])

private theorem clears : (holding ["green", "blue"]).Performs clearing (holding []) :=
  performs_answered (holding ["green", "blue"]) answer (batch [])

private theorem moved : Run first ([] ++ bringing :: [moving]) (holding ["green", "blue"]) := by
  refine .cons (deploy_ends_iff.mpr ⟨bringing, brings, rfl, rfl, rfl⟩) brings ?_
  exact .cons (deploy_ends_iff.mpr ⟨moving, moves, rfl, rfl, rfl⟩) moves (.nil _)

private theorem cleared : Run first ([] ++ bringing :: ([moving] ++ [clearing])) (holding []) := by
  refine .cons (deploy_ends_iff.mpr ⟨bringing, brings, rfl, rfl, rfl⟩) brings ?_
  refine .cons (deploy_ends_iff.mpr ⟨moving, moves, rfl, rfl, rfl⟩) moves ?_
  exact .cons (deploy_ends_iff.mpr ⟨clearing, clears, rfl, rfl, rfl⟩) clears (.nil _)

theorem bringing_applies : bringing.Applies ⟨"apps", "web"⟩ (deployedSettings "blue") := by
  apply Classical.byContradiction
  intro unapplied
  have known : deployedSettings "blue" ∈ (holding ["blue"]).deployedFor ⟨"apps", "web"⟩ := by
    decide
  exact brings.stays_unknown List.not_mem_nil unapplied known

theorem moving_lacks : moving.batch.denotes (deployedSettings "blue") = false := by
  decide

private theorem moving_spares (key : ObjectKey) :
    ¬ moving.FailsToDelete key (deployedSettings "blue") := by
  intro fails
  have tries := Deployment.triesToDelete_of_fails fails
  obtain rfl := tries.1
  have wanted : (deployedSettings "blue").isWanted moving.batch.items = true := by decide
  rw [(moves.triesToDelete_iff.mp tries).2.2] at wanted
  cases wanted

/-- The object in the first namespace goes with the batch that has none in any namespace. -/
theorem blue_settings_pruned_late :
    Run first ([] ++ bringing :: ([moving] ++ [clearing])) (holding []) ∧
      bringing.Applies ⟨"apps", "web"⟩ (deployedSettings "blue") ∧
      clearing.batch.denotes (deployedSettings "blue") = false ∧ clearing.errors = [] ∧
      (∃ next ∈ [moving] ++ [clearing], next.Deletes ⟨"apps", "web"⟩ (deployedSettings "blue")) ∧
      deployedSettings "blue" ∉ (holding []).deployedFor ⟨"apps", "web"⟩ := by
  have absent : clearing.batch.denotes (deployedSettings "blue") = false := rfl
  have clean : clearing.errors = [] := by decide +kernel
  have unapplied : ∀ next ∈ [moving], ¬ next.Applies ⟨"apps", "web"⟩ (deployedSettings "blue") := by
    intro next member
    obtain rfl := List.mem_singleton.mp member
    rintro ⟨_, _, brought⟩
    have lacks := moving_lacks
    rw [moves.applied_denoted brought] at lacks
    cases lacks
  have exactly := pruned_iff cleared bringing_applies unapplied absent clean
  have drops : clearing.Drops ⟨"apps", "web"⟩ (deployedSettings "blue") := ⟨rfl, rfl, rfl⟩
  have spares : ∀ next ∈ [moving],
      ¬ next.FailsToDelete ⟨"apps", "web"⟩ (deployedSettings "blue") := by
    intro next member
    obtain rfl := List.mem_singleton.mp member
    exact moving_spares _
  have last : clearing ∈ [moving] ++ [clearing] := by simp
  exact ⟨cleared, bringing_applies, absent, clean, exactly.mpr ⟨⟨clearing, last, drops⟩, spares⟩⟩

/-- When the configuration map has moved, it is still there in the first namespace. -/
theorem not_always_pruned :
    ¬ ∀ (kinds : List ServedKind) (last : Engine) (earlier later : List Deployment)
      (deployment current : Deployment) (key : ObjectKey) (object : DeployedObject),
      Run { kinds := kinds } (earlier ++ deployment :: (later ++ [current])) last →
      (∀ next ∈ earlier ++ deployment :: (later ++ [current]), next.batch.dryRun = false) →
      deployment.Applies key object → current.key = key → current.errors = [] →
      current.batch.denotes object = false →
      (∃ next ∈ later ++ [current], next.Deletes key object) ∧
        object ∉ last.deployedFor key := by
  intro always
  have real : ∀ next ∈ [] ++ bringing :: ([] ++ [moving]), next.batch.dryRun = false := by
    simp [bringing, moving, answered, batch, FailedDeletion.batch]
  have clean : moving.errors = [] := by decide +kernel
  have pruned := always [.configMaps] (holding ["green", "blue"]) [] [] bringing moving
    ⟨"apps", "web"⟩ (deployedSettings "blue") moved real bringing_applies rfl clean moving_lacks
  have known : deployedSettings "blue" ∈
      (holding ["green", "blue"]).deployedFor ⟨"apps", "web"⟩ := by decide
  exact pruned.2 known

end MovedSettings

end Engine

end Cluster

end GitDelivery
