import GitDelivery.Cluster.Engine
import GitDelivery.Proofs.Dialogue

set_option autoImplicit false

/-! What one deployment does: what became of every item that is brought onto the cluster and of every
object that is deleted, and what the engine remembers afterwards. -/

namespace GitDelivery.Cluster

open Dialogue

abbrev Exchanges := History Request.Reply

/-- One of several things that are tried one after the other. -/
structure Trial (α β : Type) where
  target : α
  history : Exchanges
  outcome : Except ClusterError β

variable {α β : Type}

structure AreTrials (work : α → ExceptT ClusterError Exchange β) (targets : List α)
    (trials : List (Trial α β)) : Prop where
  targets : trials.map Trial.target = targets
  ended : ∀ trial ∈ trials, Ends (work trial.target).run trial.history trial.outcome

namespace Trial

def historyOf (trials : List (Trial α β)) : Exchanges :=
  trials.flatMap Trial.history

def error? (trial : Trial α β) : Option ClusterError :=
  match trial.outcome with
  | .ok _ => none
  | .error error => some error

def object? (trial : Trial Deployable (Option DeployedObject)) : Option DeployedObject :=
  match trial.outcome with
  | .ok object => object
  | .error _ => none

theorem object?_eq_some_iff {trial : Trial Deployable (Option DeployedObject)}
    {object : DeployedObject} :
    trial.object? = some object ↔ trial.outcome = .ok (some object) := by
  unfold object?
  cases trial.outcome with
  | ok brought => simp
  | error error => simp

end Trial

open Trial (historyOf)

namespace AreTrials

variable {work : α → ExceptT ClusterError Exchange β}

theorem nil_iff {trials : List (Trial α β)} : AreTrials work [] trials ↔ trials = [] := by
  constructor
  · intro all
    exact List.map_eq_nil_iff.mp all.targets
  · rintro rfl
    exact ⟨rfl, by simp⟩

theorem cons_iff {target : α} {rest : List α} {trials : List (Trial α β)} :
    AreTrials work (target :: rest) trials ↔
      ∃ history outcome others, Ends (work target).run history outcome ∧
        AreTrials work rest others ∧ trials = ⟨target, history, outcome⟩ :: others := by
  constructor
  · rintro ⟨targets, ended⟩
    obtain ⟨trial, others, rfl, rfl, rfl⟩ := List.map_eq_cons_iff.mp targets
    refine ⟨trial.history, trial.outcome, others, ended trial List.mem_cons_self, ⟨rfl, ?_⟩, rfl⟩
    intro other member
    exact ended other (List.mem_cons_of_mem trial member)
  · rintro ⟨history, outcome, others, first, ⟨rfl, ended⟩, rfl⟩
    refine ⟨rfl, ?_⟩
    intro trial member
    rcases List.mem_cons.mp member with rfl | later
    · exact first
    · exact ended trial later

theorem exists_iff_mem {targets : List α} {trials : List (Trial α β)}
    (all : AreTrials work targets trials) (target : α) :
    (∃ trial ∈ trials, trial.target = target) ↔ target ∈ targets := by
  rw [← all.targets, List.mem_map]

end AreTrials

def Trial.answered (work : α → ExceptT ClusterError Exchange β)
    (answer : (request : Request) → request.Reply) (target : α) : Trial α β :=
  let ended := (work target).run.answeredBy answer
  ⟨target, ended.1, ended.2⟩

private theorem AreTrials.answered (work : α → ExceptT ClusterError Exchange β)
    (answer : (request : Request) → request.Reply) (targets : List α) :
    AreTrials work targets (targets.map (Trial.answered work answer)) := by
  constructor
  · rw [List.map_map]
    exact List.map_id targets
  · intro trial member
    obtain ⟨target, _, rfl⟩ := List.mem_map.mp member
    exact ends_answeredBy answer (work target).run

namespace Engine

def admitted (batch : Batch) (items : List Deployable) : List Deployable :=
  items.filter fun item => item.kind.isAllowed batch.allow batch.deny

theorem applyAll_ends_iff {engine : Engine} {batch : Batch} {items : List Deployable}
    {history : Exchanges} {result : List DeployedObject × List ClusterError} :
    Ends (engine.applyAll batch items) history result ↔
      ∃ trials, AreTrials (engine.applyItem batch) (admitted batch items) trials ∧
        history = historyOf trials ∧
        result = (trials.filterMap Trial.object?, trials.filterMap Trial.error?) := by
  induction items generalizing history result with
  | nil =>
      simp only [applyAll, ends_pure_iff, admitted, List.filter_nil, AreTrials.nil_iff,
        exists_eq_left]
      rfl
  | cons item rest ih =>
      by_cases allowed : item.kind.isAllowed batch.allow batch.deny
      · have admits : admitted batch (item :: rest) = item :: admitted batch rest := by
          simp [admitted, allowed]
        simp only [applyAll, allowed, if_true, admits, ends_bind_iff, ih, AreTrials.cons_iff]
        constructor
        · rintro ⟨before, outcome, _, first, ⟨_, _, _, ⟨others, all, rfl, rfl⟩, last, rfl⟩, rfl⟩
          refine ⟨_, ⟨before, outcome, others, first, all, rfl⟩, ?_⟩
          cases outcome with
          | ok object =>
              obtain ⟨rfl, rfl⟩ := ends_pure_iff.mp last
              exact ⟨by simp [historyOf], by cases object <;> rfl⟩
          | error error =>
              obtain ⟨rfl, rfl⟩ := ends_pure_iff.mp last
              exact ⟨by simp [historyOf], rfl⟩
        · rintro ⟨_, ⟨before, outcome, others, first, all, rfl⟩, rfl, rfl⟩
          refine ⟨before, outcome, historyOf others, first,
            ⟨historyOf others, _, [], ⟨others, all, rfl, rfl⟩, ?_, by simp⟩, rfl⟩
          cases outcome with
          | ok object => exact ends_pure_iff.mpr ⟨rfl, by cases object <;> rfl⟩
          | error error => exact ends_pure_iff.mpr ⟨rfl, rfl⟩
      · have admits : admitted batch (item :: rest) = admitted batch rest := by
          simp [admitted, allowed]
        simp only [applyAll, allowed, admits]
        exact ih

theorem deleteAll_ends_iff {engine : Engine} {objects : List DeployedObject} {history : Exchanges}
    {errors : List ClusterError} :
    Ends (engine.deleteAll objects) history errors ↔
      ∃ trials, AreTrials engine.deleteObject objects trials ∧
        history = historyOf trials ∧ errors = trials.filterMap Trial.error? := by
  induction objects generalizing history errors with
  | nil =>
      simp only [deleteAll, ends_pure_iff, AreTrials.nil_iff, exists_eq_left]
      rfl
  | cons object rest ih =>
      simp only [deleteAll, ends_bind_iff, ih, AreTrials.cons_iff]
      constructor
      · rintro ⟨before, outcome, _, first, ⟨_, _, _, ⟨others, all, rfl, rfl⟩, last, rfl⟩, rfl⟩
        refine ⟨_, ⟨before, outcome, others, first, all, rfl⟩, ?_⟩
        cases outcome with
        | ok value =>
            obtain ⟨rfl, rfl⟩ := ends_pure_iff.mp last
            exact ⟨by simp [historyOf], rfl⟩
        | error error =>
            obtain ⟨rfl, rfl⟩ := ends_pure_iff.mp last
            exact ⟨by simp [historyOf], rfl⟩
      · rintro ⟨_, ⟨before, outcome, others, first, all, rfl⟩, rfl, rfl⟩
        refine ⟨before, outcome, historyOf others, first,
          ⟨historyOf others, _, [], ⟨others, all, rfl, rfl⟩, ?_, by simp⟩, rfl⟩
        cases outcome with
        | ok value => exact ends_pure_iff.mpr ⟨rfl, rfl⟩
        | error error => exact ends_pure_iff.mpr ⟨rfl, rfl⟩

theorem mem_union {first second : List DeployedObject} {object : DeployedObject} :
    object ∈ union first second ↔ object ∈ first ∨ object ∈ second := by
  unfold union
  induction second generalizing first with
  | nil => simp
  | cons head rest ih =>
      rw [List.foldl_cons, ih]
      by_cases present : head ∈ first
      · rw [if_pos (by simpa using present)]
        constructor
        · rintro (old | new)
          · exact .inl old
          · exact .inr (List.mem_cons_of_mem head new)
        · rintro (old | new)
          · exact .inl old
          · rcases List.mem_cons.mp new with rfl | later
            · exact .inl present
            · exact .inr later
      · rw [if_neg (by simpa using present), List.mem_append, List.mem_singleton, List.mem_cons,
          or_assoc]

end Engine

/-- A deployment with all that was tried. -/
structure Deployment where
  batch : Batch
  applications : List (Trial Deployable (Option DeployedObject))
  deletions : List (Trial DeployedObject Unit)

namespace Deployment

def key (deployment : Deployment) : ObjectKey :=
  deployment.batch.subscription.key

def history (deployment : Deployment) : Exchanges :=
  historyOf deployment.applications ++ historyOf deployment.deletions

def errors (deployment : Deployment) : List ClusterError :=
  deployment.applications.filterMap Trial.error? ++ deployment.deletions.filterMap Trial.error?

def applied (deployment : Deployment) : List DeployedObject :=
  deployment.applications.filterMap Trial.object?

end Deployment

namespace Engine

/-- What was deployed for a batch's subscription before and is not wanted any more. A dry run does not
look for it. -/
def stale (engine : Engine) (batch : Batch) : List DeployedObject :=
  if batch.dryRun then []
  else (engine.deployedFor batch.subscription.key).filter fun object => !object.isWanted batch.items

def remember (engine : Engine) (batch : Batch) (applied : List DeployedObject) : Engine :=
  if batch.dryRun then engine
  else
    let key := batch.subscription.key
    let kept := (engine.deployedFor key).filter (·.isWanted batch.items)
    { engine with deployed := Registry.set key (union (union [] applied) kept) engine.deployed }

section

variable {engine : Engine} {batch : Batch}

theorem stale_of_dry (dry : batch.dryRun = true) : engine.stale batch = [] := by
  simp [stale, dry]

theorem stale_of_real (real : batch.dryRun = false) :
    engine.stale batch = (engine.deployedFor batch.subscription.key).filter fun object =>
      !object.isWanted batch.items := by
  simp [stale, real]

theorem remember_of_dry (dry : batch.dryRun = true) (applied : List DeployedObject) :
    engine.remember batch applied = engine := by
  simp [remember, dry]

theorem remember_of_real (real : batch.dryRun = false) (applied : List DeployedObject) :
    engine.remember batch applied =
      { engine with
        deployed := Registry.set batch.subscription.key
          (union (union [] applied)
            ((engine.deployedFor batch.subscription.key).filter (·.isWanted batch.items)))
          engine.deployed } := by
  simp [remember, real]

end

structure Performs (engine : Engine) (deployment : Deployment) (after : Engine) : Prop where
  applications : AreTrials (engine.applyItem deployment.batch)
    (admitted deployment.batch deployment.batch.items) deployment.applications
  deletions : AreTrials engine.deleteObject (engine.stale deployment.batch) deployment.deletions
  remembers : after = engine.remember deployment.batch deployment.applied

theorem Performs.mem_items {engine after : Engine} {deployment : Deployment}
    (performed : engine.Performs deployment after)
    {trial : Trial Deployable (Option DeployedObject)} (member : trial ∈ deployment.applications) :
    trial.target ∈ deployment.batch.items ∧
      trial.target.kind.isAllowed deployment.batch.allow deployment.batch.deny = true := by
  have admits : trial.target ∈ admitted deployment.batch deployment.batch.items :=
    (performed.applications.exists_iff_mem trial.target).mp ⟨trial, member, rfl⟩
  exact List.mem_filter.mp admits

theorem deploy_ends_iff {engine after : Engine} {batch : Batch} {history : Exchanges}
    {errors : List ClusterError} :
    Ends (engine.deploy batch) history (errors, after) ↔
      ∃ deployment, engine.Performs deployment after ∧ deployment.batch = batch ∧
        history = deployment.history ∧ errors = deployment.errors := by
  simp only [deploy, ends_bind_iff, applyAll_ends_iff]
  cases kind : batch.dryRun with
  | true =>
      simp only [if_true, ends_pure_iff]
      constructor
      · rintro ⟨_, _, _, ⟨trials, all, rfl, rfl⟩, ⟨rfl, same⟩, rfl⟩
        cases same
        refine ⟨⟨batch, trials, []⟩, ⟨all, ?_, (remember_of_dry kind _).symm⟩, rfl, rfl, ?_⟩
        · rw [stale_of_dry kind]
          exact AreTrials.nil_iff.mpr rfl
        · simp [Deployment.errors]
      · rintro ⟨deployment, ⟨all, deleted, rfl⟩, rfl, rfl, rfl⟩
        rw [stale_of_dry kind, AreTrials.nil_iff] at deleted
        refine ⟨historyOf deployment.applications, _, [], ⟨_, all, rfl, rfl⟩, ⟨rfl, ?_⟩, ?_⟩
        · simp [Deployment.errors, deleted, remember_of_dry kind]
        · simp [Deployment.history, deleted, historyOf]
  | false =>
      simp only [Bool.false_eq_true, if_false, List.partition_eq_filter_filter, ends_bind_iff,
        deleteAll_ends_iff, ends_pure_iff]
      constructor
      · rintro ⟨_, _, _, ⟨trials, all, rfl, rfl⟩, ⟨_, _, _, ⟨deletions, deleted, rfl, rfl⟩,
          ⟨rfl, same⟩, rfl⟩, rfl⟩
        cases same
        refine ⟨⟨batch, trials, deletions⟩, ⟨all, ?_, (remember_of_real kind _).symm⟩, rfl, ?_, rfl⟩
        · rw [stale_of_real kind]
          exact deleted
        · simp [Deployment.history]
      · rintro ⟨deployment, ⟨all, deleted, rfl⟩, rfl, rfl, rfl⟩
        rw [stale_of_real kind] at deleted
        refine ⟨historyOf deployment.applications, _, historyOf deployment.deletions,
          ⟨_, all, rfl, rfl⟩,
          ⟨historyOf deployment.deletions, _, [], ⟨_, deleted, rfl, rfl⟩, ⟨rfl, ?_⟩, by simp⟩, rfl⟩
        rw [remember_of_real kind]
        rfl

/-! ### Deployments whose requests are answered by a function -/

def answered (engine : Engine) (answer : (request : Request) → request.Reply) (batch : Batch) :
    Deployment :=
  { batch := batch
    applications := (admitted batch batch.items).map
      (Trial.answered (engine.applyItem batch) answer)
    deletions := (engine.stale batch).map (Trial.answered engine.deleteObject answer) }

def afterAnswered (engine : Engine) (answer : (request : Request) → request.Reply)
    (batch : Batch) : Engine :=
  engine.remember batch (engine.answered answer batch).applied

theorem performs_answered (engine : Engine) (answer : (request : Request) → request.Reply)
    (batch : Batch) :
    engine.Performs (engine.answered answer batch) (engine.afterAnswered answer batch) := by
  constructor
  · exact AreTrials.answered (engine.applyItem batch) answer (admitted batch batch.items)
  · exact AreTrials.answered engine.deleteObject answer (engine.stale batch)
  · rfl

end Engine

end GitDelivery.Cluster
