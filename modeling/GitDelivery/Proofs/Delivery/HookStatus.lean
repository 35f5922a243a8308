import GitDelivery.Proofs.Delivery.Status
import Mathlib.Data.List.Forall2

set_option autoImplicit false

/-! Telling what the hooks did until the stored status says it. A patch leaves out what is empty, so
that a status keeps what it said about a side of which there is nothing to tell any more. -/

namespace GitDelivery

open Dialogue Work Cluster

section

variable {subscription : Subscription} {before after : Controller} {log : Log} {view : HookStatus}
  {result : Except ReconcileError Unit}

/-- What there is to tell is written unless it is stored already. -/
theorem Pass.runs_writeHookStatus_iff
    (viewed : HookRecords.hookStatus? subscription.key before.hooks = some view) :
    Runs (writeHookStatus subscription) before log result after ↔ after = before ∧
      if some view = subscription.status.bind SubscriptionStatus.hooks then
        log = [] ∧ result = .ok ()
      else ∃ reply : Except String Unit,
        log = [⟨.writeStatus subscription.key { hooks := some view }, reply⟩] ∧
        result = reply.mapError .hookStatus := by
  refine Iff.trans runs_get_bind_iff ?_
  have extended : (HookRecords.extendStatus subscription before.hooks).hooks = some view := by
    unfold HookRecords.extendStatus
    rw [viewed]
  dsimp only
  rw [extended]
  by_cases stored : some view = subscription.status.bind SubscriptionStatus.hooks
  · rw [if_pos stored, if_neg (by simp [stored])]
    refine Iff.trans runs_pure_iff ?_
    constructor
    · rintro ⟨silent, well, same⟩
      exact ⟨same, silent, well⟩
    · rintro ⟨same, silent, well⟩
      exact ⟨silent, well, same⟩
  · rw [if_neg stored, if_pos (by simp [stored])]
    refine Iff.trans runs_ask_iff ?_
    constructor
    · rintro ⟨same, reply, asked, meaning⟩
      exact ⟨same, reply, ends_ask_iff.mp asked, meaning⟩
    · rintro ⟨same, reply, asked, meaning⟩
      exact ⟨same, reply, ends_ask_iff.mpr asked, meaning⟩

/-- The patches that were sent, and accepted, for the statuses that were written. -/
def Told (log : Log) (bodies : List Json) : Prop :=
  List.Forall₂ (fun write body => ∃ history outcome address answer,
    Ends (Store.writeStatus write.1 write.2).run history outcome ∧
      ⟨.send .patch address (some body), .ok answer⟩ ∈ history) (statusWrites log) bodies

private theorem Told.patches {bodies : List Json} (told : Told log bodies) :
    bodies = (statusWrites log).map fun write => write.2.patch := by
  unfold Told at told
  generalize statusWrites log = writes at told ⊢
  induction told with
  | nil => rfl
  | @cons write body writes bodies sent later ih =>
      obtain ⟨history, outcome, address, answer, ended, member⟩ := sent
      have same : body = write.2.patch := by
        rcases Store.writeStatus_sends ended with rfl | ⟨reply, rfl⟩
        · cases member
        · cases List.mem_singleton.mp member
          rfl
      rw [List.map_cons, same, ih]

/-- After the hooks were told and the patch was merged, the status that is read again says what there
is to tell, over what was stored. That is what there is to tell, and nothing is written the next time,
exactly if nothing else was stored about a side that there is nothing to tell about. -/
theorem hook_status_settles_iff {fields : Table Json} {bodies : List Json}
    (decoded : Subscription.decode (.object fields) = .ok subscription)
    (viewed : HookRecords.hookStatus? subscription.key before.hooks = some view)
    (runs : Pass.Runs (Pass.writeHookStatus subscription) before log (.ok ()) after)
    (told : Told log bodies) :
    ∃ kept again,
      HookStatus.decode (.object (Subscription.hookFields fields)) = .ok kept ∧
      Subscription.decode (patchedBy bodies (.object fields)) = .ok again ∧
      again.metadata = subscription.metadata ∧ again.spec = subscription.spec ∧
      again.status.bind SubscriptionStatus.hooks = some (view.laidOver kept) ∧
      (again.status.bind SubscriptionStatus.hooks = some view ↔ view.Covers kept) ∧
      ∀ later log result after, later.hooks = before.hooks →
        Pass.Runs (Pass.writeHookStatus again) later log result after →
        (log = [] ↔ view.Covers kept) := by
  obtain ⟨kept, read, was, status, _, merged⟩ :=
    Subscription.decode_mergePatch view decoded
  obtain ⟨again, reread, metadata, spec, hooks⟩ : ∃ again : Subscription,
      Subscription.decode (patchedBy bodies (.object fields)) = .ok again ∧
      again.metadata = subscription.metadata ∧ again.spec = subscription.spec ∧
      again.status.bind SubscriptionStatus.hooks = some (view.laidOver kept) := by
    obtain ⟨_, written⟩ := (Pass.runs_writeHookStatus_iff viewed).mp runs
    rw [told.patches]
    by_cases stored : some view = subscription.status.bind SubscriptionStatus.hooks
    · rw [if_pos stored] at written
      rw [written.1]
      refine ⟨subscription, decoded, rfl, rfl, ?_⟩
      rw [← stored]
      rcases was with same | rfl
      · cases stored.trans same
        rw [HookStatus.laidOver_self]
      · rw [HookStatus.laidOver_empty]
    · rw [if_neg stored] at written
      obtain ⟨reply, rfl, _⟩ := written
      exact ⟨_, merged, rfl, rfl, rfl⟩
  have settled : some (view.laidOver kept) = some view ↔ view.Covers kept := by
    rw [Option.some_inj, HookStatus.laidOver_eq_iff]
  refine ⟨kept, again, read, reread, metadata, spec, hooks, ?_, ?_⟩
  · rw [hooks]
    exact settled
  · intro later log result after unchanged runsAgain
    have same : again.key = subscription.key := by
      unfold Subscription.key
      rw [metadata]
    rw [← same, ← unchanged] at viewed
    obtain ⟨_, written⟩ := (Pass.runs_writeHookStatus_iff viewed).mp runsAgain
    rw [hooks] at written
    by_cases told : some view = some (view.laidOver kept)
    · rw [if_pos told] at written
      exact iff_of_true written.1 (settled.mp told.symm)
    · rw [if_neg told] at written
      obtain ⟨reply, rfl, _⟩ := written
      exact iff_of_false (List.cons_ne_nil _ _) fun covers => told (settled.mpr covers).symm

end

/-! ### Statuses from before a restart

There is a job after deployments, and none before them. -/

namespace RestartedController

open Atomic.JobAfterDeployment (submitted)

def key : ObjectKey := ⟨"apps", "web"⟩

def before : Controller := ⟨[], [(key, submitted)], []⟩

def view : HookStatus := submitted.status

def fieldsWith (hooks : HookStatus) : Table Json :=
  [("metadata", .object [("name", .text "web"), ("namespace", .text "apps")]),
    ("spec", .object [("channel", .text "repo")]),
    ("status", SubscriptionStatus.toJson { hooks := some hooks })]

def subscriptionWith (hooks : HookStatus) : Subscription :=
  { metadata := { name := some "web", space := some "apps" }
    spec := ⟨"repo", none, none, none, [], none, none, none, [], []⟩
    status := some { hooks := some hooks } }

def earlierPost : HookStatus := ⟨"", [], "apps/report-1", ["apps/report-1"]⟩

def earlierPre : HookStatus := ⟨"apps/warn-1", ["apps/warn-1"], "", []⟩

private theorem decoded_post :
    Subscription.decode (.object (fieldsWith earlierPost)) = .ok (subscriptionWith earlierPost) := by
  rfl

private theorem decoded_pre :
    Subscription.decode (.object (fieldsWith earlierPre)) = .ok (subscriptionWith earlierPre) := by
  rfl

theorem viewed (hooks : HookStatus) :
    HookRecords.hookStatus? (subscriptionWith hooks).key before.hooks = some view := by
  rfl

def log : Log := [⟨.writeStatus key { hooks := some view }, .ok ()⟩]

theorem runs {hooks : HookStatus} (news : view ≠ hooks) :
    Pass.Runs (Pass.writeHookStatus (subscriptionWith hooks)) before log (.ok ()) before := by
  rw [Pass.runs_writeHookStatus_iff (viewed hooks)]
  refine ⟨rfl, ?_⟩
  have other : some view ≠ (subscriptionWith hooks).status.bind SubscriptionStatus.hooks :=
    fun same => news (Option.some.inj same)
  rw [if_neg other]
  exact ⟨.ok (), rfl, rfl⟩

theorem told : Told log [SubscriptionStatus.patch { hooks := some view }] := by
  obtain ⟨outcome, ended⟩ := Store.exists_writeStatus key { hooks := some view }
    (by decide +kernel) (.ok .null)
  exact .cons ⟨_, outcome, _, _, ended, List.mem_singleton_self _⟩ .nil

/-- What was told of jobs after deployments is replaced, and nothing is written again. -/
theorem post_hooks_told :
    Subscription.decode (.object (fieldsWith earlierPost)) = .ok (subscriptionWith earlierPost) ∧
      Told log [SubscriptionStatus.patch { hooks := some view }] ∧
      ∃ again,
        Subscription.decode (patchedBy [SubscriptionStatus.patch { hooks := some view }]
          (.object (fieldsWith earlierPost))) = .ok again ∧
        again.status.bind SubscriptionStatus.hooks = some view ∧
        ∀ later log result after, later.hooks = before.hooks →
          Pass.Runs (Pass.writeHookStatus again) later log result after → log = [] := by
  have news : view ≠ earlierPost := by decide +kernel
  refine ⟨decoded_post, told, ?_⟩
  obtain ⟨kept, again, read, reread, _, _, _, settled, silent⟩ :=
    hook_status_settles_iff decoded_post (viewed earlierPost) (runs news) told
  have covers : view.Covers kept := by
    have known : HookStatus.decode (.object (Subscription.hookFields (fieldsWith earlierPost))) =
        .ok earlierPost := rfl
    cases read.symm.trans known
    refine ⟨fun _ => rfl, fun _ => rfl, ?_, ?_⟩
    · intro silent
      exact absurd silent (by decide +kernel)
    · intro silent
      exact absurd silent (by decide +kernel)
  exact ⟨again, reread, settled.mpr covers, fun later log result after unchanged runs =>
    (silent later log result after unchanged runs).mpr covers⟩

/-- What was told of jobs before deployments stays. -/
theorem not_always_settled :
    ¬ ∀ (fields : Table Json) (subscription again : Subscription) (view : HookStatus)
      (before after : Controller) (log : Log) (bodies : List Json),
      Subscription.decode (.object fields) = .ok subscription →
      HookRecords.hookStatus? subscription.key before.hooks = some view →
      Pass.Runs (Pass.writeHookStatus subscription) before log (.ok ()) after →
      Told log bodies →
      Subscription.decode (patchedBy bodies (.object fields)) = .ok again →
      again.status.bind SubscriptionStatus.hooks = some view := by
  intro all
  have news : view ≠ earlierPre := by decide +kernel
  obtain ⟨kept, read, _, status, _, merged⟩ :=
    Subscription.decode_mergePatch view decoded_pre
  have same := all _ _ _ view before before log _ decoded_pre (viewed earlierPre) (runs news) told
    merged
  have covers := HookStatus.laidOver_eq_iff.mp (Option.some.inj same)
  have known : HookStatus.decode (.object (Subscription.hookFields (fieldsWith earlierPre))) =
      .ok earlierPre := rfl
  cases read.symm.trans known
  exact absurd (covers.lastPre rfl) (by decide)

end RestartedController

end GitDelivery
