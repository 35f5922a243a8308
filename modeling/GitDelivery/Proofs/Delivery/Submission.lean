import GitDelivery.Proofs.Delivery.Pass
import GitDelivery.Proofs.Hook.Requests

set_option autoImplicit false

/-! What a pass submits once its gate has let it through: jobs after the deployment, if that went well. -/

namespace GitDelivery.Pass

open Dialogue Work

variable {context : Context} {key : ObjectKey} {subscription : Subscription} {now : Nat}
  {before after : Controller} {log : Log} {job : HookJob} {reply : Except String Unit}

private theorem submit_submits {side : HookSide} {result : Except ReconcileError Unit}
    (runs : Runs (onHooks (HookRecords.submit context key side)) before log result after)
    (submitted : ⟨.submit job, reply⟩ ∈ log) :
    ∃ record, Registry.find? key before.hooks = some record ∧ job ∈ (record.side side).latest := by
  obtain ⟨_, hooks, ended, _⟩ := runs_onHooks_iff.mp runs
  exact HookRecords.submit_submits ended submitted

private theorem not_submit_of_writeHookStatus {result : Except ReconcileError Unit}
    (runs : Runs (writeHookStatus subscription) before log result after) :
    ⟨.submit job, reply⟩ ∉ log := by
  have runs := runs_get_bind_iff.mp runs
  simp only at runs
  split at runs
  · obtain ⟨_, told, asked, _⟩ := runs_ask_iff.mp runs
    obtain rfl := ends_ask_iff.mp asked
    simp
  · obtain ⟨rfl, _⟩ := runs_pure_iff.mp runs
    exact List.not_mem_nil

theorem postHooks_submits {result : Except ReconcileError Nat}
    (runs : Runs (postHooks context key) before log result after)
    (submitted : ⟨.submit job, reply⟩ ∈ log) :
    before.loops.lastSuccess? key = some true ∧
      ∃ record, Registry.find? key before.hooks = some record ∧ job ∈ record.post.latest := by
  have runs := runs_get_bind_iff.mp runs
  split at runs
  · split at runs
    · rename_i successful
      refine ⟨successful, ?_⟩
      rcases runs_bind_iff.mp runs with ⟨_, failed, _⟩ | ⟨early, _, _, _, went, last, rfl⟩
      · exact submit_submits failed submitted
      · obtain ⟨rfl, _⟩ := runs_pure_iff.mp last
        rw [List.append_nil] at submitted
        exact submit_submits went submitted
    · obtain ⟨rfl, _⟩ := runs_pure_iff.mp runs
      cases submitted
  · obtain ⟨rfl, _⟩ := runs_pure_iff.mp runs
    cases submitted

/-- The loop that is asked whether the deployment went well is one of the subscription's generation. -/
theorem proceed_submits {result : Except ReconcileError NextPass}
    (runs : Runs (proceed context subscription now) before log result after)
    (submitted : ⟨.submit job, reply⟩ ∈ log) :
    (before.loops.ensured context subscription now).lastSuccess? subscription.key = some true ∧
      ∃ record, Registry.find? subscription.key before.hooks = some record ∧
        job ∈ record.post.latest := by
  rcases runs_bind_iff.mp runs with ⟨_, failed, _⟩ | ⟨_, _, between, rest, ensures, concludes, rfl⟩
  · cases (runs_ensureLoop_iff.mp failed).2.1
  obtain ⟨rfl, _, rfl⟩ := runs_ensureLoop_iff.mp ensures
  rw [List.nil_append] at submitted
  rcases runs_bind_iff.mp concludes with
    ⟨_, failed, _⟩ | ⟨early, _, _, late, submits, writes, rfl⟩
  · exact postHooks_submits failed submitted
  rcases List.mem_append.mp submitted with first | last
  · exact postHooks_submits submits first
  · rcases runs_bind_iff.mp writes with ⟨_, failed, _⟩ | ⟨_, _, _, _, written, forgives, rfl⟩
    · exact absurd last (not_submit_of_writeHookStatus failed)
    · obtain ⟨rfl, _⟩ := runs_modify_pure_iff.mp forgives
      rw [List.append_nil] at last
      exact absurd last (not_submit_of_writeHookStatus written)

/-- A pass submits a job after its gate has let it through. -/
def SubmitsAfter (context : Context) (subscription : Subscription) (before : Controller) (log : Log)
    (job : HookJob) : Prop :=
  ∃ read gating concluding between, ∃ reply : Except String Unit,
    log = read :: (gating ++ concluding) ∧
    Runs (gate context subscription.key) before gating (.ok true) between ∧
    ⟨.submit job, reply⟩ ∈ concluding

section

variable {result : Except ReconcileError NextPass}

/-- Only a pass that goes on to the deployment submits jobs after it. -/
theorem Course.of_submitsAfter (course : Course context subscription now before log result after)
    (submits : SubmitsAfter context subscription before log job) :
    ∃ channel gating concluding between, ∃ reply : Except String Unit,
      log = ⟨.channel subscription.channelKey, .ok (some channel)⟩ :: (gating ++ concluding) ∧
      channel.isGit = true ∧
      Runs (gate context subscription.key) before gating (.ok true) between ∧
      Runs (proceed context subscription now) between concluding result after ∧
      ⟨.submit job, reply⟩ ∈ concluding := by
  obtain ⟨read, gating, concluding, between, reply, split, gated, submitted⟩ := submits
  have asked (nothing : gating ++ concluding = []) : False := by
    rw [(List.append_eq_nil_iff.mp nothing).2] at submitted
    cases submitted
  -- The gate ends in one way only, so no other course comes so far.
  cases course with
  | deleted deleting => cases split
  | unread present => exact (asked (List.cons.inj split).2.symm).elim
  | missing present => exact (asked (List.cons.inj split).2.symm).elim
  | foreign present other => exact (asked (List.cons.inj split).2.symm).elim
  | @ungated channel refused _ _ present git failed =>
      have same : gating ++ concluding = refused ++ [] := by
        rw [List.append_nil]
        exact (List.cons.inj split).2.symm
      cases (ends_unique gated failed same).2.1
  | waits present git held awaits => cases (ends_unique gated held (List.cons.inj split).2.symm).2.1
  | @goesOn channel _ _ _ _ _ present git passed proceeds =>
      obtain ⟨rfl, agree, rfl⟩ := ends_unique gated passed (List.cons.inj split).2.symm
      cases agree
      exact ⟨channel, gating, concluding, between, reply, rfl, git, passed, proceeds, submitted⟩

end

end GitDelivery.Pass
