import GitDelivery.Proofs.Hook.Registry
import GitDelivery.Proofs.Sync.Course

set_option autoImplicit false

/-! What is asked about the hooks of a subscription: by looking whether there are any, by looking for
their templates, and about the jobs that are made of them. -/

namespace GitDelivery

open Dialogue Work

variable {context : Context} {key : ObjectKey} {subscription : Subscription} {log : Log}

/-! ### Looking for templates -/

/-- What is asked to find out whether there may be hooks. -/
def HookRecords.LooksUp : Request → Prop
  | .subscription _ | .channel _ => True
  | _ => False

def HookTemplates.Seeks : Request → Prop
  | .clone _ _ | .clusters _ => True
  | request => SyncItem.Explores request

private theorem HookTemplates.seeks_of_explores (request : Request)
    (explores : SyncItem.Explores request) : Seeks request := by
  cases request <;> first | exact explores | trivial

private theorem HookTemplates.seeks_of_looksUp (request : Request)
    (looksUp : HookRecords.LooksUp request) : Seeks request := by
  cases request <;> first | exact looksUp | trivial

private theorem HookTemplates.only_download (directory : String) :
    Only Seeks (HookTemplates.download subscription directory).run := by
  have loads := (SyncItem.only_load subscription).weaken seeks_of_explores
  refine only_run_bind (only_run_adapt _ loads) ?_
  intro channels
  have resolves := (SyncItem.only_ofSubscription subscription channels directory).weaken
    seeks_of_explores
  refine only_run_bind (only_run_adapt _ resolves) ?_
  intro options
  have clones (remote : Remote) : Only Seeks (ask (.clone options remote)) := only_ask trivial
  refine only_run_bind (only_attempt (SyncItem.only_firstAnswer clones _ _)) ?_
  intro checkout
  dsimp only
  -- Where the templates lie does not matter, and must not be computed.
  generalize (FilePath.joinWithin directory _).mapError HookError.path = joined
  exact only_run_bind (only_known joined) fun _ => only_run_pure _

private theorem HookRecord.only_clustersFor (templates : HookTemplates) :
    Only HookTemplates.Seeks (clustersFor subscription templates) := by
  unfold HookRecord.clustersFor
  split
  · exact only_pure _
  · refine only_bind (only_ask trivial) ?_
    intro clusters
    cases clusters with
    | error reason => exact only_pure _
    | ok clusters => exact only_pure _

private theorem HookRecord.only_refresh (record : HookRecord) :
    Only HookTemplates.Seeks (record.refresh context key subscription) := by
  unfold HookRecord.refresh
  split
  · exact only_pure _
  · refine only_bind (HookTemplates.only_download _) ?_
    intro downloaded
    cases downloaded with
    | error error => exact only_pure _
    | ok templates => exact only_bind (HookRecord.only_clustersFor _) fun _ => only_pure _

namespace HookRecords

theorem only_gitSubscription : Only LooksUp (gitSubscription? key).run := by
  refine only_run_bind (only_attempt (only_ask trivial)) ?_
  intro found
  cases found with
  | none => exact only_run_pure _
  | some stored =>
      refine only_run_bind ?_ (fun _ => only_run_pure _)
      exact only_run_bind (only_attempt (only_ask trivial)) fun _ => only_run_pure _

theorem only_register (records : HookRecords) :
    Only HookTemplates.Seeks (register context key records) := by
  refine only_bind (only_gitSubscription.weaken HookTemplates.seeks_of_looksUp) ?_
  intro found
  match found with
  | .error error => exact only_pure _
  | .ok none => exact only_pure _
  | .ok (some stored) => exact only_bind (HookRecord.only_refresh _) fun _ => only_pure _

theorem not_clones_of_gitSubscription {found : Except HookError (Option Subscription)}
    (looked : Ends (gitSubscription? key).run log found) : ¬ Clones log := by
  rintro ⟨⟨request, reply⟩, member, fetches⟩
  have looksUp : LooksUp request := only_history only_gitSubscription looked _ member
  cases request <;> first | exact looksUp | cases fetches

theorem gitSubscription_cases {result : Except HookError (Option Subscription)}
    (looked : Ends (gitSubscription? key).run log result) :
    (∃ reason, log = [⟨.subscription key, .error reason⟩] ∧ result = .error (.unreadable reason)) ∨
    (log = [⟨.subscription key, .ok none⟩] ∧ result = .ok none) ∨
    (∃ stored reason, log = [⟨.subscription key, .ok (some stored)⟩,
        ⟨.channel stored.channelKey, .error reason⟩] ∧ result = .error (.unreadable reason)) ∨
    (∃ stored channel, log = [⟨.subscription key, .ok (some stored)⟩,
        ⟨.channel stored.channelKey, .ok channel⟩] ∧
      result = .ok ((channel.filter Channel.isGit).map fun _ => stored)) := by
  rcases ends_run_bind_iff.mp looked with ⟨error, failed, rfl⟩ | ⟨_, stored, _, found, rest, rfl⟩
  · obtain ⟨reply, asked, same⟩ := ends_attempt_iff.mp failed
    obtain rfl := ends_ask_iff.mp asked
    cases reply with
    | ok present => cases same
    | error reason =>
        cases same
        exact .inl ⟨reason, rfl, rfl⟩
  · obtain ⟨reply, asked, same⟩ := ends_attempt_iff.mp found
    obtain rfl := ends_ask_iff.mp asked
    cases reply with
    | error reason => cases same
    | ok present =>
        cases same
        cases stored with
        | none =>
            obtain ⟨rfl, rfl⟩ := ends_run_pure_iff.mp rest
            exact .inr (.inl ⟨rfl, rfl⟩)
        | some stored =>
            obtain ⟨outcome, channelLooked, rfl⟩ := ends_run_bind_pure_iff.mp rest
            obtain ⟨git, attempted, rfl⟩ := ends_run_bind_pure_iff.mp channelLooked
            obtain ⟨reply, asked, rfl⟩ := ends_attempt_iff.mp attempted
            obtain rfl := ends_ask_iff.mp asked
            cases reply with
            | error reason => exact .inr (.inr (.inl ⟨stored, reason, rfl, rfl⟩))
            | ok channel => exact .inr (.inr (.inr ⟨stored, channel, rfl, rfl⟩))

end HookRecords

/-! ### Jobs -/

def HookJob.Concerns : Request → Prop
  | .job _ | .submit _ => True
  | _ => False

namespace HookRecord

private theorem only_submitAll (limit : Nat) (jobs : List HookJob) (ledger : JobLedger) :
    Only HookJob.Concerns (submitAll limit jobs ledger) := by
  induction jobs generalizing ledger with
  | nil => exact only_pure _
  | cons job rest ih =>
      refine only_bind (only_ask trivial) ?_
      intro found
      match found with
      | .error reason => exact only_pure _
      | .ok (some present) => exact ih _
      | .ok none =>
          refine only_bind (only_ask trivial) ?_
          intro submitted
          cases submitted with
          | error reason => exact only_pure _
          | ok done => exact ih _

private theorem only_allSucceeded (jobs : List HookJob) :
    Only (fun request => ∃ key, request = .job key) (allSucceeded jobs) := by
  induction jobs with
  | nil => exact only_pure _
  | cons job rest ih =>
      refine only_bind (only_ask ⟨_, rfl⟩) ?_
      intro found
      cases found with
      | error reason => exact only_pure _
      | ok found =>
          dsimp only
          split
          · exact ih
          · exact only_pure _

end HookRecord

namespace HookRecords

theorem only_submit (side : HookSide) (records : HookRecords) :
    Only HookJob.Concerns (submit context key side records) := by
  unfold submit
  split
  · exact only_pure _
  · exact only_bind (HookRecord.only_submitAll _ _ _) fun _ => only_pure _

theorem only_areCompleted (side : HookSide) (records : HookRecords) :
    Only (fun request => ∃ key, request = .job key) (areCompleted key side records) := by
  unfold areCompleted
  split
  · exact only_pure _
  · exact HookRecord.only_allSucceeded _

end HookRecords

end GitDelivery
