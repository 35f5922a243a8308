import GitDelivery.Cluster.Store
import GitDelivery.Proofs.Cluster.Exchange
import GitDelivery.Proofs.Resource.Status

set_option autoImplicit false

/-! What is sent to have the status of a subscription written: one patch of that status, or nothing if
the subscription has no address that can be written. -/

namespace GitDelivery.Cluster.Store

open Dialogue Exchange

variable {key : ObjectKey} {status : SubscriptionStatus} {history : Exchanges}

def statusAddress (key : ObjectKey) : String :=
  withParameters [("fieldManager", Vocabulary.fieldManager)]
    (ServedKind.subscriptions.address (some key.space) ++ "/" ++ key.name ++ "/status")

theorem patchStatus_ends_iff {outcome : Except ApiError Json} :
    Ends (Exchange.patchStatus .subscriptions key status.toJson).run history outcome ↔
      if isReachable key.name (statusAddress key) then
        ∃ reply : Except Refusal Json,
          history = [⟨.send .patch (statusAddress key) (some status.patch), reply⟩] ∧
          outcome = reply.mapError .refused
      else history = [] ∧ outcome = .error .unsendable := by
  unfold Exchange.patchStatus isReachable
  rw [ends_at_address_iff]
  cases key.name.isEmpty with
  | true => rw [if_pos rfl, Bool.not_true, Bool.false_and, if_neg Bool.false_ne_true]
  | false =>
      rw [if_neg Bool.false_ne_true, Bool.not_false, Bool.true_and]
      exact send_ends_iff

/-- A status is sent at most once, as a patch. -/
def Sends (key : ObjectKey) (status : SubscriptionStatus) (history : Exchanges) : Prop :=
  history = [] ∨ ∃ reply : Except Refusal Json,
    history = [⟨.send .patch (statusAddress key) (some status.patch), reply⟩]

private theorem sends_of_trying {attempt : Attempt} {outcome : Except ClusterError Unit}
    (ended : Ends (trying attempt (do
      let answer ← Exchange.patchStatus .subscriptions key status.toJson
      let _ ← Exchange.read Subscription.decode answer)).run history outcome) :
    Sends key status history := by
  obtain ⟨patched, ended, _⟩ := ends_run_adapt_iff.mp ended
  have sent {asking : Exchanges} {answer : Except ApiError Json}
      (ended : Ends (Exchange.patchStatus .subscriptions key status.toJson).run asking answer) :
      Sends key status asking := by
    have shape := patchStatus_ends_iff.mp ended
    split at shape
    · obtain ⟨reply, same, _⟩ := shape
      exact .inr ⟨reply, same⟩
    · exact .inl shape.1
  rcases ends_run_bind_iff.mp ended with ⟨_, failed, _⟩ | ⟨asking, answer, reading, asked, rest, rfl⟩
  · exact sent failed
  · rcases ends_run_bind_iff.mp rest with ⟨_, failed, _⟩ | ⟨_, _, _, first, last, rfl⟩
    · obtain ⟨rfl, _⟩ := ends_pure_iff.mp failed
      rw [List.append_nil]
      exact sent asked
    · obtain ⟨rfl, _⟩ := ends_pure_iff.mp first
      obtain ⟨rfl, _⟩ := ends_pure_iff.mp last
      rw [List.append_nil, List.append_nil]
      exact sent asked

theorem writeStatus_sends {outcome : Except ClusterError Unit}
    (ended : Ends (writeStatus key status).run history outcome) : Sends key status history :=
  sends_of_trying ended

/-- To a subscription that has an address, a status is sent, whatever is answered. -/
theorem exists_writeStatus (key : ObjectKey) (status : SubscriptionStatus)
    (reachable : isReachable key.name (statusAddress key) = true) (reply : Except Refusal Json) :
    ∃ outcome, Ends (writeStatus key status).run
      [⟨.send .patch (statusAddress key) (some status.patch), reply⟩] outcome := by
  have sent : Ends (Exchange.patchStatus .subscriptions key status.toJson).run
      [⟨.send .patch (statusAddress key) (some status.patch), reply⟩]
      (reply.mapError .refused) := by
    rw [patchStatus_ends_iff, if_pos reachable]
    exact ⟨reply, rfl, rfl⟩
  cases reply with
  | error refusal =>
      exact ⟨_, ends_run_adapt_iff.mpr ⟨_, ends_run_bind_iff.mpr (.inl ⟨_, sent, rfl⟩), rfl⟩⟩
  | ok answer =>
      have read : Ends (do let _ ← Exchange.read Subscription.decode answer).run []
          (((Subscription.decode answer).mapError ApiError.unreadable).map fun _ => ()) :=
        ends_run_bind_pure_iff.mpr ⟨_, ends_pure_iff.mpr ⟨rfl, rfl⟩, rfl⟩
      exact ⟨_, ends_run_adapt_iff.mpr
        ⟨_, ends_run_bind_iff.mpr (.inr ⟨_, answer, [], sent, read, rfl⟩), rfl⟩⟩

/-- How a deployment went as a whole is told as any other status is. -/
theorem reportOverall_sends {subscription : Subscription} {failed : Bool} {message : String}
    {now : Time.Instant} {outcome : Except ClusterError Unit}
    (ended : Ends (reportOverall subscription failed message now).run history outcome) :
    Sends subscription.key (.ofPhase (if failed then .failed else .subscribed) message now) history :=
  sends_of_trying ended

end GitDelivery.Cluster.Store
