import GitDelivery.Proofs.Delivery.Pass
import GitDelivery.Proofs.Delivery.System

set_option autoImplicit false

/-! What one pass does to the loop of its subscription: when it starts one, when it stops one, and which
it leaves. -/

namespace GitDelivery

namespace SyncLoops

variable {context : Context} {subscription : Subscription} {now : Nat} {loops : SyncLoops}
  {key : ObjectKey} {loop : SyncLoop}

def Tracks (subscription : Subscription) (loops : SyncLoops) : Prop :=
  ∃ loop, Registry.find? subscription.key loops = some loop ∧
    loop.generation = subscription.metadata.generation

theorem ensured_of_tracks (tracks : Tracks subscription loops) :
    loops.ensured context subscription now = loops := by
  obtain ⟨loop, found, generation⟩ := tracks
  unfold ensured
  rw [found]
  exact if_pos (decide_eq_true generation)

theorem ensured_of_not_tracks (untracked : ¬ Tracks subscription loops) :
    loops.ensured context subscription now =
      Registry.set subscription.key (.fresh context subscription now) loops := by
  unfold ensured
  refine if_neg ?_
  intro same
  cases found : Registry.find? subscription.key loops with
  | none =>
      rw [found] at same
      cases same
  | some loop =>
      rw [found] at same
      exact untracked ⟨loop, found, of_decide_eq_true same⟩

private theorem tracks_ensured : Tracks subscription (loops.ensured context subscription now) := by
  by_cases tracks : Tracks subscription loops
  · rwa [ensured_of_tracks tracks]
  · rw [ensured_of_not_tracks tracks]
    exact ⟨_, Registry.find?_set_self _ _ _, rfl⟩

theorem new_of_ensured (found : Registry.find? key (loops.ensured context subscription now) = some loop)
    (new : Registry.find? key loops ≠ some loop) :
    key = subscription.key ∧ loop = .fresh context subscription now := by
  unfold ensured at found
  split at found
  · exact absurd found new
  · by_cases same : key = subscription.key
    · subst same
      exact ⟨rfl, (Option.some.inj ((Registry.find?_set_self _ _ _).symm.trans found)).symm⟩
    · exact absurd ((Registry.find?_set_of_ne same _ _).symm.trans found) new

theorem successful_ensured
    (successful : (loops.ensured context subscription now).lastSuccess? subscription.key = some true) :
    loops.ensured context subscription now = loops ∧
      ∃ loop, Registry.find? subscription.key loops = some loop ∧
        loop.generation = subscription.metadata.generation ∧ loop.item.successful = true := by
  unfold lastSuccess? at successful
  by_cases tracks : Tracks subscription loops
  · rw [ensured_of_tracks tracks] at successful ⊢
    obtain ⟨loop, found, generation⟩ := tracks
    rw [found] at successful
    exact ⟨rfl, loop, found, generation, Option.some.inj successful⟩
  · rw [ensured_of_not_tracks tracks, Registry.find?_set_self] at successful
    cases successful

theorem find_current (found : Registry.find? key (loops.current subscription) = some loop) :
    Registry.find? key loops = some loop ∧
      (key = subscription.key → loop.generation = subscription.metadata.generation) := by
  unfold current at found
  split at found
  · rename_i every
    refine ⟨found, ?_⟩
    rintro rfl
    rw [found] at every
    exact of_decide_eq_true every
  · by_cases same : key = subscription.key
    · subst same
      cases (Registry.find?_erase_self subscription.key loops).symm.trans found
    · exact ⟨Registry.find?_of_erase found, fun named => absurd named same⟩

end SyncLoops

namespace Pass

open Dialogue Work

variable {context : Context} {subscription : Subscription} {now : Nat}
  {controller after : Controller} {log : Log} {result : Except ReconcileError NextPass}

def Forgotten (key : ObjectKey) (controller : Controller) : Prop :=
  Registry.find? key controller.loops = none ∧ Registry.find? key controller.hooks = none ∧
    Table.get? key.text controller.failures = none

private theorem forgotten_teardown (key : ObjectKey) (controller : Controller) :
    Forgotten key (controller.teardown key) :=
  ⟨Registry.find?_erase_self key _, Registry.find?_erase_self key _,
    Table.get?_erase_self key.text _⟩

/-- A loop is started only after the gate, which leaves the loops alone. -/
theorem Course.started (course : Course context subscription now controller log result after)
    {key : ObjectKey} {loop : SyncLoop} (found : Registry.find? key after.loops = some loop)
    (new : Registry.find? key controller.loops ≠ some loop) :
    key = subscription.key ∧
      ∃ gating concluding between, log = gating ++ concluding ∧
        between.loops = controller.loops ∧
        Confirmed subscription.key between.hooks gating ∧
        Runs (proceed context subscription now) between concluding result after := by
  have forgotten (torn : Registry.find? key (controller.teardown subscription.key).loops = some loop) :
      False :=
    new (Registry.find?_of_erase torn)
  -- Every other course leaves the loops alone or stops one.
  cases course with
  | deleted deleting => exact (forgotten found).elim
  | unread present => exact absurd found new
  | missing present => exact absurd found new
  | foreign present other => exact (forgotten found).elim
  | ungated present git failed =>
      rw [gate_loops failed] at found
      exact absurd found new
  | waits present git gated awaits =>
      rw [(await_cases awaits).1.1] at found
      have before := (SyncLoops.find_current found).1
      rw [gate_loops gated] at before
      exact absurd before new
  | @goesOn channel gating concluding between _ _ present git gated proceeds =>
      have same := gate_loops gated
      rw [(proceed_cases proceeds).1] at found
      rw [← same] at new
      exact ⟨(SyncLoops.new_of_ensured found new).1, _ :: gating, concluding, between, rfl, same,
        (gate_confirmed gated).prepend [_], proceeds⟩

/-- Another pass follows soon. No loop is started, and none of another generation is left. -/
structure Holds (context : Context) (subscription : Subscription) (before after : Controller)
    (next : NextPass) : Prop where
  polls : next = .afterSeconds context.settings.hookPollSeconds
  starts_none : ∀ key loop, Registry.find? key after.loops = some loop →
    Registry.find? key before.loops = some loop
  current : ∀ loop, Registry.find? subscription.key after.loops = some loop →
    loop.generation = subscription.metadata.generation

/-- A loop of the subscription's generation is left, which is new exactly if there was none. -/
structure Delivers (context : Context) (subscription : Subscription) (now : Nat)
    (before after : Controller) : Prop where
  tracks : after.loops.Tracks subscription
  kept : before.loops.Tracks subscription → after.loops = before.loops
  started : ¬ before.loops.Tracks subscription → after.loops =
    Registry.set subscription.key (.fresh context subscription now) before.loops

/-- If a pass for a Git repository goes well, the gate decides which loop it leaves. -/
theorem Course.settled (course : Course context subscription now controller log result after)
    {next : NextPass} {channel : Channel} (well : result = .ok next)
    (read : log.head? = some ⟨.channel subscription.channelKey, .ok (some channel)⟩)
    (git : channel.isGit = true) :
    ∃ gating concluding between,
      log = ⟨.channel subscription.channelKey, .ok (some channel)⟩ :: (gating ++ concluding) ∧
      (Runs (gate context subscription.key) controller gating (.ok false) between ∧
          Awaited subscription.key between.hooks gating ∧
          Holds context subscription controller after next ∨
        Runs (gate context subscription.key) controller gating (.ok true) between ∧
          Confirmed subscription.key between.hooks gating ∧
          Delivers context subscription now controller after) := by
  cases course with
  | deleted deleting => cases read
  | unread present => cases read
  | missing present => cases read
  | foreign present other =>
      cases read
      cases git.symm.trans other
  | ungated present git failed => cases well
  | @waits channel gating waiting between _ _ present git gated awaits =>
      cases read
      obtain ⟨steady, polls⟩ := await_cases awaits
      have loops : after.loops = controller.loops.current subscription := by
        rw [steady.1, gate_loops gated]
      refine ⟨gating, waiting, between, rfl, .inl ⟨gated, gate_awaited gated, polls next well, ?_, ?_⟩⟩
      · intro key loop found
        rw [loops] at found
        exact (SyncLoops.find_current found).1
      · intro loop found
        rw [loops] at found
        exact (SyncLoops.find_current found).2 rfl
  | @goesOn channel gating concluding between _ _ present git gated proceeds =>
      cases read
      have loops : after.loops = controller.loops.ensured context subscription now := by
        rw [(proceed_cases proceeds).1, gate_loops gated]
      refine ⟨gating, concluding, between, rfl, .inr ⟨gated, gate_confirmed gated, ?_, ?_, ?_⟩⟩
      · rw [loops]
        exact SyncLoops.tracks_ensured
      · rw [loops]
        exact SyncLoops.ensured_of_tracks
      · rw [loops]
        exact SyncLoops.ensured_of_not_tracks

private theorem Course.forgotten (course : Course context subscription now controller log result after)
    (leaves : subscription.metadata.deletionTimestamp.isSome = true ∨ ∃ channel : Channel,
      log.head? = some ⟨.channel subscription.channelKey, .ok (some channel)⟩ ∧
        channel.isGit = false) :
    Forgotten subscription.key after := by
  have stays (present : subscription.metadata.deletionTimestamp.isSome = false) :
      ∃ channel : Channel,
        log.head? = some ⟨.channel subscription.channelKey, .ok (some channel)⟩ ∧
          channel.isGit = false := by
    rcases leaves with deleting | foreign
    · cases deleting.symm.trans present
    · exact foreign
  cases course with
  | deleted deleting => exact forgotten_teardown _ _
  | foreign present other => exact forgotten_teardown _ _
  | unread present | missing present =>
      obtain ⟨channel, read, _⟩ := stays present
      cases read
  | ungated present git failed | waits present git gated awaits | goesOn present git gated proceeds =>
      obtain ⟨channel, read, other⟩ := stays present
      cases read
      cases git.symm.trans other

/-- Whatever is known and whatever is answered. A loop is started only after all jobs before the
deployment were found, in the same pass, to have succeeded. A pass for a Git repository that goes well
holds the loop back if they were not, and leaves one if they were. Where nothing is to be delivered,
nothing is remembered. -/
theorem loop_lifecycle (ended : Ends (controller.pass context subscription now) log (result, after)) :
    (∀ key loop, Registry.find? key after.loops = some loop →
      Registry.find? key controller.loops ≠ some loop →
      key = subscription.key ∧
        ∃ gating concluding between, log = gating ++ concluding ∧
          between.loops = controller.loops ∧
          Confirmed subscription.key between.hooks gating ∧
          Runs (proceed context subscription now) between concluding result after) ∧
    (∀ (next : NextPass) (channel : Channel), result = .ok next →
      log.head? = some ⟨.channel subscription.channelKey, .ok (some channel)⟩ →
      channel.isGit = true →
      ∃ gating concluding between,
        log = ⟨.channel subscription.channelKey, .ok (some channel)⟩ :: (gating ++ concluding) ∧
        (Runs (gate context subscription.key) controller gating (.ok false) between ∧
            Awaited subscription.key between.hooks gating ∧
            Holds context subscription controller after next ∨
          Runs (gate context subscription.key) controller gating (.ok true) between ∧
            Confirmed subscription.key between.hooks gating ∧
            Delivers context subscription now controller after)) ∧
    ((subscription.metadata.deletionTimestamp.isSome = true ∨ ∃ channel : Channel,
        log.head? = some ⟨.channel subscription.channelKey, .ok (some channel)⟩ ∧
          channel.isGit = false) →
      Forgotten subscription.key after) := by
  have course := reconcile_course ended
  refine ⟨fun _ _ found new => course.started found new, ?_, course.forgotten⟩
  intro next channel well read git
  exact course.settled well read git

end Pass

namespace Delivery.EditedLater

open Dialogue Work
open SyncItem.FailedManifest (context)

/-- The first pass starts a loop, after the job before the deployment was found to have succeeded. -/
theorem first_loop_started :
    Ends (Controller.pass context (revision 1) 0 {}) passing
        (.ok (.afterSeconds context.settings.resyncSeconds), delivered) ∧
      delivered.loops.Tracks (revision 1) ∧
      ∃ (gating concluding : Log) (between : Controller), passing = gating ++ concluding ∧
        between.loops = [] ∧ Pass.Confirmed key between.hooks gating := by
  have found : Registry.find? key delivered.loops = some loop := if_pos rfl
  have new : Registry.find? key ({} : Controller).loops ≠ some loop := by
    intro impossible
    cases impossible
  obtain ⟨_, gating, concluding, between, split, same, confirmed, _⟩ :=
    (Pass.loop_lifecycle passed).1 key loop found new
  exact ⟨passed, ⟨loop, found, rfl⟩, gating, concluding, between, split, same, confirmed⟩

end Delivery.EditedLater

end GitDelivery
