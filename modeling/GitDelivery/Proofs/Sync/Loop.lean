import GitDelivery.Proofs.Sync.Tick
import GitDelivery.Sync.Loop

set_option autoImplicit false

/-! What starting loops and their ticks do to them: no tick changes the subscription of a loop or the
generation that it was started for. -/

namespace GitDelivery

open Dialogue Work

variable {context : Context} {key : ObjectKey} {log : Log}

theorem SyncLoop.step_cases {loop after : SyncLoop} {now : Nat}
    (ended : Ends (loop.step context now) log after) :
    ∃ result, Ends (loop.item.run context loop.phase.trigger) log (result, after.item) ∧
      after.generation = loop.generation ∧ after.item.key = loop.item.key := by
  obtain ⟨ticking, ⟨result, item⟩, _, ticked, last, rfl⟩ := ends_bind_iff.mp ended
  obtain ⟨rfl, rfl⟩ := ends_pure_iff.mp last
  rw [List.append_nil]
  exact ⟨result, ticked, rfl, SyncItem.run_key ticked⟩

def SyncLoop.fresh (context : Context) (subscription : Subscription) (now : Nat) : SyncLoop :=
  { generation := subscription.metadata.generation
    item := .ofSubscription context.settings subscription
    phase := .initial 0 now }

namespace SyncLoops

variable {loops after : SyncLoops}

theorem syncNow_cases {result : Option TickResult}
    (ended : Ends (loops.syncNow context key) log (result, after)) :
    result = none ∧ after = loops ∨
    ∃ (loop : SyncLoop) (outcome : TickResult) (item : SyncItem),
      result = some outcome ∧ Registry.find? key loops = some loop ∧
      Ends (loop.item.run context .manual) log (outcome, item) ∧ item.key = loop.item.key ∧
      after = Registry.set key { loop with item := item } loops := by
  unfold syncNow at ended
  cases found : Registry.find? key loops with
  | none =>
      rw [found] at ended
      obtain ⟨_, same⟩ := ends_pure_iff.mp ended
      cases same
      exact .inl ⟨rfl, rfl⟩
  | some loop =>
      rw [found] at ended
      obtain ⟨ticking, ⟨outcome, item⟩, _, ticked, last, rfl⟩ := ends_bind_iff.mp ended
      obtain ⟨rfl, same⟩ := ends_pure_iff.mp last
      cases same
      rw [List.append_nil]
      exact .inr ⟨loop, outcome, item, rfl, rfl, ticked, SyncItem.run_key ticked, rfl⟩

theorem start_eq {subscription : Subscription} {restart : Bool}
    (due : restart = true ∨ Registry.find? subscription.key loops = none) (now : Nat) :
    (loops.start context subscription restart now).2 =
      Registry.set subscription.key (.fresh context subscription now) loops := by
  unfold start
  dsimp only
  cases found : Registry.find? subscription.key loops with
  | none => rfl
  | some loop =>
      rcases due with rfl | absent
      · rfl
      · cases found.symm.trans absent

def ensured (context : Context) (subscription : Subscription) (now : Nat) (loops : SyncLoops) :
    SyncLoops :=
  if (Registry.find? subscription.key loops).any (·.generation = subscription.metadata.generation)
  then loops
  else Registry.set subscription.key (.fresh context subscription now) loops

def current (subscription : Subscription) (loops : SyncLoops) : SyncLoops :=
  if (Registry.find? subscription.key loops).all (·.generation = subscription.metadata.generation)
  then loops
  else Registry.erase subscription.key loops

end SyncLoops

end GitDelivery
