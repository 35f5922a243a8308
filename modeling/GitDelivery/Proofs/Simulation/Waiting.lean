import GitDelivery.Proofs.Sync.Passage
import GitDelivery.Simulation.World
import Mathlib.Algebra.Order.BigOperators.Group.List
import Mathlib.Algebra.Order.Group.Nat

set_option autoImplicit false

/-! What becomes of loops while a world in memory lets time pass: the ticks that it makes are those that
are due, in their order, and none is left over. -/

namespace GitDelivery

namespace Registry

variable {α : Type} {key : ObjectKey} {value : α} {registry : Registry α}

theorem mem_of_find? (found : find? key registry = some value) : (key, value) ∈ registry := by
  induction registry with
  | nil => cases found
  | cons entry rest ih =>
      obtain ⟨other, held⟩ := entry
      unfold find? at found
      by_cases same : other = key
      · rw [if_pos same] at found
        cases same
        cases found
        exact List.mem_cons_self
      · rw [if_neg same] at found
        exact List.mem_cons_of_mem _ (ih found)

theorem find?_of_mem (distinct : (registry.map Prod.fst).Nodup) (member : (key, value) ∈ registry) :
    find? key registry = some value := by
  induction registry with
  | nil => cases member
  | cons entry rest ih =>
      obtain ⟨other, held⟩ := entry
      obtain ⟨apart, others⟩ := List.nodup_cons.mp distinct
      unfold find?
      rcases List.mem_cons.mp member with here | behind
      · cases here
        exact if_pos rfl
      · have different : other ≠ key := by
          rintro rfl
          exact apart (List.mem_map.mpr ⟨_, behind, rfl⟩)
        rw [if_neg different]
        exact ih others behind

private theorem keys_set (next : α) (found : find? key registry = some value) :
    (set key next registry).map Prod.fst = registry.map Prod.fst := by
  induction registry with
  | nil => cases found
  | cons entry rest ih =>
      obtain ⟨other, held⟩ := entry
      unfold find? at found
      unfold set
      by_cases same : other = key
      · rw [if_pos same]
        simp [same]
      · rw [if_neg same] at found ⊢
        simp [ih found]

end Registry

open Dialogue Work SyncLoops

namespace SyncLoops

variable {loops : SyncLoops} {limit now : Nat}

private theorem idle_of_ticksBefore (nothing : ticksBefore limit loops = 0) :
    IdleUntil limit loops := by
  intro key loop due found present
  by_contra early
  have member := Registry.mem_of_find? found
  have zero : loop.ticksBefore limit = 0 := by
    refine List.sum_eq_zero_iff.mp nothing _ ?_
    exact List.mem_map.mpr ⟨_, member, rfl⟩
  unfold SyncLoop.ticksBefore at zero
  rw [present] at zero
  simp [Nat.lt_of_not_le early] at zero

/-- Where no tick is late, a loop makes one in each minute and one at the start. -/
theorem ticksBefore_le (distinct : (loops.map Prod.fst).Nodup) (idle : IdleUntil now loops)
    (milliseconds : Nat) :
    ticksBefore (now + milliseconds) loops ≤ loops.length * (milliseconds / 60000 + 2) := by
  have each : ∀ size ∈ loops.map (fun entry => entry.2.ticksBefore (now + milliseconds)),
      size ≤ milliseconds / 60000 + 2 := by
    intro size member
    obtain ⟨⟨key, loop⟩, inside, rfl⟩ := List.mem_map.mp member
    unfold SyncLoop.ticksBefore
    cases present : loop.phase.due? with
    | none => exact Nat.zero_le _
    | some due =>
        have later : now ≤ due := idle key loop due (Registry.find?_of_mem distinct inside) present
        dsimp only
        split <;> omega
  have total := List.sum_le_card_nsmul _ _ each
  rw [List.length_map] at total
  exact total

private theorem IdleUntil.set_step {context : Context} {key : ObjectKey} {log : Log}
    {loop next : SyncLoop} (idle : IdleUntil now loops)
    (present : loop.phase.due? = some now) (stepped : Ends (loop.step context now) log next) :
    IdleUntil now (Registry.set key next loops) := by
  have apart : ∀ due, next.phase.due? = some due → now ≤ due := by
    obtain ⟨result, item, _, rfl⟩ := SyncLoop.step_ends_iff.mp stepped
    intro due following
    exact (Nat.le_add_right now 60000).trans (LoopPhase.le_due_after present following)
  have kept : ∀ name other, Registry.find? name (Registry.set key next loops) = some other →
      ∀ due, other.phase.due? = some due → now ≤ due :=
    Registry.forall_set apart fun name other _ found due pending =>
      idle name other due found pending
  intro name other due found pending
  exact kept name other found due pending

end SyncLoops

namespace Simulation.World

variable {α : Type} {world after : World}

/-! ### Answering -/

structure Steady (before after : World) : Prop where
  context : after.context = before.context
  controller : after.controller = before.controller
  clock : after.clock = before.clock

theorem Steady.refl (world : World) : Steady world world :=
  ⟨rfl, rfl, rfl⟩

theorem Steady.trans {between : World} (first : Steady world between)
    (second : Steady between after) : Steady world after :=
  ⟨second.context.trans first.context, second.controller.trans first.controller,
    second.clock.trans first.clock⟩

def IsSteady (action : StateM World α) : Prop :=
  ∀ world, Steady world (action world).2

theorem isSteady_get_bind {next : World → StateM World α}
    (steady : ∀ world, Steady world (next world world).2) : IsSteady (get >>= next) :=
  steady

theorem isSteady_unlessFault {call : Call} {subject : String}
    {answer : StateM World (Except String α)} (steady : IsSteady answer) :
    IsSteady (unlessFault call subject answer) := by
  apply isSteady_get_bind
  intro world
  cases world.fault? call subject with
  | none => exact steady world
  | some reason => exact .refl world

private theorem isSteady_recorded {event : Event} {call : Call} {subject : String}
    {answer : StateM World (Except String α)} (steady : IsSteady answer) :
    IsSteady (do record event; unlessFault call subject answer) := by
  intro world
  have noted : Steady world { world with events := world.events ++ [event] } := ⟨rfl, rfl, rfl⟩
  exact noted.trans (isSteady_unlessFault steady _)

private theorem isSteady_writeStatus (key : ObjectKey) (status : SubscriptionStatus) :
    IsSteady (writeStatus key status) := by
  apply isSteady_get_bind
  intro world
  cases Table.get? key.text world.subscriptions with
  | none => exact .refl world
  | some subscription => exact ⟨rfl, rfl, rfl⟩

private theorem isSteady_answer (request : Request) : IsSteady (answer request) := by
  cases request with
  | subscription key => exact isSteady_unlessFault .refl
  | channel key => exact isSteady_unlessFault .refl
  | secret key => exact isSteady_unlessFault .refl
  | configMap key => exact isSteady_unlessFault .refl
  | job key => exact isSteady_unlessFault .refl
  | time => exact .refl
  | writeStatus key status => exact isSteady_recorded (isSteady_writeStatus key status)
  | clone options remote => exact isSteady_recorded fun world => ⟨rfl, rfl, rfl⟩
  | head options remote => exact isSteady_recorded .refl
  | build tree directory => exact fun world => ⟨rfl, rfl, rfl⟩
  | deploy batch => exact isSteady_recorded .refl
  | reportOverall subscription failed message => exact isSteady_recorded .refl
  | clusters subscription => exact isSteady_recorded .refl
  | submit job => exact isSteady_recorded fun world => ⟨rfl, rfl, rfl⟩

private theorem perform_ends (work : Work α) (world : World) :
    (∃ log, Ends work log (perform work world).1) ∧ Steady world (perform work world).2 := by
  induction work generalizing world with
  | done result => exact ⟨⟨[], .done result⟩, .refl world⟩
  | ask request next ih =>
      obtain ⟨⟨log, ended⟩, later⟩ := ih (answer request world).1 (answer request world).2
      exact ⟨⟨_, .ask ended⟩, (isSteady_answer request world).trans later⟩

/-! ### The tick that is due first -/

theorem firstDue?_cases (limit : Nat) (loops : SyncLoops) :
    (firstDue? limit loops = none ∧
      ∀ entry ∈ loops, ∀ due, entry.2.phase.due? = some due → limit ≤ due) ∨
    ∃ due key loop, firstDue? limit loops = some (due, key, loop) ∧ (key, loop) ∈ loops ∧
      loop.phase.due? = some due ∧ due < limit ∧
      ∀ entry ∈ loops, ∀ other, entry.2.phase.due? = some other → due ≤ other := by
  induction loops with
  | nil => exact .inl ⟨rfl, fun entry member => absurd member List.not_mem_nil⟩
  | cons entry rest ih =>
      obtain ⟨key, loop⟩ := entry
      unfold firstDue?
      cases early : loop.phase.due?.filter (· < limit) with
      | none =>
          have late : ∀ due, loop.phase.due? = some due → limit ≤ due := by
            intro due present
            simpa [present, Option.filter] using early
          rcases ih with ⟨idle, others⟩ | ⟨due, name, first, found, member, present, sooner, others⟩
          · rw [idle]
            exact .inl ⟨rfl, List.forall_mem_cons.mpr ⟨late, others⟩⟩
          · rw [found]
            refine .inr ⟨due, name, first, rfl, List.mem_cons_of_mem _ member, present, sooner,
              List.forall_mem_cons.mpr ⟨?_, others⟩⟩
            intro other pending
            exact (Nat.le_of_lt sooner).trans (late other pending)
      | some due =>
          obtain ⟨present, sooner⟩ : loop.phase.due? = some due ∧ due < limit := by
            simpa [Option.filter_eq_some_iff] using early
          have own : ∀ other, loop.phase.due? = some other → due ≤ other := by
            intro other pending
            exact Nat.le_of_eq (Option.some.inj (present.symm.trans pending))
          rcases ih with ⟨idle, others⟩ | ⟨next, name, first, found, member, pending, soon, others⟩
          · rw [idle]
            refine .inr ⟨due, key, loop, rfl, List.mem_cons_self, present, sooner,
              List.forall_mem_cons.mpr ⟨own, ?_⟩⟩
            intro entry inside other given
            exact (Nat.le_of_lt sooner).trans (others entry inside other given)
          · rw [found]
            dsimp only
            by_cases earlier : due ≤ next
            · rw [if_pos earlier]
              refine .inr ⟨due, key, loop, rfl, List.mem_cons_self, present, sooner,
                List.forall_mem_cons.mpr ⟨own, ?_⟩⟩
              intro entry inside other given
              exact earlier.trans (others entry inside other given)
            · rw [if_neg earlier]
              refine .inr ⟨next, name, first, rfl, List.mem_cons_of_mem _ member, pending, soon,
                List.forall_mem_cons.mpr ⟨?_, others⟩⟩
              intro other given
              exact (Nat.le_of_lt (Nat.lt_of_not_le earlier)).trans (own other given)

/-! ### Letting time pass -/

private theorem get_bind_apply (next : World → StateM World α) (world : World) :
    (get >>= next : StateM World α) world = next world world :=
  rfl

def ticked (now : Nat) (key : ObjectKey) (loop : SyncLoop) (world : World) : World :=
  let made := perform (loop.step world.context now) { world with clock := now }
  { made.2 with controller := { made.2.controller with
      loops := Registry.set key made.1 made.2.controller.loops } }

private theorem runLoops_idle {limit : Nat} (count : Nat)
    (idle : firstDue? limit world.controller.loops = none) :
    runLoops limit (count + 1) world = ((), world) := by
  rw [runLoops, get_bind_apply, idle]
  rfl

private theorem runLoops_busy {limit due : Nat} {key : ObjectKey} {loop : SyncLoop} (count : Nat)
    (first : firstDue? limit world.controller.loops = some (due, key, loop)) :
    runLoops limit (count + 1) world =
      runLoops limit count (ticked (max due world.clock) key loop world) := by
  rw [runLoops, get_bind_apply, first]
  rfl

theorem ticked_steps (now : Nat) (key : ObjectKey) (loop : SyncLoop) (world : World) :
    ∃ log next, Ends (loop.step world.context now) log next ∧
      (ticked now key loop world).context = world.context ∧
      (ticked now key loop world).clock = now ∧
      (ticked now key loop world).controller.loops =
        Registry.set key next world.controller.loops := by
  obtain ⟨⟨log, ended⟩, context, controller, clock⟩ :=
    perform_ends (loop.step world.context now) { world with clock := now }
  refine ⟨log, _, ended, context, clock, ?_⟩
  unfold ticked
  dsimp only
  rw [controller]

/-- Every loop has one place, and none is late. -/
structure InTime (world : World) : Prop where
  distinct : (world.controller.loops.map Prod.fst).Nodup
  idle : IdleUntil world.clock world.controller.loops

private theorem InTime.ticked {due : Nat} {key : ObjectKey} {loop : SyncLoop} (inTime : InTime world)
    (found : Registry.find? key world.controller.loops = some loop)
    (present : loop.phase.due? = some due) (first : IdleUntil due world.controller.loops) :
    InTime (ticked due key loop world) := by
  obtain ⟨log, next, stepped, _, clock, loops⟩ := ticked_steps due key loop world
  constructor
  · rw [loops, Registry.keys_set next found]
    exact inTime.distinct
  · rw [clock, loops]
    exact first.set_step present stepped

/-- The ticks that are made are due, and if they are enough then no more are left. -/
theorem runLoops_passes {limit : Nat} (count : Nat) (inTime : InTime world)
    (ahead : world.clock ≤ limit) (enough : ticksBefore limit world.controller.loops ≤ count) :
    ∃ events, Passes world.context world.clock world.controller.loops events
        (runLoops limit count world).2.clock (runLoops limit count world).2.controller.loops ∧
      (∀ entry ∈ events, ∃ key tick, entry.2 = .ticks key tick) ∧
      (runLoops limit count world).2.clock ≤ limit ∧
      ((runLoops limit count world).2.controller.loops.map Prod.fst).Nodup ∧
      IdleUntil limit (runLoops limit count world).2.controller.loops := by
  induction count generalizing world with
  | zero =>
      exact ⟨[], .rests _ _, by simp, ahead, inTime.distinct,
        idle_of_ticksBefore (Nat.le_zero.mp enough)⟩
  | succ count ih =>
      rcases firstDue?_cases limit world.controller.loops with
        ⟨nothing, others⟩ | ⟨due, key, loop, first, member, present, early, others⟩
      · rw [runLoops_idle count nothing]
        refine ⟨[], .rests _ _, by simp, ahead, inTime.distinct, ?_⟩
        intro key loop due found present
        exact others _ (Registry.mem_of_find? found) due present
      · have found := Registry.find?_of_mem inTime.distinct member
        have later : world.clock ≤ due := inTime.idle key loop due found present
        have waiting : IdleUntil due world.controller.loops := by
          intro name other time known pending
          exact others _ (Registry.mem_of_find? known) time pending
        rw [runLoops_busy count first, Nat.max_eq_left later]
        obtain ⟨log, next, stepped, context, clock, loops⟩ := ticked_steps due key loop world
        obtain ⟨tick, _, changes⟩ := changes_of_step found present (Nat.le_refl due) stepped
        have fewer := ticksBefore_set_lt found present (Nat.le_refl due) early stepped
        obtain ⟨events, rest, only, done⟩ := ih (inTime.ticked found present waiting)
          (by rw [clock]; exact Nat.le_of_lt early) (by rw [loops]; omega)
        rw [context, clock, loops] at rest
        exact ⟨(due, .ticks key tick) :: events, .waits later waiting (.happens changes rest),
          List.forall_mem_cons.mpr ⟨⟨key, tick, rfl⟩, only⟩, done⟩

private theorem wait_apply (milliseconds : Nat) (world : World) :
    (wait milliseconds world).2 =
      { (runLoops (world.clock + milliseconds)
          (world.controller.loops.length * (milliseconds / 60000 + 2)) world).2 with
        clock := world.clock + milliseconds } :=
  rfl

/-- A world that waits makes the ticks of its loops at the times at which they are due, and nothing else
happens to them. -/
theorem wait_passes (milliseconds : Nat) (inTime : InTime world) :
    ∃ events, Passes world.context world.clock world.controller.loops events
        (world.clock + milliseconds) (wait milliseconds world).2.controller.loops ∧
      (∀ entry ∈ events, ∃ key tick, entry.2 = .ticks key tick) ∧
      InTime (wait milliseconds world).2 := by
  have enough := ticksBefore_le inTime.distinct inTime.idle milliseconds
  obtain ⟨events, passes, only, inside, distinct, idle⟩ := runLoops_passes
    (world.controller.loops.length * (milliseconds / 60000 + 2)) inTime
    (Nat.le_add_right world.clock milliseconds) enough
  rw [wait_apply]
  refine ⟨events, ?_, only, distinct, idle⟩
  rw [← List.append_nil events]
  exact passes.append (.waits inside idle (.rests _ _))

end Simulation.World

end GitDelivery
