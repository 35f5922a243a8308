import GitDelivery.Proofs.Sync.Drift
import GitDelivery.Proofs.Sync.Loop
import Mathlib.Algebra.GroupWithZero.Nat
import Mathlib.Data.Nat.Find
import Mathlib.Order.Basic

set_option autoImplicit false

/-! Loops while time passes. Ticks take no time, and the clock does not go beyond a tick that is due. -/

namespace GitDelivery

open Dialogue Work SyncItem

variable {context : Context} {key : ObjectKey} {log : Log}

theorem Rate.schedule_slow (rate : Rate) :
    60 ≤ rate.schedule.retryInterval ∧
      ∀ seconds, rate.schedule.period = some seconds → 60 ≤ seconds := by
  cases rate <;> simp [Rate.schedule]

namespace LoopPhase

variable {rate : Rate} {now next : Nat}

private theorem le_of_nextPeriod (follows : (nextPeriod rate.schedule now).due? = some next) :
    now + 60000 ≤ next := by
  unfold nextPeriod at follows
  split at follows
  · next seconds given =>
      have waits : 60 ≤ seconds := rate.schedule_slow.2 seconds given
      have same : now + 1000 * seconds = next := Option.some.inj follows
      omega
  · cases follows

theorem le_due_after {phase : LoopPhase} {due : Nat} {wentWell : Bool}
    (present : phase.due? = some due)
    (follows : (phase.after rate.schedule now wentWell).due? = some next) : now + 60000 ≤ next := by
  cases phase with
  | finished => cases present
  | periodic _ => exact le_of_nextPeriod follows
  | initial attempt _ =>
      by_cases done : (wentWell || rate.schedule.retries ≤ attempt) = true
      · have goesOn := follows
        rw [after, if_pos done] at goesOn
        exact le_of_nextPeriod goesOn
      · rw [after, if_neg done] at follows
        have waits := rate.schedule_slow.1
        have same : now + 1000 * rate.schedule.retryInterval = next := Option.some.inj follows
        omega

end LoopPhase

def SyncLoop.plan (loop : SyncLoop) : Rate × LoopPhase :=
  (loop.item.rate, loop.phase)

theorem SyncLoop.step_ends_iff {loop after : SyncLoop} {now : Nat} :
    Ends (loop.step context now) log after ↔
      ∃ result item, Ends (loop.item.run context loop.phase.trigger) log (result, item) ∧
        after = { loop with
          item := item
          phase := loop.phase.after item.rate.schedule now result.isOk } := by
  unfold step
  rw [ends_bind_iff]
  constructor
  · rintro ⟨ticking, ⟨result, item⟩, nothing, ticked, last, rfl⟩
    obtain ⟨rfl, rfl⟩ := ends_pure_iff.mp last
    rw [List.append_nil]
    exact ⟨result, item, ticked, rfl⟩
  · rintro ⟨result, item, ticked, rfl⟩
    exact ⟨log, (result, item), [], ticked, ends_pure_iff.mpr ⟨rfl, rfl⟩,
      (List.append_nil log).symm⟩

theorem SyncItem.run_rate {item next : SyncItem} {trigger : Trigger} {result : TickResult}
    (ended : Ends (item.run context trigger) log (result, next)) : next.rate = item.rate := by
  obtain ⟨ticking, _, _, _, ticked, _⟩ := run_ends_iff.mp ended
  exact tick_rate ticked

private theorem Registry.sum_set {α : Type} (size : α → Nat) (value : α) {registry : Registry α}
    {old : α} (found : Registry.find? key registry = some old) :
    ((Registry.set key value registry).map fun entry => size entry.2).sum + size old =
      (registry.map fun entry => size entry.2).sum + size value := by
  induction registry with
  | nil => cases found
  | cons entry rest ih =>
      obtain ⟨other, held⟩ := entry
      unfold find? at found
      unfold Registry.set
      by_cases same : other = key
      · rw [if_pos same] at found ⊢
        cases found
        simp only [List.map_cons, List.sum_cons]
        omega
      · rw [if_neg same] at found ⊢
        have others := ih found
        simp only [List.map_cons, List.sum_cons]
        omega

/-- What happens to loops: a tick that is due or one outside the schedule, and that a loop is started
or stopped. `began` says whether one was started. -/
inductive LoopEvent where
  | ticks (key : ObjectKey) (tick : Tick)
  | asked (key : ObjectKey)
  | starts (subscription : Subscription) (restart began : Bool)
  | stops (key : ObjectKey)

namespace LoopEvent

def tick? (key : ObjectKey) : LoopEvent → Option Tick
  | ticks other tick => if other = key then some tick else none
  | asked _ | starts _ _ _ | stops _ => none

def IsStart (key : ObjectKey) : LoopEvent → Prop
  | starts subscription _ began => subscription.key = key ∧ began = true
  | ticks _ _ | asked _ | stops _ => False

def IsStop (key : ObjectKey) : LoopEvent → Prop
  | stops other => other = key
  | ticks _ _ | asked _ | starts _ _ _ => False

end LoopEvent

namespace SyncLoops

variable {now stop : Nat} {loops after final : SyncLoops} {event : LoopEvent}
  {events : List (Nat × LoopEvent)}

/-- The ticks of the schedule that a loop makes, with their times. -/
def ticksOf (key : ObjectKey) (events : List (Nat × LoopEvent)) : List (Nat × Tick) :=
  events.filterMap fun entry => (entry.2.tick? key).map (entry.1, ·)

inductive Changes (context : Context) (now : Nat) :
    SyncLoops → LoopEvent → SyncLoops → Prop where
  | ticks {loops : SyncLoops} {key : ObjectKey} {loop next : SyncLoop} {due : Nat} {tick : Tick}
      (found : Registry.find? key loops = some loop) (present : loop.phase.due? = some due)
      (timely : due ≤ now) (kind : tick.trigger = loop.phase.trigger)
      (ran : Ends (loop.item.run context tick.trigger) tick.log (tick.result, next.item))
      (stepped : Ends (loop.step context now) tick.log next) :
      Changes context now loops (.ticks key tick) (Registry.set key next loops)
  | asked {loops after : SyncLoops} {key : ObjectKey} {log : Log} {result : Option TickResult}
      (ended : Ends (loops.syncNow context key) log (result, after)) :
      Changes context now loops (.asked key) after
  | starts (loops : SyncLoops) (subscription : Subscription) (restart : Bool) :
      Changes context now loops
        (.starts subscription restart (loops.start context subscription restart now).1)
        (loops.start context subscription restart now).2
  | stops (loops : SyncLoops) (key : ObjectKey) :
      Changes context now loops (.stops key) (loops.stop key).2

def IdleUntil (later : Nat) (loops : SyncLoops) : Prop :=
  ∀ key loop due, Registry.find? key loops = some loop → loop.phase.due? = some due → later ≤ due

inductive Passes (context : Context) :
    Nat → SyncLoops → List (Nat × LoopEvent) → Nat → SyncLoops → Prop where
  | rests (now : Nat) (loops : SyncLoops) : Passes context now loops [] now loops
  | waits {now later stop : Nat} {loops final : SyncLoops} {events : List (Nat × LoopEvent)}
      (ahead : now ≤ later) (idle : IdleUntil later loops)
      (rest : Passes context later loops events stop final) :
      Passes context now loops events stop final
  | happens {now stop : Nat} {loops after final : SyncLoops} {event : LoopEvent}
      {events : List (Nat × LoopEvent)} (changes : Changes context now loops event after)
      (rest : Passes context now after events stop final) :
      Passes context now loops ((now, event) :: events) stop final

theorem ticksOf_cons_of_tick {tick : Tick} (ticks : event.tick? key = some tick) :
    ticksOf key ((now, event) :: events) = (now, tick) :: ticksOf key events := by
  simp [ticksOf, ticks]

theorem ticksOf_cons_of_other (other : event.tick? key = none) :
    ticksOf key ((now, event) :: events) = ticksOf key events := by
  simp [ticksOf, other]

theorem mem_of_ticksOf {time : Nat} {tick : Tick} (made : (time, tick) ∈ ticksOf key events) :
    ∃ event, (time, event) ∈ events := by
  obtain ⟨⟨other, event⟩, member, same⟩ := List.mem_filterMap.mp made
  obtain ⟨turn, _, again⟩ := Option.map_eq_some_iff.mp same
  cases again
  exact ⟨event, member⟩

theorem ticksOf_append (key : ObjectKey) (earlier later : List (Nat × LoopEvent)) :
    ticksOf key (earlier ++ later) = ticksOf key earlier ++ ticksOf key later :=
  List.filterMap_append

/-! ### One event -/

theorem start_cases (context : Context) (subscription : Subscription) (restart : Bool) (now : Nat)
    (loops : SyncLoops) :
    loops.start context subscription restart now = (false, loops) ∨
      loops.start context subscription restart now =
        (true, Registry.set subscription.key (.fresh context subscription now) loops) := by
  unfold start
  dsimp only
  split
  · split
    · exact .inl rfl
    · exact .inr rfl
  · exact .inr rfl

theorem Changes.of_tick {tick : Tick} (changes : Changes context now loops event after)
    (ticks : event.tick? key = some tick) :
    ∃ loop next due, Registry.find? key loops = some loop ∧ loop.phase.due? = some due ∧
      due ≤ now ∧ tick.trigger = loop.phase.trigger ∧ Registry.find? key after = some next ∧
      next.plan =
        (loop.item.rate, loop.phase.after loop.item.rate.schedule now tick.result.isOk) := by
  cases changes with
  | asked | starts | stops => cases ticks
  | @ticks other loop next due made found present timely kind ran stepped =>
      obtain ⟨rfl, rfl⟩ : other = key ∧ tick = made := by
        simpa [LoopEvent.tick?, eq_comm] using ticks
      refine ⟨loop, next, due, found, present, timely, kind, Registry.find?_set_self _ _ _, ?_⟩
      obtain ⟨result, item, again, rfl⟩ := SyncLoop.step_ends_iff.mp stepped
      rw [kind] at ran
      have whole : tick.log ++ [] = tick.log ++ [] := rfl
      obtain ⟨_, same, _⟩ := ends_unique ran again whole
      cases same
      unfold SyncLoop.plan
      rw [run_rate again]

/-- Only its own ticks change when the next tick of a loop is due, unless the loop itself is replaced. -/
theorem Changes.keeps_plan (changes : Changes context now loops event after)
    (other : event.tick? key = none) (stays : ¬ event.IsStart key) (alive : ¬ event.IsStop key) :
    (Registry.find? key after).map SyncLoop.plan = (Registry.find? key loops).map SyncLoop.plan := by
  cases changes with
  | @ticks name =>
      have different : key ≠ name := by
        rintro rfl
        simp [LoopEvent.tick?] at other
      rw [Registry.find?_set_of_ne different]
  | @asked _ name _ _ ended =>
      rcases syncNow_cases ended with ⟨_, rfl⟩ | ⟨loop, _, item, _, found, ran, _, rfl⟩
      · rfl
      · by_cases same : key = name
        · subst same
          rw [Registry.find?_set_self, found, Option.map_some, Option.map_some]
          unfold SyncLoop.plan
          rw [run_rate ran]
        · rw [Registry.find?_set_of_ne same]
  | starts subscription restart =>
      rcases start_cases context subscription restart now loops with same | same
      · rw [same]
      · have different : key ≠ subscription.key := by
          rintro rfl
          exact stays ⟨rfl, congrArg Prod.fst same⟩
        rw [same]
        exact congrArg _ (Registry.find?_set_of_ne different _ _)
  | stops name =>
      have different : key ≠ name := fun same => alive same.symm
      exact congrArg _ (Registry.find?_erase_of_ne different _)

/-! ### From one time to another -/

theorem Passes.ahead (passes : Passes context now loops events stop final) : now ≤ stop := by
  induction passes with
  | rests => exact Nat.le_refl _
  | waits ahead idle rest ih => exact ahead.trans ih
  | happens changes rest ih => exact ih

theorem Passes.time_le (passes : Passes context now loops events stop final) :
    ∀ entry ∈ events, entry.1 ≤ stop := by
  induction passes with
  | rests => simp
  | waits ahead idle rest ih => exact ih
  | happens changes rest ih => exact List.forall_mem_cons.mpr ⟨rest.ahead, ih⟩

theorem Passes.append {earlier later : List (Nat × LoopEvent)} {between : Nat}
    (first : Passes context now loops earlier between after)
    (second : Passes context between after later stop final) :
    Passes context now loops (earlier ++ later) stop final := by
  induction first with
  | rests => exact second
  | waits ahead idle rest ih => exact .waits ahead idle (ih second)
  | happens changes rest ih => exact .happens changes (ih second)

theorem Passes.split {earlier later : List (Nat × LoopEvent)} {time : Nat}
    (passes : Passes context now loops (earlier ++ (time, event) :: later) stop final) :
    ∃ between next, Passes context now loops earlier time between ∧
      Changes context time between event next ∧ Passes context time next later stop final := by
  generalize whole : earlier ++ (time, event) :: later = events at passes
  induction passes generalizing earlier with
  | rests => simp at whole
  | waits ahead idle rest ih =>
      obtain ⟨between, next, before, changes, behind⟩ := ih whole
      exact ⟨between, next, .waits ahead idle before, changes, behind⟩
  | happens changes rest ih =>
      cases earlier with
      | nil =>
          cases whole
          exact ⟨_, _, .rests _ _, changes, rest⟩
      | cons first others =>
          cases whole
          obtain ⟨between, next, before, changed, behind⟩ := ih rfl
          exact ⟨between, next, .happens changes before, changed, behind⟩

/-- Where there is no loop there are no ticks, until one is started. -/
theorem Passes.ticksOf_absent (passes : Passes context now loops events stop final)
    (absent : Registry.find? key loops = none) (stays : ∀ entry ∈ events, ¬ entry.2.IsStart key) :
    ticksOf key events = [] := by
  induction passes with
  | rests => rfl
  | waits ahead idle rest ih => exact ih absent stays
  | @happens now stop loops after final event events changes rest ih =>
      obtain ⟨head, others⟩ := List.forall_mem_cons.mp stays
      have silent : event.tick? key = none := by
        cases ticks : event.tick? key with
        | none => rfl
        | some tick =>
            obtain ⟨loop, _, _, found, _⟩ := changes.of_tick ticks
            cases found.symm.trans absent
      rw [ticksOf_cons_of_other silent]
      refine ih ?_ others
      by_cases ends : event.IsStop key
      · cases changes with
        | stops name =>
            cases (show name = key from ends)
            exact Registry.find?_erase_self _ _
        | ticks | asked | starts => exact ends.elim
      · have kept := changes.keeps_plan silent head ends
        rw [absent, Option.map_none, Option.map_eq_none_iff] at kept
        exact kept

/-! ### Every time comes -/

end SyncLoops

def SyncLoop.ticksBefore (limit : Nat) (loop : SyncLoop) : Nat :=
  match loop.phase.due? with
  | some due => if due < limit then (limit - due) / 60000 + 1 else 0
  | none => 0

private theorem SyncLoop.ticksBefore_lt {loop next : SyncLoop} {now limit due : Nat}
    (present : loop.phase.due? = some due) (timely : due ≤ now) (early : due < limit)
    (stepped : Ends (loop.step context now) log next) :
    next.ticksBefore limit < loop.ticksBefore limit := by
  obtain ⟨result, item, _, rfl⟩ := step_ends_iff.mp stepped
  unfold ticksBefore
  rw [present]
  dsimp only
  rw [if_pos early]
  split
  · next following later =>
      have apart : now + 60000 ≤ following := LoopPhase.le_due_after present later
      split <;> omega
  · omega

namespace SyncLoops

variable {now stop : Nat} {loops : SyncLoops} {loop : SyncLoop} {due : Nat}

def ticksBefore (limit : Nat) (loops : SyncLoops) : Nat :=
  (loops.map fun entry => entry.2.ticksBefore limit).sum

theorem ticksBefore_set_lt {next : SyncLoop} (found : Registry.find? key loops = some loop)
    (present : loop.phase.due? = some due) (timely : due ≤ now) (early : due < stop)
    (stepped : Ends (loop.step context now) log next) :
    ticksBefore stop (Registry.set key next loops) < ticksBefore stop loops := by
  have fewer := SyncLoop.ticksBefore_lt present timely early stepped
  have sums := Registry.sum_set (SyncLoop.ticksBefore stop) next found
  unfold ticksBefore
  omega

theorem changes_of_step {next : SyncLoop} (found : Registry.find? key loops = some loop)
    (present : loop.phase.due? = some due) (timely : due ≤ now)
    (stepped : Ends (loop.step context now) log next) :
    ∃ tick : Tick, tick.log = log ∧
      Changes context now loops (.ticks key tick) (Registry.set key next loops) := by
  obtain ⟨result, item, ran, rfl⟩ := SyncLoop.step_ends_iff.mp stepped
  exact ⟨⟨loop.phase.trigger, log, result⟩, rfl, .ticks found present timely rfl ran stepped⟩

theorem exists_tick (context : Context) (answer : (request : Request) → request.Reply)
    (found : Registry.find? key loops = some loop) (present : loop.phase.due? = some due)
    (timely : due ≤ now) (early : due < stop) :
    ∃ tick after, Changes context now loops (.ticks key tick) after ∧
      (∀ entry ∈ tick.log, entry.2 = answer entry.1) ∧
      ticksBefore stop after < ticksBefore stop loops := by
  have stepped := ends_answeredBy answer (loop.step context now)
  obtain ⟨tick, told, changes⟩ := changes_of_step found present timely stepped
  refine ⟨tick, _, changes, ?_, ticksBefore_set_lt found present timely early stepped⟩
  intro entry member
  rw [told] at member
  exact mem_answeredBy member

theorem exists_first (busy : ¬ IdleUntil stop loops) :
    ∃ name loop due, Registry.find? name loops = some loop ∧ loop.phase.due? = some due ∧
      due < stop ∧ IdleUntil due loops := by
  classical
  have pending : ∃ due name loop, Registry.find? name loops = some loop ∧
      loop.phase.due? = some due ∧ due < stop := by
    by_contra nothing
    refine busy ?_
    intro name loop due found present
    by_contra early
    exact nothing ⟨due, name, loop, found, present, Nat.lt_of_not_le early⟩
  obtain ⟨name, loop, found, present, early⟩ := Nat.find_spec pending
  refine ⟨name, loop, Nat.find pending, found, present, early, ?_⟩
  intro other running due known running_due
  by_contra earlier
  have before : due < Nat.find pending := Nat.lt_of_not_le earlier
  exact Nat.find_min pending before ⟨other, running, known, running_due, before.trans early⟩

/-- Whatever a loop's ticks are answered, every time comes without anything but ticks. -/
theorem exists_passes (key : ObjectKey) (answers : Nat → (request : Request) → request.Reply)
    (ahead : now ≤ stop) :
    ∃ events final, Passes context now loops events stop final ∧
      (∀ entry ∈ events, ∃ name tick, entry.2 = .ticks name tick) ∧
      ∀ n time tick, (ticksOf key events)[n]? = some (time, tick) →
        ∀ entry ∈ tick.log, entry.2 = answers n entry.1 := by
  induction measured : ticksBefore stop loops using Nat.strong_induction_on
    generalizing now loops answers with
  | _ left ih =>
      subst measured
      by_cases idle : IdleUntil stop loops
      · exact ⟨[], loops, .waits ahead idle (.rests _ _), by simp, by simp [ticksOf]⟩
      obtain ⟨name, loop, due, found, present, early, first⟩ := exists_first idle
      -- a tick that is overdue is made at once
      obtain ⟨tick, after, changes, answered, nearer⟩ := exists_tick context (answers 0) found present
        (Nat.le_max_right now due) early
      obtain ⟨events, final, rest, only, others⟩ := ih (ticksBefore stop after) nearer
        (if name = key then fun n => answers (n + 1) else answers)
        (Nat.max_le.mpr ⟨ahead, Nat.le_of_lt early⟩) rfl
      refine ⟨(max now due, .ticks name tick) :: events, final, ?_,
        List.forall_mem_cons.mpr ⟨⟨name, tick, rfl⟩, only⟩, ?_⟩
      · rcases Nat.le_total due now with overdue | later
        · rw [Nat.max_eq_left overdue] at changes rest ⊢
          exact .happens changes rest
        · rw [Nat.max_eq_right later] at changes rest ⊢
          exact .waits later first (.happens changes rest)
      · by_cases own : name = key
        · rw [if_pos own] at others
          have ticks : (LoopEvent.ticks name tick).tick? key = some tick := if_pos own
          rw [ticksOf_cons_of_tick ticks]
          intro n time made place
          cases n with
          | zero =>
              cases place
              exact answered
          | succ n => exact others n time made place
        · rw [if_neg own] at others
          have silent : (LoopEvent.ticks name tick).tick? key = none := if_neg own
          rw [ticksOf_cons_of_other silent]
          exact others

end SyncLoops

end GitDelivery
