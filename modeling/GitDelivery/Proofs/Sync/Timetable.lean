import GitDelivery.Proofs.Sync.Passage

set_option autoImplicit false

/-! Which ticks a loop makes, and when: attempts at the first one until one goes well or there are no
more, and from the last attempt on one in every period. -/

namespace GitDelivery

open Dialogue Work SyncItem

namespace SyncSchedule

variable (schedule : SyncSchedule) (wentWell : Nat → Bool)

/-- The last attempt at the first tick, counted from zero: the first that goes well, if there is one
before the retries are used up. -/
def lastAttempt : Nat :=
  (List.range schedule.retries).findIdx wentWell

/-- When a tick is made, if at all, and as what, in milliseconds after the start of its loop. Which of
the ticks went well decides that. -/
def timetable (n : Nat) : Option (Nat × Trigger) :=
  let last := schedule.lastAttempt wentWell
  if n ≤ last then some (1000 * schedule.retryInterval * n, .initial)
  else schedule.period.map fun seconds =>
    (1000 * schedule.retryInterval * last + 1000 * seconds * (n - last), .periodic)

private theorem lastAttempt_le : schedule.lastAttempt wentWell ≤ schedule.retries := by
  have bound : schedule.lastAttempt wentWell ≤ (List.range schedule.retries).length :=
    List.findIdx_le_length
  rwa [List.length_range] at bound

variable {schedule wentWell}

private theorem failed_of_lt_lastAttempt {n : Nat} (before : n < schedule.lastAttempt wentWell) :
    wentWell n = false := by
  have missed := List.not_of_lt_findIdx before
  rw [List.getElem_range] at missed
  exact missed

private theorem wentWell_lastAttempt (early : schedule.lastAttempt wentWell < schedule.retries) :
    wentWell (schedule.lastAttempt wentWell) = true := by
  have bound : (List.range schedule.retries).findIdx wentWell <
      (List.range schedule.retries).length := by
    rw [List.length_range]
    exact early
  have found := List.findIdx_getElem (w := bound)
  rw [List.getElem_range] at found
  exact found

theorem timetable_of_le {n : Nat} (attempt : n ≤ schedule.lastAttempt wentWell) :
    schedule.timetable wentWell n = some (1000 * schedule.retryInterval * n, .initial) :=
  if_pos attempt

theorem timetable_of_lt {n : Nat} (later : schedule.lastAttempt wentWell < n) :
    schedule.timetable wentWell n = schedule.period.map fun seconds =>
      (1000 * schedule.retryInterval * schedule.lastAttempt wentWell +
        1000 * seconds * (n - schedule.lastAttempt wentWell), .periodic) :=
  if_neg (Nat.not_le.mpr later)

private theorem timetable_succ_of_lt {n elapsed : Nat} {trigger : Trigger}
    (made : schedule.timetable wentWell n = some (elapsed, trigger))
    (more : n < schedule.lastAttempt wentWell) :
    schedule.timetable wentWell (n + 1) = some (elapsed + 1000 * schedule.retryInterval, .initial) := by
  rw [timetable_of_le (Nat.le_of_lt more)] at made
  cases made
  rw [timetable_of_le more, Nat.mul_succ]

/-- From the last attempt on a period passes between two ticks. -/
theorem timetable_succ_of_le {n elapsed : Nat} {trigger : Trigger}
    (made : schedule.timetable wentWell n = some (elapsed, trigger))
    (done : schedule.lastAttempt wentWell ≤ n) :
    schedule.timetable wentWell (n + 1) =
      schedule.period.map fun seconds => (elapsed + 1000 * seconds, .periodic) := by
  rw [timetable_of_lt (Nat.lt_succ_of_le done), Nat.succ_sub done]
  rcases Nat.lt_or_eq_of_le done with later | rfl
  · rw [timetable_of_lt later] at made
    obtain ⟨seconds, period, same⟩ := Option.map_eq_some_iff.mp made
    cases same
    rw [period, Option.map_some, Option.map_some, Nat.mul_succ, Nat.add_assoc]
  · rw [timetable_of_le (Nat.le_refl _)] at made
    cases made
    simp only [Nat.sub_self, Nat.succ_eq_add_one, Nat.zero_add, Nat.mul_one]

theorem timetable_mono {first second elapsed : Nat} {trigger : Trigger} (order : first ≤ second)
    (made : schedule.timetable wentWell second = some (elapsed, trigger)) :
    ∃ before kind, schedule.timetable wentWell first = some (before, kind) ∧ before ≤ elapsed := by
  rcases Nat.lt_or_ge (schedule.lastAttempt wentWell) second with later | attempt
  · rw [timetable_of_lt later] at made
    obtain ⟨seconds, period, same⟩ := Option.map_eq_some_iff.mp made
    cases same
    rcases Nat.lt_or_ge (schedule.lastAttempt wentWell) first with late | early
    · refine ⟨_, _, by rw [timetable_of_lt late, period, Option.map_some], ?_⟩
      exact Nat.add_le_add_left (Nat.mul_le_mul_left _ (Nat.sub_le_sub_right order _)) _
    · refine ⟨_, _, timetable_of_le early, ?_⟩
      exact (Nat.mul_le_mul_left _ early).trans (Nat.le_add_right _ _)
  · rw [timetable_of_le attempt] at made
    cases made
    exact ⟨_, _, timetable_of_le (order.trans attempt), Nat.mul_le_mul_left _ order⟩

end SyncSchedule

/-! ### What a loop does next -/

namespace LoopPhase

variable {schedule : SyncSchedule} {wentWell : Nat → Bool} {start n elapsed : Nat}
  {trigger : Trigger}

def scheduled (schedule : SyncSchedule) (wentWell : Nat → Bool) (start n : Nat) : LoopPhase :=
  match schedule.timetable wentWell n with
  | some (elapsed, .initial) => initial n (start + elapsed)
  | some (elapsed, .periodic) | some (elapsed, .manual) => periodic (start + elapsed)
  | none => finished

theorem scheduled_due? (schedule : SyncSchedule) (wentWell : Nat → Bool) (start n : Nat) :
    (scheduled schedule wentWell start n).due? =
      (schedule.timetable wentWell n).map (start + ·.1) := by
  unfold scheduled
  split <;> simp_all [due?]

theorem scheduled_of_le (start : Nat)
    (made : schedule.timetable wentWell n = some (elapsed, trigger))
    (attempt : n ≤ schedule.lastAttempt wentWell) :
    trigger = .initial ∧ scheduled schedule wentWell start n = initial n (start + elapsed) := by
  unfold scheduled
  rw [SyncSchedule.timetable_of_le attempt] at made ⊢
  cases made
  exact ⟨rfl, rfl⟩

theorem scheduled_of_lt (start : Nat)
    (made : schedule.timetable wentWell n = some (elapsed, trigger))
    (later : schedule.lastAttempt wentWell < n) :
    trigger = .periodic ∧ scheduled schedule wentWell start n = periodic (start + elapsed) := by
  unfold scheduled
  rw [SyncSchedule.timetable_of_lt later] at made ⊢
  obtain ⟨seconds, period, same⟩ := Option.map_eq_some_iff.mp made
  cases same
  rw [period]
  exact ⟨rfl, rfl⟩

private theorem scheduled_trigger (made : schedule.timetable wentWell n = some (elapsed, trigger)) :
    (scheduled schedule wentWell start n).trigger = trigger := by
  rcases Nat.lt_or_ge (schedule.lastAttempt wentWell) n with later | attempt
  · obtain ⟨rfl, next⟩ := scheduled_of_lt start made later
    rw [next]
    rfl
  · obtain ⟨rfl, next⟩ := scheduled_of_le start made attempt
    rw [next]
    rfl

private theorem nextPeriod_scheduled (made : schedule.timetable wentWell n = some (elapsed, trigger))
    (done : schedule.lastAttempt wentWell ≤ n) :
    nextPeriod schedule (start + elapsed) = scheduled schedule wentWell start (n + 1) := by
  unfold nextPeriod scheduled
  rw [SyncSchedule.timetable_succ_of_le made done]
  cases schedule.period with
  | none => rfl
  | some seconds => exact congrArg periodic (Nat.add_assoc _ _ _)

theorem after_scheduled (made : schedule.timetable wentWell n = some (elapsed, trigger)) :
    (scheduled schedule wentWell start n).after schedule (start + elapsed) (wentWell n) =
      scheduled schedule wentWell start (n + 1) := by
  rcases Nat.lt_trichotomy n (schedule.lastAttempt wentWell) with more | last | later
  · have failed := SyncSchedule.failed_of_lt_lastAttempt more
    have left : n < schedule.retries := Nat.lt_of_lt_of_le more (schedule.lastAttempt_le wentWell)
    have goesOn : ¬ (wentWell n || schedule.retries ≤ n) = true := by simp [failed, left]
    have next := SyncSchedule.timetable_succ_of_lt made more
    rw [(scheduled_of_le start made (Nat.le_of_lt more)).2, (scheduled_of_le start next more).2, after,
      if_neg goesOn, Nat.add_assoc]
  · have done : (wentWell n || schedule.retries ≤ n) = true := by
      rcases Nat.lt_or_ge n schedule.retries with left | used
      · rw [last] at left ⊢
        rw [SyncSchedule.wentWell_lastAttempt left, Bool.true_or]
      · simp [used]
    rw [(scheduled_of_le start made (Nat.le_of_eq last)).2, after, if_pos done]
    exact nextPeriod_scheduled made (Nat.le_of_eq last.symm)
  · rw [(scheduled_of_lt start made later).2, after]
    exact nextPeriod_scheduled made (Nat.le_of_lt later)

end LoopPhase

namespace SyncLoops

section

variable {context : Context} {key : ObjectKey} {rate : Rate} {wentWell : Nat → Bool}
  {now start stop count : Nat} {loops after final : SyncLoops} {event : LoopEvent}
  {events : List (Nat × LoopEvent)}

/-- At a time a loop has made so many ticks of the timetable, and is not late for the next one. -/
structure Follows (key : ObjectKey) (rate : Rate) (wentWell : Nat → Bool) (start count now : Nat)
    (loops : SyncLoops) : Prop where
  plan : (Registry.find? key loops).map SyncLoop.plan =
    some (rate, .scheduled rate.schedule wentWell start count)
  intime : ∀ elapsed trigger, rate.schedule.timetable wentWell count = some (elapsed, trigger) →
    now ≤ start + elapsed

private theorem Changes.follows_tick {tick : Tick} (changes : Changes context now loops event after)
    (follows : Follows key rate wentWell start count now loops) (ticks : event.tick? key = some tick)
    (outcome : tick.result.isOk = wentWell count) :
    Follows key rate wentWell start (count + 1) now after ∧
      ∃ elapsed, rate.schedule.timetable wentWell count = some (elapsed, tick.trigger) ∧
        now = start + elapsed := by
  obtain ⟨loop, next, due, found, present, timely, kind, known, planned⟩ := changes.of_tick ticks
  obtain ⟨plan, intime⟩ := follows
  rw [found, Option.map_some, Option.some.injEq] at plan
  obtain ⟨sameRate, samePhase⟩ := Prod.mk.inj plan
  rw [samePhase, LoopPhase.scheduled_due?] at present
  obtain ⟨⟨elapsed, trigger⟩, made, rfl⟩ := Option.map_eq_some_iff.mp present
  obtain rfl : now = start + elapsed := Nat.le_antisymm (intime elapsed trigger made) timely
  rw [samePhase, LoopPhase.scheduled_trigger made] at kind
  rw [sameRate, samePhase, outcome, LoopPhase.after_scheduled made] at planned
  refine ⟨⟨?_, ?_⟩, elapsed, ?_, rfl⟩
  · rw [known, Option.map_some, planned]
  · intro following other next
    obtain ⟨before, _, again, earlier⟩ := SyncSchedule.timetable_mono (Nat.le_succ count) next
    rw [made] at again
    cases again
    exact Nat.add_le_add_left earlier start
  · rw [kind]
    exact made

/-- Until it is stopped or started again a loop makes the ticks of its timetable. -/
theorem Passes.follows (passes : Passes context now loops events stop final)
    (follows : Follows key rate wentWell start count now loops)
    (alone : ∀ entry ∈ events, ¬ entry.2.IsStart key ∧ ¬ entry.2.IsStop key)
    (outcomes : ∀ n time tick, (ticksOf key events)[n]? = some (time, tick) →
      tick.result.isOk = wentWell (count + n)) :
    Follows key rate wentWell start (count + (ticksOf key events).length) stop final ∧
      ∀ n time tick, (ticksOf key events)[n]? = some (time, tick) →
        ∃ elapsed, rate.schedule.timetable wentWell (count + n) = some (elapsed, tick.trigger) ∧
          time = start + elapsed := by
  induction passes generalizing count with
  | rests => exact ⟨follows, fun n time tick made => by simp [ticksOf] at made⟩
  | @waits now later stop loops final events ahead idle rest ih =>
      refine ih ⟨follows.plan, ?_⟩ alone outcomes
      intro elapsed trigger made
      obtain ⟨loop, found, plan⟩ := Option.map_eq_some_iff.mp follows.plan
      refine idle key loop _ found ?_
      rw [(Prod.mk.inj plan).2, LoopPhase.scheduled_due?, made, Option.map_some]
  | @happens now stop loops after final event events changes rest ih =>
      obtain ⟨head, others⟩ := List.forall_mem_cons.mp alone
      cases ticks : event.tick? key with
      | none =>
          rw [ticksOf_cons_of_other ticks] at outcomes ⊢
          refine ih ⟨?_, follows.intime⟩ others outcomes
          rw [changes.keeps_plan ticks head.1 head.2, follows.plan]
      | some tick =>
          rw [ticksOf_cons_of_tick ticks] at outcomes ⊢
          obtain ⟨next, made⟩ := changes.follows_tick follows ticks (outcomes 0 now tick rfl)
          have counted (n : Nat) : count + 1 + n = count + (n + 1) := by omega
          obtain ⟨last, later⟩ := ih next others fun n time turn place => by
            rw [counted]
            exact outcomes (n + 1) time turn place
          rw [List.length_cons, ← counted]
          refine ⟨last, ?_⟩
          intro n time turn place
          cases n with
          | zero =>
              cases place
              exact made
          | succ n =>
              rw [← counted]
              exact later n time turn place

private theorem follows_fresh (context : Context) (subscription : Subscription) (wentWell : Nat → Bool)
    (start : Nat) (loops : SyncLoops) :
    Follows subscription.key (.ofText subscription.rateText?) wentWell start 0 start
      (Registry.set subscription.key (.fresh context subscription start) loops) := by
  have plan : (SyncLoop.fresh context subscription start).plan =
      (.ofText subscription.rateText?, .initial 0 start) := by
    simp only [SyncLoop.plan, SyncLoop.fresh, SyncItem.ofSubscription]
  constructor
  · rw [Registry.find?_set_self, Option.map_some, plan]
    generalize Rate.ofText subscription.rateText? = rate
    have first : rate.schedule.timetable wentWell 0 = some (0, .initial) := by
      rw [SyncSchedule.timetable_of_le (Nat.zero_le _), Nat.mul_zero]
    rw [(LoopPhase.scheduled_of_le start first (Nat.zero_le _)).2, Nat.add_zero]
  · intro elapsed trigger made
    exact Nat.le_add_right start elapsed

/-- Up to a time at which no tick is due, a loop has made the ticks of its timetable before that. -/
theorem Passes.ticksOf_eq (passes : Passes context now loops events stop final)
    (follows : Follows key rate wentWell start 0 now loops)
    (alone : ∀ entry ∈ events, ¬ entry.2.IsStart key ∧ ¬ entry.2.IsStop key)
    (outcomes : ∀ n time tick, (ticksOf key events)[n]? = some (time, tick) →
      tick.result.isOk = wentWell n)
    (between : ∀ n elapsed trigger, rate.schedule.timetable wentWell n = some (elapsed, trigger) →
      start + elapsed ≠ stop) (n : Nat) :
    ((ticksOf key events)[n]?).map (fun made => (made.1, made.2.trigger)) =
      ((rate.schedule.timetable wentWell n).map fun entry => (start + entry.1, entry.2)).filter
        fun entry => entry.1 < stop := by
  obtain ⟨last, made⟩ := passes.follows follows alone fun n time tick place => by
    rw [Nat.zero_add]
    exact outcomes n time tick place
  simp only [Nat.zero_add] at last made
  cases place : (ticksOf key events)[n]? with
  | some entry =>
      obtain ⟨time, tick⟩ := entry
      obtain ⟨elapsed, scheduled, rfl⟩ := made n time tick place
      obtain ⟨event, member⟩ := mem_of_ticksOf (List.mem_of_getElem? place)
      have early : start + elapsed < stop :=
        Nat.lt_of_le_of_ne (passes.time_le _ member) (between n elapsed tick.trigger scheduled)
      simp [Option.filter, scheduled, early]
  | none =>
      have enough : (ticksOf key events).length ≤ n := List.getElem?_eq_none_iff.mp place
      cases scheduled : rate.schedule.timetable wentWell n with
      | none => rfl
      | some entry =>
          obtain ⟨elapsed, trigger⟩ := entry
          -- the loop is not late for the tick after those that it made
          obtain ⟨before, kind, next, sooner⟩ := SyncSchedule.timetable_mono enough scheduled
          have intime : stop ≤ start + before := last.intime before kind next
          have late : ¬ start + elapsed < stop := by omega
          simp [Option.filter, late]

/-- A loop that was started can be given any answers, whatever time passes. Until it is stopped it
makes just the ticks of its timetable, and after that it makes none. -/
theorem keeps_timetable {subscription : Subscription} {restart : Bool}
    (began : (loops.start context subscription restart start).1 = true) :
    (∀ (answers : Nat → (request : Request) → request.Reply) (stop : Nat), start ≤ stop →
      ∃ events final,
        Passes context start (loops.start context subscription restart start).2 events stop final ∧
        (∀ entry ∈ events, ∃ name tick, entry.2 = .ticks name tick) ∧
        ∀ n time tick, (ticksOf subscription.key events)[n]? = some (time, tick) →
          ∀ entry ∈ tick.log, entry.2 = answers n entry.1) ∧
    ∀ (wentWell : Nat → Bool) (earlier later : List (Nat × LoopEvent)) (stop ending : Nat)
      (final : SyncLoops),
      Passes context start (loops.start context subscription restart start).2
        (earlier ++ (stop, .stops subscription.key) :: later) ending final →
      (∀ entry ∈ earlier, ¬ entry.2.IsStart subscription.key ∧ ¬ entry.2.IsStop subscription.key) →
      (∀ entry ∈ later, ¬ entry.2.IsStart subscription.key) →
      (∀ n elapsed trigger,
        (Rate.ofText subscription.rateText?).schedule.timetable wentWell n = some (elapsed, trigger) →
          start + elapsed ≠ stop) →
      (∀ n time tick,
        (ticksOf subscription.key (earlier ++ (stop, .stops subscription.key) :: later))[n]? =
          some (time, tick) → tick.result.isOk = wentWell n) →
      ∀ n, ((ticksOf subscription.key
          (earlier ++ (stop, .stops subscription.key) :: later))[n]?).map
            (fun made => (made.1, made.2.trigger)) =
        (((Rate.ofText subscription.rateText?).schedule.timetable wentWell n).map
          fun entry => (start + entry.1, entry.2)).filter fun entry => entry.1 < stop := by
  constructor
  · intro answers stop ahead
    exact exists_passes subscription.key answers ahead
  · intro wentWell earlier later stop ending final passes alone unstarted between outcomes
    have fresh : (loops.start context subscription restart start).2 =
        Registry.set subscription.key (.fresh context subscription start) loops := by
      rcases start_cases context subscription restart start loops with same | same
      · rw [same] at began
        cases began
      · rw [same]
    rw [fresh] at passes
    obtain ⟨standing, stopped, before, changes, behind⟩ := passes.split
    have absent : Registry.find? subscription.key stopped = none := by
      cases changes with
      | stops => exact Registry.find?_erase_self _ _
    have whole : ticksOf subscription.key
        (earlier ++ (stop, .stops subscription.key) :: later) = ticksOf subscription.key earlier := by
      have silent : (LoopEvent.stops subscription.key).tick? subscription.key = none := rfl
      rw [ticksOf_append, ticksOf_cons_of_other silent, behind.ticksOf_absent absent unstarted,
        List.append_nil]
    rw [whole] at outcomes ⊢
    exact before.ticksOf_eq (follows_fresh context subscription wentWell start loops) alone
      outcomes between

end

/-! ### A subscription that is not there -/

namespace AbsentSubscription

def context : Context := { settings := Settings.standard, isNamespaced := fun _ => true }

def subscription : Subscription :=
  { metadata := { name := some "web", space := some "apps" }
    spec := ⟨"repo", none, none, none, [], none, none, none, [], []⟩
    status := none }

def key : ObjectKey := subscription.key

def loopIn (phase : LoopPhase) : SyncLoop :=
  { SyncLoop.fresh context subscription 0 with phase := phase }

def loopsIn (phase : LoopPhase) : SyncLoops := [(key, loopIn phase)]

theorem rate : Rate.ofText subscription.rateText? = .medium := by decide +kernel

def tick (trigger : Trigger) : Tick :=
  ⟨trigger, [⟨.subscription key, .ok none⟩, ⟨.time, ⟨0, 0⟩⟩],
    .error (.notFound ("subscription " ++ key.text))⟩

theorem found (phase : LoopPhase) : Registry.find? key (loopsIn phase) = some (loopIn phase) :=
  if_pos rfl

private theorem turns {phase : LoopPhase} {due : Nat} (present : phase.due? = some due) :
    Changes context due (loopsIn phase) (.ticks key (tick phase.trigger))
      (loopsIn (phase.after Rate.medium.schedule due false)) := by
  have ran : Ends ((loopIn phase).item.run context phase.trigger) (tick phase.trigger).log
      ((tick phase.trigger).result, (loopIn phase).item) := .ask (.ask (.done _))
  have stepped : Ends ((loopIn phase).step context due) (tick phase.trigger).log
      (loopIn (phase.after Rate.medium.schedule due false)) := by
    refine SyncLoop.step_ends_iff.mpr ⟨_, _, ran, ?_⟩
    have same : (loopIn phase).item.rate = .medium := rate
    rw [same]
    rfl
  have kept : Registry.set key (loopIn (phase.after Rate.medium.schedule due false))
      (loopsIn phase) = loopsIn (phase.after Rate.medium.schedule due false) := if_pos rfl
  rw [← kept]
  exact .ticks (found phase) present (Nat.le_refl due) rfl ran stepped

private theorem idle {phase : LoopPhase} {later due : Nat} (present : phase.due? = some due)
    (early : later ≤ due) : IdleUntil later (loopsIn phase) := by
  intro name loop other known pending
  by_cases same : key = name
  · subst same
    cases (found phase).symm.trans known
    cases present.symm.trans pending
    exact early
  · have missing : Registry.find? name (loopsIn phase) = none := if_neg same
    cases missing.symm.trans known

def events : List (Nat × LoopEvent) :=
  [(0, .ticks key (tick .initial)), (90000, .ticks key (tick .initial)),
    (270000, .ticks key (tick .periodic))]

private theorem passes :
    Passes context 0 (loopsIn (.initial 0 0)) (events ++ [(300000, .stops key)]) 600000 [] := by
  have stopped : Passes context 300000 (loopsIn (.periodic 450000)) [(300000, .stops key)]
      600000 [] := by
    have gone : Registry.erase key (loopsIn (.periodic 450000)) = [] := if_pos rfl
    have nothing : IdleUntil 600000 [] := by
      intro name loop due known
      cases known
    have changes : Changes context 300000 (loopsIn (.periodic 450000)) (.stops key) [] := by
      rw [← gone]
      exact .stops _ key
    exact .happens changes (.waits (by decide) nothing (.rests _ _))
  exact .happens (turns rfl) (.waits (by decide) (idle rfl (Nat.le_refl 90000)) (.happens (turns rfl)
    (.waits (by decide) (idle rfl (Nat.le_refl 270000)) (.happens (turns rfl)
      (.waits (by decide) (idle rfl (show 300000 ≤ 450000 by decide)) stopped)))))

/-- Two attempts and one period, and nothing after the stop. -/
theorem attempts_twice :
    (start context subscription false 0 []).1 = true ∧
      Passes context 0 (start context subscription false 0 []).2
        (events ++ [(300000, .stops subscription.key)]) 600000 [] ∧
      ∀ n, ((ticksOf subscription.key (events ++ [(300000, .stops subscription.key)]))[n]?).map
          (fun made => (made.1, made.2.trigger)) =
        (((Rate.ofText subscription.rateText?).schedule.timetable (fun _ => false) n).map
          fun entry => (0 + entry.1, entry.2)).filter fun entry => entry.1 < 300000 := by
  have began : (start context subscription false 0 []).1 = true := rfl
  have passes : Passes context 0 (start context subscription false 0 []).2
      (events ++ [(300000, .stops subscription.key)]) 600000 [] := passes
  refine ⟨began, passes, ?_⟩
  refine (keeps_timetable began).2 (fun _ => false) events [] 300000 600000 [] passes ?_ ?_ ?_ ?_
  · intro entry member
    simp only [events, List.mem_cons, List.not_mem_nil, or_false] at member
    rcases member with rfl | rfl | rfl <;> exact ⟨id, id⟩
  · intro entry member
    cases member
  · intro n elapsed trigger made
    rw [rate] at made
    have last : Rate.medium.schedule.lastAttempt (fun _ => false) = 1 := by decide
    rcases Nat.lt_or_ge 1 n with later | attempt
    · rw [SyncSchedule.timetable_of_lt (by rwa [last]), last] at made
      cases made
      simp only [Rate.schedule]
      omega
    · rw [SyncSchedule.timetable_of_le (by rwa [last])] at made
      cases made
      simp only [Rate.schedule]
      omega
  · intro n time made place
    have member : (time, made) ∈ [(0, tick .initial), (90000, tick .initial),
        (270000, tick .periodic)] := List.mem_of_getElem? place
    simp only [List.mem_cons, List.not_mem_nil, or_false, Prod.mk.injEq] at member
    rcases member with ⟨_, rfl⟩ | ⟨_, rfl⟩ | ⟨_, rfl⟩ <;> rfl

end AbsentSubscription

end SyncLoops

end GitDelivery
