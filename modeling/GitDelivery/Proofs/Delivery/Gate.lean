import GitDelivery.Proofs.Delivery.Outside
import GitDelivery.Proofs.Delivery.Pass

set_option autoImplicit false

/-! The gate before deployments: a loop of the generation that is stored was started after all jobs
before the deployment had succeeded that were made for this generation. Passes keep that, whatever
revision they are given and wherever they fail. -/

namespace GitDelivery.Delivery

open Dialogue Work Outside

variable {context : Context} {history : Log} {early late : Outside} {key : ObjectKey}

/-- All jobs before the deployment of a generation are known, and have succeeded. -/
def GateOpen (context : Context) (history : Log) (hooks : HookRecords) (outside : Outside)
    (key : ObjectKey) (generation : Int) : Prop :=
  ∃ record, Registry.find? key hooks = some record ∧
    record.DerivedFor context history key generation ∧
    ∀ job ∈ record.pre.latest, outside.Succeeded job.key

namespace GateOpen

variable {hooks : HookRecords} {generation : Int}

private theorem later (gate : GateOpen context history hooks early key generation)
    (evolves : Evolves early late) :
    GateOpen context history hooks late key generation := by
  obtain ⟨record, found, derived, succeeded⟩ := gate
  exact ⟨record, found, derived, fun job member => evolves.jobs job.key (succeeded job member)⟩

/-- The jobs that were asked for are those of the record that was derived for the generation. -/
theorem of_succeeded {after : HookRecords} {record : HookRecord}
    (found : Registry.find? key hooks = some record)
    (derived : record.DerivedFor context history key generation)
    (same : HookRecords.SameDemands hooks after)
    (succeeded : ∀ next, Registry.find? key after = some next →
      ∀ job ∈ next.pre.latest, early.Succeeded job.key) :
    GateOpen context history after early key generation := by
  obtain ⟨next, present, demand⟩ := same.find found
  exact ⟨next, present, derived.congr demand, succeeded next present⟩

private theorem sameDemands {after : HookRecords}
    (gate : GateOpen context history hooks early key generation)
    (same : HookRecords.SameDemands hooks after) :
    GateOpen context history after early key generation := by
  obtain ⟨record, found, derived, succeeded⟩ := gate
  refine of_succeeded found derived same ?_
  intro next present job member
  obtain ⟨other, there, demand⟩ := same.find found
  obtain rfl : next = other := Option.some.inj (present.symm.trans there)
  have jobs : next.pre.current = record.pre.current := congrArg (·.2.1) demand
  unfold JobLedger.latest at member
  rw [jobs] at member
  exact succeeded job member

end GateOpen

def StoredGeneration (outside : Outside) (key : ObjectKey) (generation : Int) : Prop :=
  ∃ stored, outside.subscription? key = some stored ∧ stored.metadata.generation = some generation

namespace StoredGeneration

variable {current generation : Int}

theorem later (stored : StoredGeneration early key generation) (evolves : Evolves early late) :
    ∃ next, StoredGeneration late key next ∧ generation ≤ next := by
  obtain ⟨older, there, numbered⟩ := stored
  obtain ⟨newer, present, revises⟩ := evolves.subscriptions key older there
  obtain ⟨first, second, firstIs, secondIs, lower⟩ := revises.generation
  obtain rfl : generation = first := Option.some.inj (numbered.symm.trans firstIs)
  exact ⟨second, ⟨newer, present, secondIs⟩, lower⟩

theorem unique (one : StoredGeneration early key current)
    (other : StoredGeneration early key generation) : current = generation := by
  obtain ⟨stored, there, numbered⟩ := one
  obtain ⟨stored', there', numbered'⟩ := other
  obtain rfl : stored = stored' := Option.some.inj (there.symm.trans there')
  exact Option.some.inj (numbered.symm.trans numbered')

/-- A generation that was reached before and is stored after is stored all the time. -/
theorem between {middle : Outside} (before : StoredGeneration early key current)
    (reached : generation ≤ current) (after : StoredGeneration late key generation)
    (first : Evolves early middle) (last : Evolves middle late) :
    StoredGeneration middle key generation := by
  obtain ⟨next, storedNext, above⟩ := before.later first
  obtain ⟨highest, storedLast, higher⟩ := storedNext.later last
  have same := after.unique storedLast
  have unchanged : next = generation := by omega
  subst unchanged
  exact storedNext

end StoredGeneration

/-- A loop was started for a generation that was stored at an early time, and if that is still the
one stored at a late time, the gate is open then. -/
structure LoopSound (context : Context) (history : Log) (hooks : HookRecords) (early late : Outside)
    (key : ObjectKey) (loop : SyncLoop) : Prop where
  named : loop.item.key = key
  started : ∃ generation current, loop.generation = some generation ∧
    StoredGeneration early key current ∧ generation ≤ current
  gate : ∀ generation, loop.generation = some generation → StoredGeneration late key generation →
    GateOpen context history hooks late key generation

theorem LoopSound.stored_between {hooks : HookRecords} {loop : SyncLoop} {middle : Outside}
    {generation : Int} (sound : LoopSound context history hooks early late key loop)
    (numbered : loop.generation = some generation) (stored : StoredGeneration late key generation)
    (first : Evolves early middle) (last : Evolves middle late) :
    StoredGeneration middle key generation := by
  obtain ⟨number, current, started, there, lower⟩ := sound.started
  obtain rfl : generation = number := Option.some.inj (numbered.symm.trans started)
  exact there.between lower stored first last

def Asked (outside : Outside) (revision : Subscription) : Prop :=
  ∃ stored, outside.subscription? revision.key = some stored ∧ Revises revision stored

/-- Every loop is sound, and every record with a generation was derived for it. -/
structure Sound (context : Context) (history : Log) (early late : Outside)
    (controller : Controller) : Prop where
  loops : ∀ key loop, Registry.find? key controller.loops = some loop →
    LoopSound context history controller.hooks early late key loop
  records : ∀ key record generation, Registry.find? key controller.hooks = some record →
    record.generation = some generation → record.DerivedFor context history key generation

namespace Sound

variable {controller after : Controller} {revision : Subscription} {log : Log}

theorem initial (context : Context) (history : Log) (early late : Outside) :
    Sound context history early late {} := by
  constructor
  · intro key loop found
    cases found
  · intro key record generation found
    cases found

/-! ### While time passes -/

/-- The gate of a loop stays open, or the loop becomes outdated. -/
theorem later {latest : Outside} (sound : Sound context history early late controller)
    (meanwhile : Evolves early late) (evolves : Evolves late latest) :
    Sound context history early latest controller := by
  refine ⟨?_, sound.records⟩
  intro key loop found
  have loopSound := sound.loops key loop found
  refine ⟨loopSound.named, loopSound.started, ?_⟩
  intro generation numbered stored
  obtain ⟨number, current, started, there, lower⟩ := loopSound.started
  obtain rfl : generation = number := Option.some.inj (numbered.symm.trans started)
  exact (loopSound.gate generation numbered
    (there.between lower stored meanwhile evolves)).later evolves

theorem settled (sound : Sound context history early late controller)
    (evolves : Evolves early late) :
    Sound context history late late controller := by
  refine ⟨?_, sound.records⟩
  intro key loop found
  have loopSound := sound.loops key loop found
  obtain ⟨number, current, numbered, there, lower⟩ := loopSound.started
  obtain ⟨next, storedNext, above⟩ := there.later evolves
  exact ⟨loopSound.named, ⟨number, next, numbered, storedNext, Int.le_trans lower above⟩,
    loopSound.gate⟩

/-! ### While nothing is decided -/

theorem steady (sound : Sound context history early late controller)
    (same : Pass.Steady controller after) :
    Sound context history early late after := by
  obtain ⟨sameLoops, demands⟩ := same
  constructor
  · intro key loop found
    rw [sameLoops] at found
    have loopSound := sound.loops key loop found
    exact ⟨loopSound.named, loopSound.started, fun generation numbered stored =>
      (loopSound.gate generation numbered stored).sameDemands demands⟩
  · intro key record generation found numbered
    obtain ⟨older, present, demand⟩ := demands.find_before found
    have sameGeneration : older.generation = record.generation := congrArg Prod.fst demand
    exact (sound.records key older generation present (sameGeneration.trans numbered)).congr
      demand.symm

private theorem eraseLoop (sound : Sound context history early late controller) (key : ObjectKey) :
    Sound context history early late
      { controller with loops := Registry.erase key controller.loops } := by
  refine ⟨?_, sound.records⟩
  intro other loop found
  exact sound.loops other loop (Registry.find?_of_erase found)

private theorem teardown (sound : Sound context history early late controller) (key : ObjectKey) :
    Sound context history early late (controller.teardown key) := by
  constructor
  · intro other loop found
    by_cases same : other = key
    · subst same
      cases (Registry.find?_erase_self other controller.loops).symm.trans found
    · have loopSound := sound.loops other loop (Registry.find?_of_erase found)
      refine ⟨loopSound.named, loopSound.started, ?_⟩
      intro generation numbered stored
      obtain ⟨record, present, gate⟩ := loopSound.gate generation numbered stored
      exact ⟨record, (Registry.find?_erase_of_ne same _).trans present, gate⟩
  · intro other record generation found
    exact sound.records other record generation (Registry.find?_of_erase found)

/-! ### Looking for templates -/

private theorem record_derivedFor (sound : Sound context history early late controller)
    (key : ObjectKey) :
    ∀ generation, ((Registry.find? key controller.hooks).getD {}).generation = some generation →
      ((Registry.find? key controller.hooks).getD {}).DerivedFor context history key
        generation :=
  HookRecords.numbered_getD (sound.records key)

theorem register {hooks : HookRecords} {result : Except HookError Unit}
    (sound : Sound context history early late controller)
    (happened : Happened history early late log)
    (ended : Ends (HookRecords.register context key controller.hooks) log (result, hooks)) :
    Sound context history early late { controller with hooks := hooks } := by
  rcases HookRecords.register_cases ended with
    ⟨rfl, _⟩ | ⟨rfl, _⟩ | ⟨stored, record, looking, refreshing, rfl, read, looked, refreshed, rfl⟩
  · exact sound
  · exact sound
  · obtain ⟨between, first, last, there⟩ := happened.answered.subscription read
    constructor
    · intro other loop found
      have loopSound := sound.loops other loop found
      refine ⟨loopSound.named, loopSound.started, ?_⟩
      intro generation numbered storedLate
      have gate := loopSound.gate generation numbered storedLate
      by_cases same : other = key
      · -- The loop's generation is the one that was read, so the record is left as it is.
        subst same
        obtain ⟨present, here, readNumber⟩ :=
          loopSound.stored_between numbered storedLate first last
        obtain rfl : stored = present := Option.some.inj (there.symm.trans here)
        obtain ⟨old, known, derived, succeeded⟩ := gate
        rw [known] at refreshed
        obtain rfl := HookRecord.refresh_current refreshed derived.numbered readNumber
        exact ⟨record, Registry.find?_set_self other record _, derived, succeeded⟩
      · obtain ⟨old, known, gate⟩ := gate
        exact ⟨old, (Registry.find?_set_of_ne same record _).trans known, gate⟩
    · have fresh := HookRecord.refresh_derivedFor happened.inside looked refreshed
        (sound.record_derivedFor key)
      intro other next generation found
      exact Registry.forall_set fresh
        (fun name older _ present number => sound.records name older number present) other next found
        generation

/-- Once templates were looked for, and the generation of the pass's revision is still stored, the
record is of this generation. -/
theorem register_derivedFor {hooks : HookRecords} {channel : Channel} {generation : Int}
    (sound : Sound context history early late controller)
    (happened : Happened history early late log)
    (asked : Asked early revision) (present : early.channel? revision.channelKey = some channel)
    (git : channel.isGit = true)
    (ended : Ends (HookRecords.register context revision.key controller.hooks) log (.ok (), hooks))
    (numbered : revision.metadata.generation = some generation)
    (storedLate : StoredGeneration late revision.key generation) :
    ∃ record, Registry.find? revision.key hooks = some record ∧
      record.DerivedFor context history revision.key generation := by
  obtain ⟨first, there, revises⟩ := asked
  have unchanged {middle : Outside} {stored : Subscription} (before : Evolves early middle)
      (after : Evolves middle late) (read : middle.subscription? revision.key = some stored) :
      stored.metadata.generation = some generation ∧ Revises revision stored := by
    obtain ⟨newer, present, newest⟩ := before.subscriptions revision.key first there
    obtain rfl : stored = newer := Option.some.inj (read.symm.trans present)
    obtain ⟨low, current, lowIs, currentIs, lower⟩ := revises.generation
    obtain rfl : generation = low := Option.some.inj (numbered.symm.trans lowIs)
    obtain ⟨same, here, sameGeneration⟩ :=
      StoredGeneration.between ⟨first, there, currentIs⟩ lower storedLate before after
    obtain rfl : stored = same := Option.some.inj (read.symm.trans here)
    exact ⟨sameGeneration, revises.trans newest⟩
  rcases HookRecords.register_cases ended with
    ⟨_, error, impossible⟩ | ⟨_, _, absent | ⟨stored, found, read, channelRead, other⟩⟩ |
      ⟨stored, record, looking, refreshing, rfl, read, looked, refreshed, rfl⟩
  · cases impossible
  · obtain ⟨middle, before, _, none⟩ := happened.answered.subscription absent
    obtain ⟨newer, present, _⟩ := before.subscriptions revision.key first there
    cases none.symm.trans present
  · -- The same generation has the same channel, and that is a Git repository.
    obtain ⟨middle, before, after, stored⟩ := happened.answered.subscription read
    obtain ⟨sameGeneration, newest⟩ := unchanged before after stored
    rw [newest.channelKey (sameGeneration.trans numbered.symm)] at channelRead
    obtain rfl := present.symm.trans (happened.answered.channel channelRead)
    cases git.symm.trans other
  · obtain ⟨middle, before, after, there⟩ := happened.answered.subscription read
    obtain ⟨sameGeneration, _⟩ := unchanged before after there
    have current := (HookRecord.refresh_generation refreshed).trans sameGeneration
    exact ⟨record, Registry.find?_set_self revision.key record _,
      HookRecord.refresh_derivedFor happened.inside looked refreshed
        (sound.record_derivedFor revision.key) generation current⟩

/-! ### Passes -/

theorem startLoop {loop : SyncLoop} (sound : Sound context history early late controller)
    (named : loop.item.key = key)
    (started : ∃ generation current, loop.generation = some generation ∧
      StoredGeneration early key current ∧ generation ≤ current)
    (gate : ∀ generation, loop.generation = some generation → StoredGeneration late key generation →
      GateOpen context history controller.hooks late key generation) :
    Sound context history early late
      { controller with loops := Registry.set key loop controller.loops } := by
  refine ⟨Registry.forall_set ⟨named, started, gate⟩ ?_, sound.records⟩
  intro other next _ found
  exact sound.loops other next found

theorem gate {result : Except ReconcileError Bool}
    (sound : Sound context history early late controller)
    (happened : Happened history early late log)
    (runs : Pass.Runs (Pass.gate context key) controller log result after) :
    Sound context history early late after := by
  obtain ⟨_, _, hooks, rfl, ⟨_, ended, _, rfl, _⟩ | ⟨ended, asks⟩⟩ := Pass.gate_cases runs
  · exact sound.register happened.split.1 ended
  · exact (sound.register happened.split.1 ended).steady (Pass.preHooksCompleted_cases asks).1

/-- If the jobs before the deployment are said to be done, the gate is open for the generation that the
pass is made for, provided that it is still stored. -/
theorem gate_open {channel : Channel} {generation : Int}
    (sound : Sound context history early late controller)
    (happened : Happened history early late log)
    (asked : Asked early revision) (present : early.channel? revision.channelKey = some channel)
    (git : channel.isGit = true)
    (runs : Pass.Runs (Pass.gate context revision.key) controller log (.ok true) after)
    (numbered : revision.metadata.generation = some generation)
    (stored : StoredGeneration late revision.key generation) :
    GateOpen context history after.hooks late revision.key generation := by
  obtain ⟨_, _, hooks, rfl, ⟨_, _, _, _, impossible⟩ | ⟨ended, asks⟩⟩ := Pass.gate_cases runs
  · cases impossible
  obtain ⟨happenedEarly, happenedAsking⟩ := happened.split
  obtain ⟨record, found, derived⟩ := sound.register_derivedFor happenedEarly asked present git ended
    numbered stored
  obtain ⟨steady, confirmed, _⟩ := Pass.preHooksCompleted_cases asks
  refine .of_succeeded found derived steady.2 ?_
  intro next known job member
  obtain ⟨seen, well, inside⟩ := confirmed rfl next known job member
  exact happenedAsking.answered.job inside well

private theorem ensured (sound : Sound context history early late controller)
    (asked : Asked early revision)
    (gate : ∀ generation, revision.metadata.generation = some generation →
      StoredGeneration late revision.key generation →
      GateOpen context history controller.hooks late revision.key generation) (now : Nat) :
    Sound context history early late
      { controller with loops := controller.loops.ensured context revision now } := by
  unfold SyncLoops.ensured
  split
  · exact sound
  · refine sound.startLoop rfl ?_ gate
    obtain ⟨first, there, revises⟩ := asked
    obtain ⟨low, current, lowIs, currentIs, lower⟩ := revises.generation
    exact ⟨low, current, lowIs, ⟨first, there, currentIs⟩, lower⟩

private theorem current (sound : Sound context history early late controller) :
    Sound context history early late
      { controller with loops := controller.loops.current revision } := by
  unfold SyncLoops.current
  split
  · exact sound
  · exact sound.eraseLoop revision.key

theorem reconcile {now : Nat} {result : Except ReconcileError NextPass}
    (sound : Sound context history early late controller)
    (happened : Happened history early late log)
    (asked : Asked early revision)
    (runs : Pass.Runs (Pass.reconcile context revision now) controller log result after) :
    Sound context history early late after := by
  cases Pass.reconcile_course runs with
  | deleted => exact sound.teardown revision.key
  | unread => exact sound
  | missing => exact sound
  | foreign => exact sound.teardown revision.key
  | @ungated channel gating _ _ _ git failed =>
      have split : Happened history early late ([_] ++ gating) := happened
      exact sound.gate split.split.2 failed
  | @waits channel gating waiting between _ _ _ git gated awaits =>
      have split : Happened history early late ([_] ++ (gating ++ waiting)) := happened
      exact (sound.gate split.split.2.split.1 gated).current.steady (Pass.await_cases awaits).1
  | @goesOn channel gating concluding between _ _ _ git gated proceeds =>
      have split : Happened history early late
          ([⟨.channel revision.channelKey, .ok (some channel)⟩] ++ (gating ++ concluding)) := happened
      have gating := split.split.2.split.1
      have present := split.split.1.answered.channel List.mem_cons_self
      refine Sound.steady ?_ (Pass.proceed_cases proceeds)
      refine (sound.gate gating gated).ensured asked ?_ now
      intro generation numbered stored
      exact sound.gate_open gating asked present git gated numbered stored

theorem goesOn {longer : Log} (sound : Sound context history early late controller)
    (more : history <:+: longer) : Sound context longer early late controller := by
  constructor
  · intro key loop found
    have loopSound := sound.loops key loop found
    refine ⟨loopSound.named, loopSound.started, ?_⟩
    intro generation numbered stored
    obtain ⟨record, known, derived, succeeded⟩ := loopSound.gate generation numbered stored
    exact ⟨record, known, derived.later more, succeeded⟩
  · intro key record generation found numbered
    exact (sound.records key record generation found numbered).later more

/-- While something is done that changes nothing that is known, the history goes on. -/
theorem meanwhile (sound : Sound context history early early controller)
    (plays : Plays early log late) :
    Sound context (history ++ log) early late controller :=
  (sound.goesOn (List.prefix_append history log).isInfix).later (.refl early)
    plays.meanwhile.evolves

/-- Whatever revision a pass is given, whatever is answered and wherever it fails, every loop is sound
after it if every loop was before. -/
theorem pass {now : Nat} {result : Except ReconcileError NextPass}
    (sound : Sound context history early early controller) (asked : Asked early revision)
    (plays : Plays early log late)
    (ended : Ends (controller.pass context revision now) log (result, after)) :
    Sound context (history ++ log) late late after := by
  have happened : Happened (history ++ log) early late log :=
    ⟨(List.suffix_append history log).isInfix, plays.answered⟩
  exact ((sound.meanwhile plays).reconcile happened asked ended).settled plays.meanwhile.evolves

end Sound

end GitDelivery.Delivery
