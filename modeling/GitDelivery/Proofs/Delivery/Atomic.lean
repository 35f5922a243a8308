import GitDelivery.Proofs.Delivery.Lifecycle
import GitDelivery.Proofs.Delivery.Submission
import GitDelivery.Proofs.Sync.Turns

set_option autoImplicit false

/-! Runs of delivery in which passes and ticks happen at once, and every pass is made for the revision
that is stored. Three things are kept apart then: the generation that jobs were made for, the one that a
loop was started for, and whether the loop's deployments went well. They agree whenever jobs after a
deployment are submitted. -/

namespace GitDelivery.Atomic

open Dialogue Work
open SyncItem (Tick Turns)

/-- What is stored. The generation of a subscription is remembered when it is deleted. -/
structure Store where
  subscription? : ObjectKey → Option Subscription
  channel? : ObjectKey → Option Channel
  generation : ObjectKey → Int
  key : ∀ name stored, subscription? name = some stored → stored.key = name
  numbered : ∀ name stored, subscription? name = some stored →
    stored.metadata.generation = some (generation name)

namespace Store

/-- Edits of what a subscription asks for raise its generation; no edit lowers it. -/
def Precedes (before after : Store) : Prop :=
  ∀ key, before.generation key ≤ after.generation key

/-- A read fails, or gives what is stored. Nothing is said about other requests. -/
def Answers (store : Store) : (request : Request) → request.Reply → Prop
  | .subscription key => fun reply => ∀ found, reply = .ok found → found = store.subscription? key
  | .channel key => fun reply => ∀ found, reply = .ok found → found = store.channel? key
  | _ => fun _ => True

def Tells (store : Store) (log : Log) : Prop :=
  ∀ entry ∈ log, store.Answers entry.1 entry.2

variable {store : Store} {log early late : Log} {key : ObjectKey}

theorem Tells.subscription {found : Option Subscription} (tells : store.Tells log)
    (member : ⟨.subscription key, .ok found⟩ ∈ log) : found = store.subscription? key :=
  tells _ member found rfl

theorem Tells.channel {found : Option Channel} (tells : store.Tells log)
    (member : ⟨.channel key, .ok found⟩ ∈ log) : found = store.channel? key :=
  tells _ member found rfl

theorem Tells.cons {request : Request} {reply : request.Reply}
    (answers : store.Answers request reply) (tells : store.Tells log) :
    store.Tells (⟨request, reply⟩ :: log) :=
  List.forall_mem_cons.mpr ⟨answers, tells⟩

theorem Tells.split (tells : store.Tells (early ++ late)) : store.Tells early ∧ store.Tells late :=
  List.forall_mem_append.mp tells

end Store

/-- What is stored, what is known of all subscriptions, and the ticks that every loop has made since it
was started. -/
structure System where
  store : Store
  controller : Controller
  ticks : ObjectKey → List Tick

namespace System

def initial (store : Store) : System :=
  ⟨store, {}, fun _ => []⟩

/-- The controller has become another. The ticks of loops that were stopped or replaced are forgotten. -/
def become (system : System) (controller : Controller) : System :=
  { system with
    controller := controller
    ticks := fun key =>
      if Registry.find? key controller.loops = Registry.find? key system.controller.loops then
        system.ticks key
      else [] }

def afterTick (system : System) (key : ObjectKey) (loops : SyncLoops) (tick : Tick) : System :=
  { system with
    controller := { system.controller with loops := loops }
    ticks := fun name =>
      if name = key then system.ticks name ++ [tick] else system.ticks name }

end System

/-- What happens at once. An event from outside for which there is no loop changes nothing. A subscription
that is gone is forgotten. -/
inductive Step (context : Context) : System → System → Prop where
  | edit {system : System} {store : Store} (precedes : system.store.Precedes store) :
      Step context system { system with store := store }
  | pass {system : System} {revision : Subscription} {now : Nat} {log : Log}
      {result : Except ReconcileError NextPass} {controller : Controller}
      (current : system.store.subscription? revision.key = some revision)
      (tells : system.store.Tells log)
      (ended : Ends (system.controller.pass context revision now) log (result, controller)) :
      Step context system (system.become controller)
  | forget (system : System) (key : ObjectKey) :
      Step context system (system.become (system.controller.teardown key))
  | failure (system : System) (key : ObjectKey) :
      Step context system
        { system with controller := (system.controller.countFailure context.settings key).2 }
  | tick {system : System} {key : ObjectKey} {loop next : SyncLoop} {now : Nat} {log : Log}
      {result : TickResult} (found : Registry.find? key system.controller.loops = some loop)
      (tells : system.store.Tells log) (ended : Ends (loop.step context now) log next)
      (ran : Ends (loop.item.run context loop.phase.trigger) log (result, next.item)) :
      Step context system (system.afterTick key (Registry.set key next system.controller.loops)
        ⟨loop.phase.trigger, log, result⟩)
  | syncNow {system : System} {key : ObjectKey} {log : Log} {result : TickResult}
      {loops : SyncLoops} (tells : system.store.Tells log)
      (ended : Ends (system.controller.loops.syncNow context key) log (some result, loops)) :
      Step context system (system.afterTick key loops ⟨.manual, log, result⟩)

inductive Run (context : Context) (first : System) : System → Prop where
  | start : Run context first first
  | step {system next : System} (run : Run context first system)
      (step : Step context system next) : Run context first next

section

variable {context : Context} {store : Store} {key : ObjectKey} {log : Log}

/-! ### Records -/

/-- Every record with a generation has the jobs after deployments of this generation. -/
def Recorded (context : Context) (hooks : HookRecords) : Prop :=
  ∀ key record generation, Registry.find? key hooks = some record →
    record.generation = some generation → record.ConcludesFor context key generation

namespace Recorded

variable {before after : HookRecords} {controller next : Controller} {revision : Subscription}

theorem sameDemands (recorded : Recorded context before)
    (same : HookRecords.SameDemands before after) : Recorded context after := by
  intro key record generation found numbered
  obtain ⟨older, present, demand⟩ := same.find_before found
  have sameGeneration : older.generation = record.generation := congrArg Prod.fst demand
  exact (recorded key older generation present (sameGeneration.trans numbered)).congr demand.symm

private theorem register {result : Except HookError Unit} (recorded : Recorded context before)
    (tells : store.Tells log)
    (ended : Ends (HookRecords.register context key before) log (result, after)) :
    Recorded context after := by
  rcases HookRecords.register_cases ended with
    ⟨rfl, _⟩ | ⟨rfl, _⟩ | ⟨stored, record, _, refreshing, _, read, _, refreshed, rfl⟩
  · exact recorded
  · exact recorded
  · have named : stored.key = key := store.key key stored (tells.subscription read).symm
    have fresh := HookRecord.refresh_concludesFor named refreshed
      (HookRecords.numbered_getD (recorded key))
    intro other next generation found
    exact Registry.forall_set fresh
      (fun name older _ present number => recorded name older number present) other next found
      generation

private theorem gate {result : Except ReconcileError Bool}
    (recorded : Recorded context controller.hooks) (tells : store.Tells log)
    (runs : Pass.Runs (Pass.gate context key) controller log result next) :
    Recorded context next.hooks := by
  obtain ⟨_, _, hooks, rfl, ⟨_, ended, _, rfl, _⟩ | ⟨ended, asks⟩⟩ := Pass.gate_cases runs
  · exact recorded.register tells.split.1 ended
  · exact (recorded.register tells.split.1 ended).sameDemands (Pass.preHooksCompleted_cases asks).1.2

theorem erase (recorded : Recorded context before) (key : ObjectKey) :
    Recorded context (Registry.erase key before) :=
  fun other record generation found =>
    recorded other record generation (Registry.find?_of_erase found)

theorem pass {now : Nat} {result : Except ReconcileError NextPass}
    (recorded : Recorded context controller.hooks) (tells : store.Tells log)
    (course : Pass.Course context revision now controller log result next) :
    Recorded context next.hooks := by
  cases course with
  | deleted => exact recorded.erase revision.key
  | unread => exact recorded
  | missing => exact recorded
  | foreign => exact recorded.erase revision.key
  | ungated _ _ failed => exact recorded.gate (List.forall_mem_cons.mp tells).2 failed
  | waits _ _ gated awaits =>
      have gating := (Store.Tells.split (List.forall_mem_cons.mp tells).2).1
      exact (recorded.gate gating gated).sameDemands (Pass.await_cases awaits).1.2
  | goesOn _ _ gated proceeds =>
      have gating := (Store.Tells.split (List.forall_mem_cons.mp tells).2).1
      exact (recorded.gate gating gated).sameDemands (Pass.proceed_cases proceeds).2

end Recorded

/-- If the gate lets a pass for the stored revision through, the record is of its generation: the
templates of any other would have been looked for again. -/
theorem gate_generation {revision : Subscription} {controller between : Controller}
    {channel : Channel} (current : store.subscription? revision.key = some revision)
    (tells : store.Tells log) (present : store.channel? revision.channelKey = some channel)
    (git : channel.isGit = true)
    (runs : Pass.Runs (Pass.gate context revision.key) controller log (.ok true) between) :
    ∃ record, Registry.find? revision.key between.hooks = some record ∧
      record.generation = revision.metadata.generation := by
  obtain ⟨_, _, hooks, rfl, ⟨_, _, _, _, impossible⟩ | ⟨ended, asks⟩⟩ := Pass.gate_cases runs
  · cases impossible
  have tells := tells.split.1
  obtain ⟨record, found, generation⟩ : ∃ record, Registry.find? revision.key hooks = some record ∧
      record.generation = revision.metadata.generation := by
    rcases HookRecords.register_cases ended with
      ⟨_, error, impossible⟩ | ⟨_, _, absent | ⟨stored, found, read, channelRead, other⟩⟩ |
        ⟨stored, record, _, refreshing, _, read, _, refreshed, rfl⟩
    · cases impossible
    · cases (tells.subscription absent).trans current
    · obtain rfl : stored = revision := Option.some.inj ((tells.subscription read).trans current)
      obtain rfl : found = some channel := (tells.channel channelRead).trans present
      cases git.symm.trans other
    · obtain rfl : stored = revision := Option.some.inj ((tells.subscription read).trans current)
      exact ⟨record, Registry.find?_set_self stored.key record _,
        HookRecord.refresh_generation refreshed⟩
  obtain ⟨later, known, demand⟩ := (Pass.preHooksCompleted_cases asks).1.2.find found
  have sameGeneration : later.generation = record.generation := congrArg Prod.fst demand
  exact ⟨later, known, sameGeneration.trans generation⟩

/-! ### Loops -/

/-- A loop was started for a generation that was stored, and has made these ticks since. The generations
that they have read lie between that one and the one that is stored. -/
structure Tracked (context : Context) (store : Store) (key : ObjectKey) (ticks : List Tick)
    (loop : SyncLoop) (generation : Int) : Prop where
  numbered : loop.generation = some generation
  reached : generation ≤ store.generation key
  turned : ∃ revision : Subscription, revision.key = key ∧
    Turns context (.ofSubscription context.settings revision) ticks loop.item
  reads : ∀ tick ∈ ticks, ∀ read, ⟨.subscription key, .ok (some read)⟩ ∈ tick.log →
    ∃ number, read.metadata.generation = some number ∧ generation ≤ number ∧
      number ≤ store.generation key

namespace Tracked

variable {ticks : List Tick} {loop next : SyncLoop} {generation : Int}

private theorem fresh {revision : Subscription}
    (current : store.subscription? revision.key = some revision) (now : Nat) :
    Tracked context store revision.key [] (.fresh context revision now)
      (store.generation revision.key) := by
  refine ⟨store.numbered _ _ current, Int.le_refl _, ⟨revision, rfl, .nil _⟩, ?_⟩
  intro tick member
  cases member

private theorem edited {later : Store} (tracked : Tracked context store key ticks loop generation)
    (precedes : store.Precedes later) : Tracked context later key ticks loop generation := by
  refine ⟨tracked.numbered, Int.le_trans tracked.reached (precedes key), tracked.turned, ?_⟩
  intro tick member read inside
  obtain ⟨number, numbered, above, below⟩ := tracked.reads tick member read inside
  exact ⟨number, numbered, above, Int.le_trans below (precedes key)⟩

private theorem ticked {trigger : Trigger} {result : TickResult}
    (tracked : Tracked context store key ticks loop generation) (tells : store.Tells log)
    (ran : Ends (loop.item.run context trigger) log (result, next.item))
    (same : next.generation = loop.generation) :
    Tracked context store key (ticks ++ [⟨trigger, log, result⟩]) next generation := by
  obtain ⟨revision, named, turns⟩ := tracked.turned
  have made : SyncItem.Makes context loop.item ⟨trigger, log, result⟩ next.item := .inr ran
  refine ⟨same.trans tracked.numbered, tracked.reached, ⟨revision, named, turns.append made⟩, ?_⟩
  intro tick member read inside
  rcases List.mem_append.mp member with before | last
  · exact tracked.reads tick before read inside
  · obtain rfl := List.mem_singleton.mp last
    have stored : store.subscription? key = some read := (tells.subscription inside).symm
    exact ⟨store.generation key, store.numbered key read stored, tracked.reached, Int.le_refl _⟩

end Tracked

/-- The loop that is tracked was started for a generation. One of its ticks has deployed that generation,
and none after it has decided otherwise. -/
def Synced (system : System) (key : ObjectKey) (generation : Int) : Prop :=
  ∃ loop earlier tick later read count commit,
    Registry.find? key system.controller.loops = some loop ∧ loop.generation = some generation ∧
    system.ticks key = earlier ++ tick :: later ∧
    tick.log.head? = some ⟨.subscription key, .ok (some read)⟩ ∧
    read.metadata.generation = some generation ∧
    tick.result = .ok (.applied count commit) ∧
    ∀ other ∈ later, other.result.isDecisive = false

/-- A loop of the stored generation whose deployments went well has deployed this generation. -/
theorem Tracked.synced {system : System} {loop : SyncLoop} {generation : Int}
    (tracked : Tracked context system.store key (system.ticks key) loop generation)
    (found : Registry.find? key system.controller.loops = some loop)
    (latest : generation = system.store.generation key)
    (successful : loop.item.successful = true) : Synced system key generation := by
  obtain ⟨revision, named, turns⟩ := tracked.turned
  obtain ⟨count, commit, stands⟩ := turns.successful_iff.mp successful
  obtain ⟨earlier, tick, later, split, applied, idle⟩ := SyncItem.standing?_split stands
  have member : tick ∈ system.ticks key := by
    rw [split]
    exact List.mem_append_right earlier List.mem_cons_self
  obtain ⟨before, after, same, made⟩ := turns.made member
  obtain ⟨read, first⟩ := made.reads_first applied
  have reader : before.key = key := same.trans named
  rw [reader] at first
  obtain ⟨number, numbered, above, below⟩ :=
    tracked.reads tick member read (List.mem_of_head? first)
  -- Generations between the loop's and the stored one leave no choice.
  have exactly : number = generation := by omega
  subst exactly
  exact ⟨loop, earlier, tick, later, read, count, commit, found, tracked.numbered, split, first,
    numbered, applied, idle⟩

/-! ### Runs -/

structure Sound (context : Context) (system : System) : Prop where
  records : Recorded context system.controller.hooks
  loops : ∀ key loop, Registry.find? key system.controller.loops = some loop →
    ∃ generation, Tracked context system.store key (system.ticks key) loop generation

namespace Sound

variable {system next : System}

private theorem initial (context : Context) (store : Store) : Sound context (.initial store) := by
  constructor
  · intro key record generation found
    cases found
  · intro key loop found
    cases found

private theorem afterTick {loop : SyncLoop} {trigger : Trigger} {result : TickResult}
    (sound : Sound context system) (after : SyncLoop) (tells : system.store.Tells log)
    (found : Registry.find? key system.controller.loops = some loop)
    (ran : Ends (loop.item.run context trigger) log (result, after.item))
    (same : after.generation = loop.generation) :
    Sound context (system.afterTick key (Registry.set key after system.controller.loops)
      ⟨trigger, log, result⟩) := by
  unfold System.afterTick
  refine ⟨sound.records, Registry.forall_set ?_ ?_⟩
  · obtain ⟨generation, tracked⟩ := sound.loops key loop found
    dsimp only
    rw [if_pos rfl]
    exact ⟨generation, tracked.ticked tells ran same⟩
  · intro other present different known
    dsimp only
    rw [if_neg different]
    exact sound.loops other present known

/-- Loops that are left as they are keep their ticks. Any other has to be as good as new. -/
theorem become {controller : Controller} (sound : Sound context system)
    (records : Recorded context controller.hooks)
    (started : ∀ key loop, Registry.find? key controller.loops = some loop →
      Registry.find? key system.controller.loops ≠ some loop →
      ∃ generation, Tracked context system.store key [] loop generation) :
    Sound context (system.become controller) := by
  refine ⟨records, ?_⟩
  intro key loop found
  unfold System.become at found ⊢
  dsimp only at found ⊢
  by_cases kept : Registry.find? key system.controller.loops = some loop
  · rw [if_pos (found.trans kept.symm)]
    exact sound.loops key loop kept
  · rw [if_neg fun same => kept (same.symm.trans found)]
    exact started key loop found kept

private theorem pass {revision : Subscription} {now : Nat} {result : Except ReconcileError NextPass}
    {controller : Controller} (sound : Sound context system)
    (current : system.store.subscription? revision.key = some revision)
    (tells : system.store.Tells log)
    (course : Pass.Course context revision now system.controller log result controller) :
    Sound context (system.become controller) := by
  refine sound.become (sound.records.pass tells course) ?_
  intro key loop found new
  obtain ⟨_, _, _, _, _, same, _, proceeds⟩ := course.started found new
  rw [(Pass.proceed_cases proceeds).1, same] at found
  obtain ⟨rfl, rfl⟩ := SyncLoops.new_of_ensured found new
  exact ⟨_, .fresh current now⟩

private theorem forget (sound : Sound context system) (key : ObjectKey) :
    Sound context (system.become (system.controller.teardown key)) := by
  refine sound.become (sound.records.erase key) ?_
  intro other loop found new
  exact absurd (Registry.find?_of_erase found) new

private theorem step (sound : Sound context system) (step : Step context system next) :
    Sound context next := by
  cases step with
  | edit precedes =>
      refine ⟨sound.records, ?_⟩
      intro key loop found
      obtain ⟨generation, tracked⟩ := sound.loops key loop found
      exact ⟨generation, tracked.edited precedes⟩
  | pass current tells ended => exact sound.pass current tells (Pass.reconcile_course ended)
  | forget key => exact sound.forget key
  | failure key => exact ⟨sound.records, sound.loops⟩
  | tick found tells ended ran =>
      obtain ⟨_, _, generation, _⟩ := SyncLoop.step_cases ended
      exact sound.afterTick _ tells found ran generation
  | syncNow tells ended =>
      rcases SyncLoops.syncNow_cases ended with
        ⟨impossible, _⟩ | ⟨loop, _, item, same, found, ran, _, rfl⟩
      · cases impossible
      · cases same
        exact sound.afterTick { loop with item := item } tells found ran rfl

end Sound

theorem Run.sound {system : System} (run : Run context (.initial store) system) :
    Sound context system := by
  induction run with
  | start => exact .initial context store
  | step _ step ih => exact ih.step step

/-- Whatever has happened before, and however the pass ends. Jobs after a deployment are submitted for the
generation that is stored, and only if a tick of the tracked loop, which was started for this generation,
has read and deployed this generation, and no later tick of it has decided anything. -/
theorem jobs_follow_sync {system : System} {revision : Subscription} {now : Nat}
    {result : Except ReconcileError NextPass} {after : Controller} {job : HookJob}
    (run : Run context (.initial store) system)
    (current : system.store.subscription? revision.key = some revision)
    (tells : system.store.Tells log)
    (ended : Ends (system.controller.pass context revision now) log (result, after))
    (submits : Pass.SubmitsAfter context revision system.controller log job) :
    ∃ generation record, revision.metadata.generation = some generation ∧
      Registry.find? revision.key after.hooks = some record ∧
      record.ConcludesFor context revision.key generation ∧ job ∈ record.post.latest ∧
      after.loops = system.controller.loops ∧ Synced system revision.key generation := by
  have course := Pass.reconcile_course ended
  have recorded := run.sound.records.pass tells course
  obtain ⟨channel, gating, concluding, between, reply, rfl, git, gated, proceeds, submitted⟩ :=
    course.of_submitsAfter submits
  have present : system.store.channel? revision.channelKey = some channel :=
    (tells.channel List.mem_cons_self).symm
  have tellsGating := (Store.Tells.split (List.forall_mem_cons.mp tells).2).1
  have stored := system.store.numbered revision.key revision current
  -- The jobs were made for the stored generation.
  obtain ⟨successful, record, known, member⟩ := Pass.proceed_submits proceeds submitted
  obtain ⟨same, there, made⟩ := gate_generation current tellsGating present git gated
  obtain rfl : record = same := Option.some.inj (known.symm.trans there)
  have steady := Pass.proceed_cases proceeds
  obtain ⟨later, found, demand⟩ := steady.2.find known
  have sameGeneration : later.generation = record.generation := congrArg Prod.fst demand
  have sameJobs : later.post.current = record.post.current := congrArg (·.2.2) demand
  -- So was the loop, and it was not started by this pass.
  have loops := Pass.gate_loops gated
  obtain ⟨kept, loop, tracked, started, well⟩ := SyncLoops.successful_ensured successful
  rw [loops] at kept tracked
  have unchanged : after.loops = system.controller.loops := by
    rw [steady.1, loops]
    exact kept
  obtain ⟨generation, follows⟩ := run.sound.loops revision.key loop tracked
  have latest : generation = system.store.generation revision.key :=
    Option.some.inj (follows.numbered.symm.trans (started.trans stored))
  subst latest
  refine ⟨_, later, stored, found,
    recorded revision.key later _ found (sameGeneration.trans (made.trans stored)), ?_, unchanged,
    follows.synced tracked rfl well⟩
  unfold JobLedger.latest at member ⊢
  rwa [sameJobs]

end

/-! ### A job after a deployment -/

namespace JobAfterDeployment

open SyncItem.FailedManifest (channel context itemAfter)
open Delivery.EditedLater (channelRead cloning discovered fetched git hookDirectory job key looked
  loop notify present result revision template ticking)

def store : Store where
  subscription? name := if name = key then some (revision 1) else none
  channel? _ := some channel
  generation _ := 1
  key := by
    intro name stored found
    split at found
    · cases found
      exact Eq.symm ‹name = key›
    · cases found
  numbered := by
    intro name stored found
    split at found
    · cases found
      rfl
    · cases found

theorem stored : store.subscription? (revision 1).key = some (revision 1) := by
  change (if key = key then some (revision 1) else none) = _
  exact if_pos rfl

theorem answers_subscription :
    store.Answers (.subscription key) (.ok (some (revision 1))) := by
  intro found same
  cases same
  exact stored.symm

theorem answers_channel (name : ObjectKey) : store.Answers (.channel name) (.ok (some channel)) := by
  intro found same
  cases same
  rfl

/-! The pass that starts the loop. -/

def disk : FileTree :=
  .directory [("git", .directory [("hooks", .directory [("apps", .directory [("web", .directory
    [("4af913d9b68cb32352e93ee75a3870e8", .directory
      [("posthook", .directory [("notify.yaml", .file (Bytes.ofText template))])])])])])])]

set_option maxRecDepth 4000 in
private theorem templates_eq : HookTemplates.ofTree disk hookDirectory = ⟨[], [notify]⟩ := by
  have before : HookTemplate.discover disk (FilePath.push hookDirectory HookSide.pre.directory) =
      .ok [] := rfl
  have after : HookTemplate.discover disk (FilePath.push hookDirectory HookSide.post.directory) =
      .ok [notify] := discovered rfl
  unfold HookTemplates.ofTree
  simp only [before, after]

def record : HookRecord :=
  HookRecord.renew context (revision 1) ⟨[], [notify]⟩ [] {}

def looking : Log := channelRead 1 ++ cloning ⟨"c0ffee", disk⟩

private theorem registered :
    Ends (HookRecords.register context key []) (looked 1 ++ looking) (.ok (), [(key, record)]) := by
  have found : Ends (HookRecords.gitSubscription? key).run (looked 1) (.ok (some (revision 1))) :=
    .ask (.ask (.done _))
  have downloaded := fetched 1 ⟨"c0ffee", disk⟩
  rw [templates_eq] at downloaded
  have refreshed : Ends (HookRecord.refresh context key (revision 1) {}) (looking ++ [])
      (.ok (), record) :=
    ends_bind downloaded (.done _)
  rw [← List.append_nil looking, ← List.append_nil (looking ++ [])]
  exact ends_bind found (ends_bind refreshed (.done _))

def started : Controller := ⟨[(key, loop)], [(key, record)], []⟩

def starting : Log :=
  channelRead 1 ++ (looked 1 ++ looking ++ [] ++
    [⟨.writeStatus key { hooks := some record.status }, .ok ()⟩])

private theorem starts :
    Ends (Controller.pass context (revision 1) 0 {}) starting
      (.ok (.afterSeconds context.settings.hookPollSeconds), started) := by
  have registers : Pass.Runs (Pass.onHooks (HookRecords.register context key)) {}
      (looked 1 ++ looking) (.ok ()) ⟨[], [(key, record)], []⟩ :=
    Pass.runs_onHooks_iff.mpr ⟨.ok (), _, registered, rfl, rfl⟩
  have gated : Pass.Runs (Pass.gate context key) {} (looked 1 ++ looking ++ []) (.ok true)
      ⟨[], [(key, record)], []⟩ :=
    Pass.runs_bind_iff.mpr (.inr ⟨_, (), _, [], registers, .done _, rfl⟩)
  have proceeds : Pass.Runs (Pass.proceed context (revision 1) 0) ⟨[], [(key, record)], []⟩
      [⟨.writeStatus key { hooks := some record.status }, .ok ()⟩]
      (.ok (.afterSeconds context.settings.hookPollSeconds)) started :=
    .ask (.done _)
  have delivered := Pass.reconcile_of_gate (present 1) git gated proceeds
  exact delivered

private theorem tells_starting : store.Tells starting :=
  .cons (answers_channel _) <| .cons answers_subscription <| .cons (answers_channel _) <|
    .cons (answers_channel _) <| .cons trivial <| .cons trivial (List.forall_mem_nil _)

/-! The tick that deploys. -/

def ticked : SyncLoop :=
  { loop with
    item := itemAfter (some "c0ffee") true
    phase := loop.phase.after (itemAfter (some "c0ffee") true).rate.schedule 0 true }

private theorem ticks : Ends (loop.step context 0) (ticking 1) ticked := by
  rw [← List.append_nil (ticking 1)]
  exact ends_bind (Delivery.EditedLater.ticked 1) (.done _)

private theorem tells_ticking : store.Tells (ticking 1) :=
  .cons answers_subscription <| .cons trivial <| .cons (answers_channel _) <| .cons trivial <|
    .cons trivial <| .cons trivial <| .cons trivial (List.forall_mem_nil _)

/-! The pass that submits the job. -/

def running : Controller := ⟨[(key, ticked)], [(key, record)], []⟩

theorem gated : Pass.Runs (Pass.gate context key) running (looked 1) (.ok true) running := by
  have found : Ends (HookRecords.gitSubscription? key).run (looked 1) (.ok (some (revision 1))) :=
    .ask (.ask (.done _))
  have stays : Ends (HookRecords.register context key [(key, record)]) (looked 1)
      (.ok (), [(key, record)]) := by
    rw [← List.append_nil (looked 1)]
    exact ends_bind found (.done _)
  have registers : Pass.Runs (Pass.onHooks (HookRecords.register context key)) running (looked 1)
      (.ok ()) running :=
    Pass.runs_onHooks_iff.mpr ⟨.ok (), _, stays, rfl, rfl⟩
  exact Pass.runs_bind_iff.mpr
    (.inr ⟨looked 1, (), running, [], registers, .done _, (List.append_nil (looked 1)).symm⟩)

def submitted : HookRecord :=
  record.setSide (record.post.recordApplied context.settings.hookHistoryLimit (job 1).key) .post

def submitting : Log := [⟨.job (job 1).key, .ok none⟩, ⟨.submit (job 1), .ok ()⟩]

private theorem record_latest : record.post.latest = [job 1] := by rfl

private theorem submits :
    Ends (HookRecords.submit context key .post [(key, record)]) submitting
      (.ok (), [(key, submitted)]) := by
  have found : Registry.find? key [(key, record)] = some record := if_pos rfl
  have placed : Registry.set key submitted [(key, record)] = [(key, submitted)] := if_pos rfl
  unfold HookRecords.submit
  rw [found, ← placed]
  simp only [HookRecord.side, record_latest, HookRecord.submitAll]
  exact .ask (.ask (.done _))

def concluded : Controller := ⟨[(key, ticked)], [(key, submitted)], []⟩

def concluding : Log :=
  submitting ++ [] ++ [⟨.writeStatus key { hooks := some submitted.status }, .ok ()⟩]

private theorem proceeds :
    Pass.Runs (Pass.proceed context (revision 1) 1) running concluding
      (.ok (.afterSeconds context.settings.resyncSeconds)) concluded := by
  have posts : Pass.Runs (Pass.postHooks context key) running (submitting ++ [])
      (.ok context.settings.resyncSeconds) concluded := by
    have there : HookRecords.hasHooks key .post running.hooks = true := by rfl
    have well : running.loops.lastSuccess? key = some true := by rfl
    refine Pass.runs_get_bind_iff.mpr ?_
    rw [if_pos there, if_pos well]
    refine Pass.runs_bind_iff.mpr (.inr ⟨submitting, (), concluded, [], ?_, .done _, rfl⟩)
    exact Pass.runs_onHooks_iff.mpr ⟨.ok (), _, submits, rfl, rfl⟩
  refine Pass.runs_bind_iff.mpr (.inr ⟨[], (), running, concluding, .done _, ?_, rfl⟩)
  refine Pass.runs_bind_iff.mpr (.inr ⟨_, _, concluded, _, posts, ?_, rfl⟩)
  exact .ask (.done _)

def passing : Log := channelRead 1 ++ (looked 1 ++ concluding)

theorem passed :
    Ends (running.pass context (revision 1) 1) passing
      (.ok (.afterSeconds context.settings.resyncSeconds), concluded) := by
  have delivered := Pass.reconcile_of_gate (present 1) git gated proceeds
  exact delivered

private theorem tells_passing : store.Tells passing :=
  .cons (answers_channel _) <| .cons answers_subscription <| .cons (answers_channel _) <|
    .cons trivial <| .cons trivial <| .cons trivial (List.forall_mem_nil _)

def synced : System :=
  ((System.initial store).become started).afterTick key [(key, ticked)]
    ⟨.initial, ticking 1, result 1⟩

private theorem ran : Run context (.initial store) synced := by
  have found : Registry.find? key started.loops = some loop := if_pos rfl
  have begun : Step context (.initial store) ((System.initial store).become started) :=
    .pass stored tells_starting starts
  exact .step (.step .start begun) (.tick found tells_ticking ticks (Delivery.EditedLater.ticked 1))

private theorem submits_after : Pass.SubmitsAfter context (revision 1) running passing (job 1) :=
  ⟨_, looked 1, concluding, running, .ok (), rfl, gated, List.mem_cons_of_mem _ List.mem_cons_self⟩

/-- The job is submitted after the tick has deployed the generation that it was made for. -/
theorem submitted_after_sync :
    Run context (.initial store) synced ∧
      store.subscription? (revision 1).key = some (revision 1) ∧ store.Tells passing ∧
      Ends (synced.controller.pass context (revision 1) 1) passing
        (.ok (.afterSeconds context.settings.resyncSeconds), concluded) ∧
      Pass.SubmitsAfter context (revision 1) synced.controller passing (job 1) ∧
      Synced synced key 1 := by
  refine ⟨ran, stored, tells_passing, passed, submits_after, ?_⟩
  obtain ⟨generation, _, numbered, _, _, _, _, follows⟩ :=
    jobs_follow_sync ran stored tells_passing passed submits_after
  cases numbered
  exact follows

end JobAfterDeployment

end GitDelivery.Atomic
