import GitDelivery.Proofs.Hook.Registry
import GitDelivery.Proofs.Sync.Loop
import GitDelivery.Reconcile

set_option autoImplicit false

/-! How passes run: what they ask, how they end, and what is known before and after them. -/

namespace GitDelivery.Pass

open Dialogue Work

variable {α β : Type} {before after : Controller} {log : Log}

def Runs (pass : Pass α) (before : Controller) (log : Log) (result : Except ReconcileError α)
    (after : Controller) : Prop :=
  Ends (pass.run.run before) log (result, after)

theorem runs_pure_iff {value : α} {result : Except ReconcileError α} :
    Runs (pure value) before log result after ↔ log = [] ∧ result = .ok value ∧ after = before := by
  unfold Runs
  refine Iff.trans ends_pure_iff ?_
  rw [Prod.mk.injEq]

theorem runs_throw_iff {error : ReconcileError} {result : Except ReconcileError α} :
    Runs (throw error) before log result after ↔
      log = [] ∧ result = .error error ∧ after = before := by
  unfold Runs
  refine Iff.trans ends_pure_iff ?_
  rw [Prod.mk.injEq]

theorem runs_bind_iff {first : Pass α} {next : α → Pass β} {result : Except ReconcileError β} :
    Runs (first >>= next) before log result after ↔
      (∃ error, Runs first before log (.error error) after ∧ result = .error error) ∨
        ∃ early value between late, Runs first before early (.ok value) between ∧
          Runs (next value) between late result after ∧ log = early ++ late := by
  unfold Runs
  rw [ExceptT.run_bind, StateT.run_bind, ends_bind_iff]
  constructor
  · rintro ⟨early, ⟨outcome, between⟩, late, start, rest, rfl⟩
    cases outcome with
    | error error =>
        obtain ⟨rfl, same⟩ := ends_pure_iff.mp rest
        cases same
        rw [List.append_nil]
        exact .inl ⟨error, start, rfl⟩
    | ok value => exact .inr ⟨early, value, between, late, start, rest, rfl⟩
  · rintro (⟨error, start, rfl⟩ | ⟨early, value, between, late, start, rest, rfl⟩)
    · exact ⟨log, (.error error, after), [], start, ends_pure_iff.mpr ⟨rfl, rfl⟩,
        (List.append_nil log).symm⟩
    · exact ⟨early, (.ok value, between), late, start, rest, rfl⟩

theorem runs_modify_iff {change : Controller → Controller} {result : Except ReconcileError Unit} :
    Runs (modify change) before log result after ↔
      log = [] ∧ result = .ok () ∧ after = change before := by
  unfold Runs
  refine Iff.trans ends_pure_iff ?_
  rw [Prod.mk.injEq]

theorem runs_setLoops_iff {loops : SyncLoops} {result : Except ReconcileError Unit} :
    Runs (setLoops loops) before log result after ↔
      log = [] ∧ result = .ok () ∧ after = { before with loops := loops } :=
  runs_modify_iff

theorem runs_get_bind_iff {next : Controller → Pass α} {result : Except ReconcileError α} :
    Runs (get >>= next) before log result after ↔ Runs (next before) before log result after :=
  Iff.rfl

theorem runs_modify_bind_iff {change : Controller → Controller} {next : Unit → Pass α}
    {result : Except ReconcileError α} :
    Runs (modify change >>= next) before log result after ↔
      Runs (next ()) (change before) log result after :=
  Iff.rfl

theorem runs_modify_pure_iff {change : Controller → Controller} {value : α}
    {result : Except ReconcileError α} :
    Runs (do modify change; return value) before log result after ↔
      log = [] ∧ result = .ok value ∧ after = change before :=
  runs_modify_bind_iff.trans runs_pure_iff

theorem runs_lift_bind_iff {work : Work α} {next : α → Pass β} {result : Except ReconcileError β} :
    Runs (liftM (liftM work : StateT Controller Work α) >>= next) before log result after ↔
      ∃ early value late, Ends work early value ∧ Runs (next value) before late result after ∧
        log = early ++ late := by
  unfold Runs
  change Ends (((work >>= fun value => pure (value, before)) >>= fun pair =>
    pure (Except.ok pair.1, pair.2)) >>= _) log (result, after) ↔ _
  rw [ends_bind_iff]
  constructor
  · rintro ⟨early, pair, late, ended, rest, rfl⟩
    obtain ⟨first, middle, second, lifted, paired, rfl⟩ := ends_bind_iff.mp ended
    obtain ⟨third, value, fourth, asked, kept, rfl⟩ := ends_bind_iff.mp lifted
    obtain ⟨rfl, rfl⟩ := ends_pure_iff.mp kept
    obtain ⟨rfl, rfl⟩ := ends_pure_iff.mp paired
    simp only [List.append_nil]
    exact ⟨third, value, late, asked, rest, rfl⟩
  · rintro ⟨early, value, late, asked, rest, rfl⟩
    refine ⟨early, (.ok value, before), late, ?_, rest, rfl⟩
    rw [ends_bind_iff]
    refine ⟨early, (value, before), [], ?_, ends_pure_iff.mpr ⟨rfl, rfl⟩,
      (List.append_nil early).symm⟩
    exact ends_bind_iff.mpr ⟨early, value, [], asked, ends_pure_iff.mpr ⟨rfl, rfl⟩,
      (List.append_nil early).symm⟩

theorem runs_ask_iff {failed : String → ReconcileError} {request : Work (Except String α)}
    {result : Except ReconcileError α} :
    Runs (ask failed request) before log result after ↔
      after = before ∧ ∃ reply, Ends request log reply ∧ result = reply.mapError failed := by
  unfold ask
  refine Iff.trans runs_lift_bind_iff ?_
  constructor
  · rintro ⟨early, reply, late, asked, last, rfl⟩
    cases reply with
    | ok value =>
        obtain ⟨rfl, rfl, rfl⟩ := runs_pure_iff.mp last
        rw [List.append_nil]
        exact ⟨rfl, .ok value, asked, rfl⟩
    | error reason =>
        obtain ⟨rfl, rfl, rfl⟩ := runs_throw_iff.mp last
        rw [List.append_nil]
        exact ⟨rfl, .error reason, asked, rfl⟩
  · rintro ⟨rfl, reply, asked, rfl⟩
    refine ⟨log, reply, [], asked, ?_, (List.append_nil log).symm⟩
    cases reply with
    | ok value => exact runs_pure_iff.mpr ⟨rfl, rfl, rfl⟩
    | error reason => exact runs_throw_iff.mpr ⟨rfl, rfl, rfl⟩

/-- Work on the hooks changes the hooks only, and that stays even if it fails. -/
theorem runs_onHooks_iff {work : HookRecords → Work (Except HookError α × HookRecords)}
    {result : Except ReconcileError α} :
    Runs (onHooks work) before log result after ↔
      ∃ outcome hooks, Ends (work before.hooks) log (outcome, hooks) ∧
        after = { before with hooks := hooks } ∧ result = outcome.mapError .hook := by
  unfold onHooks
  refine Iff.trans runs_get_bind_iff ?_
  refine Iff.trans runs_lift_bind_iff ?_
  constructor
  · rintro ⟨early, ⟨outcome, hooks⟩, late, asked, last, rfl⟩
    have rest := runs_modify_bind_iff.mp last
    cases outcome with
    | ok value =>
        obtain ⟨rfl, rfl, rfl⟩ := runs_pure_iff.mp rest
        rw [List.append_nil]
        exact ⟨.ok value, hooks, asked, rfl, rfl⟩
    | error error =>
        obtain ⟨rfl, rfl, rfl⟩ := runs_throw_iff.mp rest
        rw [List.append_nil]
        exact ⟨.error error, hooks, asked, rfl, rfl⟩
  · rintro ⟨outcome, hooks, asked, rfl, rfl⟩
    refine ⟨log, (outcome, hooks), [], asked, ?_, (List.append_nil log).symm⟩
    refine runs_modify_bind_iff.mpr ?_
    cases outcome with
    | ok value => exact runs_pure_iff.mpr ⟨rfl, rfl, rfl⟩
    | error error => exact runs_throw_iff.mpr ⟨rfl, rfl, rfl⟩

/-! ### What a step leaves alone -/

/-- However it ends, a step takes what was known before to something related. -/
def Respects (relation : Controller → Controller → Prop) (pass : Pass α) : Prop :=
  ∀ ⦃before log result after⦄, Runs pass before log result after → relation before after

section

variable {relation : Controller → Controller → Prop}

theorem respects_pure (refl : ∀ controller, relation controller controller) (value : α) :
    Respects relation (pure value) := by
  intro before log result after runs
  obtain ⟨_, _, rfl⟩ := runs_pure_iff.mp runs
  exact refl _

theorem respects_bind {first : Pass α} {next : α → Pass β}
    (trans : ∀ {first second third}, relation first second → relation second third →
      relation first third)
    (start : Respects relation first) (rest : ∀ value, Respects relation (next value)) :
    Respects relation (first >>= next) := by
  intro before log result after runs
  rcases runs_bind_iff.mp runs with
    ⟨error, failed, _⟩ | ⟨_, value, between, _, started, continues, _⟩
  · exact start failed
  · exact trans (start started) (rest value continues)

theorem respects_get_bind {next : Controller → Pass α}
    (rest : ∀ controller, Respects relation (next controller)) :
    Respects relation (get >>= next) := by
  intro before log result after runs
  exact rest before (runs_get_bind_iff.mp runs)

end

/-! ### The parts of a pass -/

section

variable {context : Context} {key : ObjectKey} {subscription : Subscription}

/-- The same loops run, and the same jobs have to succeed before deployments. -/
def Steady (before after : Controller) : Prop :=
  after.loops = before.loops ∧ HookRecords.SameDemands before.hooks after.hooks

theorem Steady.refl (controller : Controller) : Steady controller controller :=
  ⟨rfl, fun _ => rfl⟩

theorem Steady.trans {first second third : Controller} (early : Steady first second)
    (late : Steady second third) : Steady first third :=
  ⟨late.1.trans early.1, early.2.trans late.2⟩

def IsSteady (pass : Pass α) : Prop :=
  ∀ ⦃before log result after⦄, Runs pass before log result after → Steady before after

private theorem isSteady_pure (value : α) : IsSteady (pure value) :=
  respects_pure .refl value

private theorem isSteady_bind {first : Pass α} {next : α → Pass β} (start : IsSteady first)
    (rest : ∀ value, IsSteady (next value)) : IsSteady (first >>= next) :=
  respects_bind .trans start rest

theorem isSteady_submit (context : Context) (key : ObjectKey) (side : HookSide) :
    IsSteady (onHooks (HookRecords.submit context key side)) := by
  intro before log result after runs
  obtain ⟨outcome, hooks, submitted, rfl, _⟩ := runs_onHooks_iff.mp runs
  exact ⟨rfl, HookRecords.submit_sameDemands submitted⟩

def Confirmed (key : ObjectKey) (hooks : HookRecords) (log : Log) : Prop :=
  ∀ record, Registry.find? key hooks = some record → ∀ job ∈ record.pre.latest,
    ∃ found : HookJob, found.hasSucceeded = true ∧ ⟨.job job.key, .ok (some found)⟩ ∈ log

/-- The last thing that was found is that some job before the deployment has not succeeded. -/
def Awaited (key : ObjectKey) (hooks : HookRecords) (log : Log) : Prop :=
  ∃ record, Registry.find? key hooks = some record ∧ ∃ job ∈ record.pre.latest,
    ∃ found : Option HookJob, found.any HookJob.hasSucceeded = false ∧
      [⟨.job job.key, .ok found⟩] <:+ log

theorem Confirmed.prepend {hooks : HookRecords} {late : Log} (confirmed : Confirmed key hooks late)
    (early : Log) : Confirmed key hooks (early ++ late) := by
  intro record found job member
  obtain ⟨seen, well, inside⟩ := confirmed record found job member
  exact ⟨seen, well, List.mem_append_right early inside⟩

theorem Awaited.prepend {hooks : HookRecords} {late : Log} (awaited : Awaited key hooks late)
    (early : Log) : Awaited key hooks (early ++ late) := by
  obtain ⟨record, found, job, member, seen, missing, last⟩ := awaited
  exact ⟨record, found, job, member, seen, missing, last.trans (List.suffix_append early late)⟩

private theorem areCompleted_cases {result : Except ReconcileError Bool}
    (runs : Runs (onHooks fun hooks => do return (← HookRecords.areCompleted key .pre hooks, hooks))
      before log result after) :
    after = before ∧ (result = .ok true → Confirmed key before.hooks log) ∧
      (result = .ok false → Awaited key before.hooks log) := by
  obtain ⟨outcome, hooks, ended, rfl, rfl⟩ := runs_onHooks_iff.mp runs
  obtain ⟨asking, answer, _, asked, last, rfl⟩ := ends_bind_iff.mp ended
  obtain ⟨rfl, same⟩ := ends_pure_iff.mp last
  cases same
  rw [List.append_nil]
  unfold HookRecords.areCompleted at asked
  cases found : Registry.find? key before.hooks with
  | none =>
      rw [found] at asked
      obtain ⟨rfl, rfl⟩ := ends_pure_iff.mp asked
      refine ⟨rfl, ?_, ?_⟩
      · intro _ record there
        cases found.symm.trans there
      · intro impossible
        cases impossible
  | some record =>
      rw [found] at asked
      refine ⟨rfl, ?_, ?_⟩
      · intro completed other there
        obtain rfl : record = other := Option.some.inj (found.symm.trans there)
        cases outcome with
        | error error => cases completed
        | ok value =>
            cases completed
            exact HookRecord.allSucceeded_true asked
      · intro missing
        cases outcome with
        | error error => cases missing
        | ok value =>
            cases missing
            obtain ⟨job, member, found', failed, last⟩ := HookRecord.allSucceeded_false asked
            exact ⟨record, found, job, member, found', failed, last⟩

theorem preHooksCompleted_cases {result : Except ReconcileError Bool}
    (runs : Runs (preHooksCompleted context key) before log result after) :
    Steady before after ∧ (result = .ok true → Confirmed key after.hooks log) ∧
      (result = .ok false → Awaited key after.hooks log) := by
  have runs := runs_get_bind_iff.mp runs
  cases there : HookRecords.hasHooks key .pre before.hooks with
  | false =>
      simp only [there] at runs
      obtain ⟨_, rfl, rfl⟩ := runs_pure_iff.mp runs
      refine ⟨.refl _, ?_, ?_⟩
      · intro _ record found job member
        unfold HookRecords.hasHooks at there
        rw [found] at there
        have empty : record.pre.current = [] := by
          simpa [HookRecord.side, JobLedger.isEmpty_iff] using there
        unfold JobLedger.latest at member
        rw [empty] at member
        cases member
      · intro impossible
        cases impossible
  | true =>
      simp only [there, if_true] at runs
      rcases runs_bind_iff.mp runs with
        ⟨error, failed, rfl⟩ | ⟨early, _, between, late, submitted, asked, rfl⟩
      · refine ⟨isSteady_submit context key .pre failed, ?_, ?_⟩
        · intro impossible
          cases impossible
        · intro impossible
          cases impossible
      · obtain ⟨rfl, completed, missing⟩ := areCompleted_cases asked
        exact ⟨isSteady_submit context key .pre submitted, fun well => (completed well).prepend early,
          fun failed => (missing failed).prepend early⟩

theorem runs_ensureLoop_iff {now : Nat} {result : Except ReconcileError Unit} :
    Runs (ensureLoop context subscription now) before log result after ↔
      log = [] ∧ result = .ok () ∧
        after = { before with loops := before.loops.ensured context subscription now } := by
  refine Iff.trans runs_get_bind_iff ?_
  unfold SyncLoops.ensured Registry.contains Controller.hasOutdatedLoop SyncLoops.generation?
  cases found : Registry.find? subscription.key before.loops with
  | none =>
      simpa [found, SyncLoops.start_eq (.inr found)] using runs_setLoops_iff
  | some loop =>
      by_cases same : loop.generation = subscription.metadata.generation
      · simpa [Registry.contains, found, same] using runs_pure_iff
      · simpa [Registry.contains, found, same, SyncLoops.start_eq (.inl rfl)] using
          runs_setLoops_iff

theorem runs_stopOutdatedLoop_iff {result : Except ReconcileError Unit} :
    Runs (stopOutdatedLoop subscription) before log result after ↔
      log = [] ∧ result = .ok () ∧
        after = { before with loops := before.loops.current subscription } := by
  refine Iff.trans runs_get_bind_iff ?_
  unfold SyncLoops.current Controller.hasOutdatedLoop SyncLoops.generation? Registry.contains
  cases found : Registry.find? subscription.key before.loops with
  | none => simpa [found] using runs_pure_iff
  | some loop =>
      by_cases same : loop.generation = subscription.metadata.generation
      · simpa [found, same] using runs_pure_iff
      · simpa [found, same, SyncLoops.stop] using runs_setLoops_iff

theorem writeHookStatus_same {result : Except ReconcileError Unit}
    (runs : Runs (writeHookStatus subscription) before log result after) : after = before := by
  have runs := runs_get_bind_iff.mp runs
  simp only at runs
  split at runs
  · exact (runs_ask_iff.mp runs).1
  · exact (runs_pure_iff.mp runs).2.2

theorem isSteady_writeHookStatus (subscription : Subscription) :
    IsSteady (writeHookStatus subscription) := by
  intro before log result after runs
  obtain rfl := writeHookStatus_same runs
  exact .refl _

theorem respects_postHooks {relation : Controller → Controller → Prop}
    (refl : ∀ controller, relation controller controller)
    (trans : ∀ {first second third}, relation first second → relation second third →
      relation first third)
    (submits : Respects relation (onHooks (HookRecords.submit context key .post))) :
    Respects relation (postHooks context key) := by
  refine respects_get_bind fun controller => ?_
  split
  · split
    · exact respects_bind trans submits fun _ => respects_pure refl _
    · exact respects_pure refl _
  · exact respects_pure refl _

private theorem isSteady_postHooks (context : Context) (key : ObjectKey) :
    IsSteady (postHooks context key) :=
  respects_postHooks .refl .trans (isSteady_submit context key .post)

private theorem isSteady_forgive (key : ObjectKey) :
    IsSteady (modify (Controller.forgive key) : Pass PUnit) := by
  intro before log result after runs
  obtain ⟨_, _, rfl⟩ := runs_modify_iff.mp runs
  unfold Controller.forgive
  split
  · exact .refl _
  · exact .refl _

/-! ### The course of a pass -/

/-- What a pass does before it decides about the loop: it looks for the templates, and submits the jobs
before the deployment and asks for them. -/
def gate (context : Context) (key : ObjectKey) : Pass Bool := do
  onHooks (HookRecords.register context key)
  preHooksCompleted context key

def proceed (context : Context) (subscription : Subscription) (now : Nat) : Pass NextPass := do
  ensureLoop context subscription now
  let seconds ← postHooks context subscription.key
  writeHookStatus subscription
  modify (Controller.forgive subscription.key)
  return .afterSeconds seconds

def await (context : Context) (subscription : Subscription) : Pass NextPass := do
  stopOutdatedLoop subscription
  writeHookStatus subscription
  return .afterSeconds context.settings.hookPollSeconds

theorem gate_cases {result : Except ReconcileError Bool}
    (runs : Runs (gate context key) before log result after) :
    ∃ registering asking hooks, log = registering ++ asking ∧
      ((∃ error, Ends (HookRecords.register context key before.hooks) registering
          (.error error, hooks) ∧
        asking = [] ∧ after = { before with hooks := hooks } ∧ result = .error (.hook error)) ∨
      Ends (HookRecords.register context key before.hooks) registering (.ok (), hooks) ∧
        Runs (preHooksCompleted context key) { before with hooks := hooks } asking result after) := by
  rcases runs_bind_iff.mp runs with
    ⟨error, failed, rfl⟩ | ⟨registering, _, between, asking, registers, asks, rfl⟩
  · obtain ⟨outcome, hooks, ended, rfl, same⟩ := runs_onHooks_iff.mp failed
    cases outcome with
    | ok done => cases same
    | error error =>
        cases same
        exact ⟨log, [], hooks, (List.append_nil log).symm, .inl ⟨error, ended, rfl, rfl, rfl⟩⟩
  · obtain ⟨outcome, hooks, ended, rfl, same⟩ := runs_onHooks_iff.mp registers
    cases outcome with
    | error error => cases same
    | ok done => exact ⟨registering, asking, hooks, rfl, .inr ⟨ended, asks⟩⟩

theorem gate_loops {result : Except ReconcileError Bool}
    (runs : Runs (gate context key) before log result after) : after.loops = before.loops := by
  obtain ⟨_, _, hooks, _, ⟨_, _, _, rfl, _⟩ | ⟨_, asks⟩⟩ := gate_cases runs
  · rfl
  · exact (preHooksCompleted_cases asks).1.1

theorem gate_confirmed (runs : Runs (gate context key) before log (.ok true) after) :
    Confirmed key after.hooks log := by
  obtain ⟨registering, _, _, rfl, ⟨_, _, _, _, impossible⟩ | ⟨_, asks⟩⟩ := gate_cases runs
  · cases impossible
  · exact ((preHooksCompleted_cases asks).2.1 rfl).prepend registering

theorem gate_awaited (runs : Runs (gate context key) before log (.ok false) after) :
    Awaited key after.hooks log := by
  obtain ⟨registering, _, _, rfl, ⟨_, _, _, _, impossible⟩ | ⟨_, asks⟩⟩ := gate_cases runs
  · cases impossible
  · exact ((preHooksCompleted_cases asks).2.2 rfl).prepend registering

/-- Whether it ends well or not, a loop of the subscription's generation runs then. -/
theorem proceed_cases {now : Nat} {result : Except ReconcileError NextPass}
    (runs : Runs (proceed context subscription now) before log result after) :
    Steady { before with loops := before.loops.ensured context subscription now } after := by
  rcases runs_bind_iff.mp runs with
    ⟨_, failed, _⟩ | ⟨_, _, between, _, ensures, concludes, _⟩
  · cases (runs_ensureLoop_iff.mp failed).2.1
  · obtain ⟨_, _, rfl⟩ := runs_ensureLoop_iff.mp ensures
    have steady : IsSteady (do
        let seconds ← postHooks context subscription.key
        writeHookStatus subscription
        modify (Controller.forgive subscription.key)
        return NextPass.afterSeconds seconds) := by
      refine isSteady_bind (isSteady_postHooks context subscription.key) ?_
      intro seconds
      refine isSteady_bind (isSteady_writeHookStatus subscription) ?_
      intro written
      exact isSteady_bind (isSteady_forgive subscription.key) fun _ => isSteady_pure _
    exact steady concludes

theorem await_cases {result : Except ReconcileError NextPass}
    (runs : Runs (await context subscription) before log result after) :
    Steady { before with loops := before.loops.current subscription } after ∧
      ∀ next, result = .ok next → next = .afterSeconds context.settings.hookPollSeconds := by
  rcases runs_bind_iff.mp runs with
    ⟨_, failed, _⟩ | ⟨_, _, between, _, stops, writes, _⟩
  · cases (runs_stopOutdatedLoop_iff.mp failed).2.1
  · obtain ⟨_, _, rfl⟩ := runs_stopOutdatedLoop_iff.mp stops
    rcases runs_bind_iff.mp writes with ⟨_, failed, rfl⟩ | ⟨_, _, _, _, written, last, _⟩
    · refine ⟨isSteady_writeHookStatus subscription failed, ?_⟩
      intro next impossible
      cases impossible
    · obtain ⟨_, rfl, rfl⟩ := runs_pure_iff.mp last
      refine ⟨isSteady_writeHookStatus subscription written, ?_⟩
      intro next same
      cases same
      rfl

inductive Course (context : Context) (subscription : Subscription) (now : Nat)
    (before : Controller) : Log → Except ReconcileError NextPass → Controller → Prop where
  | deleted (deleting : subscription.metadata.deletionTimestamp.isSome = true) :
      Course context subscription now before [] (.ok .afterChange)
        (before.teardown subscription.key)
  | unread {reason : String} (present : subscription.metadata.deletionTimestamp.isSome = false) :
      Course context subscription now before [⟨.channel subscription.channelKey, .error reason⟩]
        (.error (.channel subscription.channelKey reason)) before
  | missing (present : subscription.metadata.deletionTimestamp.isSome = false) :
      Course context subscription now before [⟨.channel subscription.channelKey, .ok none⟩]
        (.ok (.afterSeconds context.settings.resyncSeconds)) before
  | foreign {channel : Channel} (present : subscription.metadata.deletionTimestamp.isSome = false)
      (other : channel.isGit = false) :
      Course context subscription now before
        [⟨.channel subscription.channelKey, .ok (some channel)⟩] (.ok .afterChange)
        (before.teardown subscription.key)
  | ungated {channel : Channel} {gating : Log} {error : ReconcileError} {after : Controller}
      (present : subscription.metadata.deletionTimestamp.isSome = false)
      (git : channel.isGit = true)
      (failed : Runs (gate context subscription.key) before gating (.error error) after) :
      Course context subscription now before
        (⟨.channel subscription.channelKey, .ok (some channel)⟩ :: gating) (.error error) after
  | waits {channel : Channel} {gating waiting : Log} {between after : Controller}
      {result : Except ReconcileError NextPass}
      (present : subscription.metadata.deletionTimestamp.isSome = false)
      (git : channel.isGit = true)
      (gated : Runs (gate context subscription.key) before gating (.ok false) between)
      (awaits : Runs (await context subscription) between waiting result after) :
      Course context subscription now before
        (⟨.channel subscription.channelKey, .ok (some channel)⟩ :: (gating ++ waiting)) result after
  | goesOn {channel : Channel} {gating concluding : Log} {between after : Controller}
      {result : Except ReconcileError NextPass}
      (present : subscription.metadata.deletionTimestamp.isSome = false)
      (git : channel.isGit = true)
      (gated : Runs (gate context subscription.key) before gating (.ok true) between)
      (proceeds : Runs (proceed context subscription now) between concluding result after) :
      Course context subscription now before
        (⟨.channel subscription.channelKey, .ok (some channel)⟩ :: (gating ++ concluding)) result
        after

variable {now : Nat} {result : Except ReconcileError NextPass}

theorem deliver_cases (runs : Runs (deliver context subscription now) before log result after) :
    (∃ error, Runs (gate context subscription.key) before log (.error error) after ∧
      result = .error error) ∨
    ∃ gating completed between rest, log = gating ++ rest ∧
      Runs (gate context subscription.key) before gating (.ok completed) between ∧
      Runs (if completed then proceed context subscription now else await context subscription)
        between rest result after := by
  rcases runs_bind_iff.mp runs with
    ⟨error, failed, rfl⟩ | ⟨registering, _, hooked, rest, registers, continues, rfl⟩
  · exact .inl ⟨error, runs_bind_iff.mpr (.inl ⟨error, failed, rfl⟩), rfl⟩
  rcases runs_bind_iff.mp continues with
    ⟨error, failed, rfl⟩ | ⟨asking, completed, between, last, asks, concludes, rfl⟩
  · exact .inl ⟨error, runs_bind_iff.mpr (.inr ⟨_, _, _, _, registers, failed, rfl⟩), rfl⟩
  · rw [← List.append_assoc]
    refine .inr ⟨registering ++ asking, completed, between, last, rfl,
      runs_bind_iff.mpr (.inr ⟨_, _, _, _, registers, asks, rfl⟩), ?_⟩
    cases completed with
    | true => exact concludes
    | false => exact concludes

theorem reconcile_course (runs : Runs (reconcile context subscription now) before log result after) :
    Course context subscription now before log result after := by
  unfold reconcile at runs
  dsimp only at runs
  cases deleting : subscription.metadata.deletionTimestamp.isSome with
  | true =>
      rw [if_pos deleting] at runs
      obtain ⟨rfl, rfl, rfl⟩ := runs_modify_pure_iff.mp runs
      exact .deleted deleting
  | false =>
      rw [deleting, if_neg Bool.false_ne_true] at runs
      rcases runs_bind_iff.mp runs with
        ⟨error, failed, rfl⟩ | ⟨_, found, _, rest, looks, continues, rfl⟩
      · obtain ⟨rfl, reply, asked, same⟩ := runs_ask_iff.mp failed
        obtain rfl := ends_ask_iff.mp asked
        cases reply with
        | ok channel => cases same
        | error reason =>
            cases same
            exact .unread deleting
      · obtain ⟨rfl, reply, asked, same⟩ := runs_ask_iff.mp looks
        obtain rfl := ends_ask_iff.mp asked
        cases reply with
        | error reason => cases same
        | ok channel =>
            cases same
            cases found with
            | none =>
                obtain ⟨rfl, rfl, rfl⟩ := runs_pure_iff.mp continues
                exact .missing deleting
            | some channel =>
                cases git : channel.isGit with
                | false =>
                    simp only [git] at continues
                    obtain ⟨rfl, rfl, rfl⟩ := runs_modify_pure_iff.mp continues
                    exact .foreign deleting git
                | true =>
                    simp only [git, if_true] at continues
                    rcases deliver_cases continues with
                      ⟨error, failed, rfl⟩ | ⟨gating, completed, between, last, rfl, gated, ends⟩
                    · exact .ungated deleting git failed
                    · rw [List.singleton_append]
                      cases completed with
                      | true => exact .goesOn deleting git gated ends
                      | false => exact .waits deleting git gated ends

theorem reconcile_of_gate {channel : Channel} {gating concluding : Log} {between : Controller}
    (present : subscription.metadata.deletionTimestamp.isSome = false) (git : channel.isGit = true)
    (gated : Runs (gate context subscription.key) before gating (.ok true) between)
    (proceeds : Runs (proceed context subscription now) between concluding result after) :
    Runs (reconcile context subscription now) before
      (⟨.channel subscription.channelKey, .ok (some channel)⟩ :: (gating ++ concluding)) result
      after := by
  have looks : Runs (ask (.channel subscription.channelKey)
      (Work.ask (.channel subscription.channelKey))) before
      [⟨.channel subscription.channelKey, .ok (some channel)⟩] (.ok (some channel)) before :=
    runs_ask_iff.mpr ⟨rfl, .ok (some channel), ends_ask_iff.mpr rfl, rfl⟩
  unfold reconcile
  dsimp only
  rw [present, if_neg Bool.false_ne_true]
  refine runs_bind_iff.mpr (.inr ⟨_, some channel, before, gating ++ concluding, looks, ?_, rfl⟩)
  simp only [git, if_true]
  rcases runs_bind_iff.mp gated with
    ⟨_, _, impossible⟩ | ⟨registering, _, hooked, asking, registers, asks, rfl⟩
  · cases impossible
  rw [List.append_assoc]
  refine runs_bind_iff.mpr (.inr ⟨registering, (), hooked, _, registers, ?_, rfl⟩)
  exact runs_bind_iff.mpr (.inr ⟨asking, true, between, concluding, asks, proceeds, rfl⟩)

end

end GitDelivery.Pass
