import GitDelivery.Proofs.Backoff
import GitDelivery.Proofs.Delivery.Pass
import GitDelivery.Proofs.Resource.Key
import GitDelivery.Proofs.Sync.Withholding
import GitDelivery.Proofs.Table

set_option autoImplicit false

/-! When failed passes are made again. The failures of every subscription are counted, from one pass
that went well to the next, and the count alone decides how long the next pass is put off. -/

namespace GitDelivery

open Dialogue Work

namespace Pass

variable {α β : Type} {context : Context} {subscription : Subscription} {key : ObjectKey} {now : Nat}
  {before after : Controller} {log : Log} {result : Except ReconcileError NextPass}

def KeepsFailures (pass : Pass α) : Prop :=
  Respects (fun before after : Controller => after.failures = before.failures) pass

theorem keepsFailures_pure (value : α) : KeepsFailures (pure value) := by
  refine respects_pure ?_ value
  exact fun _ => rfl

theorem keepsFailures_bind {first : Pass α} {next : α → Pass β} (start : KeepsFailures first)
    (rest : ∀ value, KeepsFailures (next value)) : KeepsFailures (first >>= next) := by
  refine respects_bind ?_ start rest
  exact fun early late => late.trans early

theorem keepsFailures_onHooks (work : HookRecords → Work (Except HookError α × HookRecords)) :
    KeepsFailures (onHooks work) := by
  intro before log result after runs
  obtain ⟨_, _, _, rfl, _⟩ := runs_onHooks_iff.mp runs
  rfl

theorem keepsFailures_writeHookStatus (subscription : Subscription) :
    KeepsFailures (writeHookStatus subscription) := by
  intro before log result after runs
  rw [writeHookStatus_same runs]

theorem keepsFailures_gate (context : Context) (key : ObjectKey) :
    KeepsFailures (gate context key) := by
  refine keepsFailures_bind (keepsFailures_onHooks _) fun _ => ?_
  refine respects_get_bind fun controller => ?_
  split
  · exact keepsFailures_bind (keepsFailures_onHooks _) fun _ => keepsFailures_onHooks _
  · exact keepsFailures_pure true

private theorem keepsFailures_await (context : Context) (subscription : Subscription) :
    KeepsFailures (await context subscription) := by
  refine keepsFailures_bind ?_ fun _ =>
    keepsFailures_bind (keepsFailures_writeHookStatus subscription) fun _ => keepsFailures_pure _
  intro before log result after runs
  obtain ⟨_, _, rfl⟩ := runs_stopOutdatedLoop_iff.mp runs
  rfl

private theorem keepsFailures_ensureLoop (context : Context) (subscription : Subscription)
    (now : Nat) :
    KeepsFailures (ensureLoop context subscription now) := by
  intro before log result after runs
  obtain ⟨_, _, rfl⟩ := runs_ensureLoop_iff.mp runs
  rfl

private theorem keepsFailures_postHooks (context : Context) (key : ObjectKey) :
    KeepsFailures (postHooks context key) := by
  refine respects_postHooks ?_ ?_ (keepsFailures_onHooks _)
  · exact fun _ => rfl
  · exact fun early late => late.trans early

/-- The failures are forgiven at the very end, and only if everything before went well. -/
theorem proceed_failures (runs : Runs (proceed context subscription now) before log result after) :
    (∃ error, result = .error error) ∧ after.failures = before.failures ∨
      (∃ seconds, result = .ok (.afterSeconds seconds)) ∧ ∃ between : Controller,
        between.failures = before.failures ∧ after = between.forgive subscription.key := by
  rcases runs_bind_iff.mp runs with
    ⟨error, failed, rfl⟩ | ⟨_, _, ensured, _, ensures, submits, _⟩
  · exact .inl ⟨⟨error, rfl⟩, keepsFailures_ensureLoop _ _ _ failed⟩
  have sameEnsured := keepsFailures_ensureLoop _ _ _ ensures
  rcases runs_bind_iff.mp submits with
    ⟨error, failed, rfl⟩ | ⟨_, seconds, submitted, _, posts, writes, _⟩
  · exact .inl ⟨⟨error, rfl⟩, (keepsFailures_postHooks _ _ failed).trans sameEnsured⟩
  have sameSubmitted := (keepsFailures_postHooks _ _ posts).trans sameEnsured
  rcases runs_bind_iff.mp writes with
    ⟨error, failed, rfl⟩ | ⟨_, _, written, _, wrote, forgives, _⟩
  · exact .inl ⟨⟨error, rfl⟩, (keepsFailures_writeHookStatus _ failed).trans sameSubmitted⟩
  have sameWritten := (keepsFailures_writeHookStatus _ wrote).trans sameSubmitted
  obtain ⟨_, rfl, rfl⟩ := runs_modify_pure_iff.mp forgives
  exact .inr ⟨⟨seconds, rfl⟩, written, sameWritten, rfl⟩

/-- A pass goes through if it finds its gate open and everything after that ends well. -/
def GoesThrough (context : Context) (subscription : Subscription) (now : Nat) (before : Controller)
    (log : Log) (result : Except ReconcileError NextPass) (after : Controller) : Prop :=
  (∃ next, result = .ok next) ∧ ∃ read gating concluding between,
    log = read :: (gating ++ concluding) ∧
    Runs (gate context subscription.key) before gating (.ok true) between ∧
    Runs (proceed context subscription now) between concluding result after

private theorem GoesThrough.forgives
    (through : GoesThrough context subscription now before log result after) :
    ∃ between : Controller,
      between.failures = before.failures ∧ after = between.forgive subscription.key := by
  obtain ⟨⟨next, rfl⟩, _, _, _, opened, _, gated, proceeds⟩ := through
  rcases proceed_failures proceeds with ⟨⟨_, impossible⟩, _⟩ | ⟨_, between, same, forgiven⟩
  · cases impossible
  · exact ⟨between, same.trans (keepsFailures_gate _ _ gated), forgiven⟩

/-- There are three things that a pass can do to the failures, and its result and whether it goes through
tell which one it did. -/
theorem Course.failures_cases (course : Course context subscription now before log result after) :
    GoesThrough context subscription now before log result after ∨
      result = .ok .afterChange ∧ after = before.teardown subscription.key ∨
      result ≠ .ok .afterChange ∧ after.failures = before.failures := by
  cases course with
  | deleted deleting => exact .inr (.inl ⟨rfl, rfl⟩)
  | foreign present other => exact .inr (.inl ⟨rfl, rfl⟩)
  | unread present => exact .inr (.inr ⟨nofun, rfl⟩)
  | missing present => exact .inr (.inr ⟨nofun, rfl⟩)
  | ungated present git failed => exact .inr (.inr ⟨nofun, keepsFailures_gate _ _ failed⟩)
  | waits present git gated awaits =>
      refine .inr (.inr ⟨?_, ?_⟩)
      · intro changes
        cases (await_cases awaits).2 _ changes
      · exact (keepsFailures_await _ _ awaits).trans (keepsFailures_gate _ _ gated)
  | goesOn present git gated proceeds =>
      rcases proceed_failures proceeds with ⟨⟨error, rfl⟩, same⟩ | ⟨⟨seconds, rfl⟩, _⟩
      · exact .inr (.inr ⟨nofun, same.trans (keepsFailures_gate _ _ gated)⟩)
      · exact .inl ⟨⟨_, rfl⟩, _, _, _, _, rfl, gated, proceeds⟩

end Pass

namespace Settings

private theorem natural?_lt {bits number : Nat} {text : String}
    (read : natural? bits text = some number) :
    number < Nat.pow 2 bits :=
  of_decide_eq_true (Option.filter_eq_some_iff.mp read).2

/-- Bounds that are configured are within 64 bits, as are those that are there without it. -/
theorem backoff_ofTexts_le (given : Table String) :
    (ofTexts given).backoffLeast ≤ maxSeconds ∧ (ofTexts given).backoffMost ≤ maxSeconds := by
  have read (name : String) (default : Nat) (fits : default ≤ maxSeconds) :
      ((Table.get? name given).bind (natural? 64)).getD default ≤ maxSeconds := by
    cases found : (Table.get? name given).bind (natural? 64) with
    | none => exact fits
    | some number =>
        obtain ⟨text, _, numbered⟩ := Option.bind_eq_some_iff.mp found
        exact Nat.le_pred_of_lt (natural?_lt numbered)
  exact ⟨read _ _ (by decide), read _ _ (by decide)⟩

end Settings

namespace Controller

def record (settings : Settings) (key : ObjectKey) (controller : Controller) : FailureRecord :=
  (Table.get? key.text controller.failures).getD (.start settings.backoffLeast settings.backoffMost)

variable {settings : Settings} {key other : ObjectKey} {controller : Controller}

theorem record_congr {first second : Controller} (same : second.failures = first.failures) :
    second.record settings key = first.record settings key := by
  unfold record
  rw [same]

private theorem record_teardown :
    (controller.teardown key).record settings other =
      if other.text = key.text then .start settings.backoffLeast settings.backoffMost
      else controller.record settings other := by
  unfold record teardown
  rw [Table.get?_erase]
  split <;> rfl

private theorem record_countFailure :
    (controller.countFailure settings key).2.record settings other =
      if other.text = key.text then (controller.record settings key).fail.2
      else controller.record settings other := by
  unfold record countFailure
  rw [Table.get?_insert]
  split <;> rfl

/-- A record that is new is as good as one that was forgiven. -/
theorem record_forgive :
    (controller.forgive key).record settings other =
      if other.text = key.text then (controller.record settings key).reset
      else controller.record settings other := by
  unfold record forgive
  cases found : Table.get? key.text controller.failures with
  | none =>
      by_cases same : other.text = key.text
      · rw [if_pos same, same, found]
        rfl
      · rw [if_neg same]
  | some known =>
      simp only [Table.get?_insert]
      split <;> rfl

end Controller

namespace Retry

/-- What happens to a subscription: it is asked how long to wait after a failure, a pass goes through, a
pass comes to another end, or the subscription is forgotten. -/
inductive Event where
  | failed (delay : Nat)
  | clean
  | held
  | gone

def Event.isFailure : Event → Bool
  | .failed _ => true
  | _ => false

def Event.startsAnew : Event → Bool
  | .clean | .gone => true
  | _ => false

def own (key : ObjectKey) (events : List (ObjectKey × Event)) : List Event :=
  (events.filter fun entry => entry.1 = key).map Prod.snd

/-- The failures since a pass went through or the subscription was forgotten. -/
def failures (events : List Event) : Nat :=
  (events.reverse.takeWhile fun event => !event.startsAnew).countP Event.isFailure

/-- One thing that happens, and to which subscription. A failure is counted when it is asked how long to
wait after it, whenever that is. -/
inductive Step (context : Context) (before : Controller) :
    ObjectKey → Event → Controller → Prop where
  | failed {key : ObjectKey} {delay : Nat} {after : Controller}
      (counted : before.countFailure context.settings key = (delay, after)) :
      Step context before key (.failed delay) after
  | clean {subscription : Subscription} {now : Nat} {log : Log}
      {result : Except ReconcileError NextPass} {after : Controller}
      (ended : Ends (before.pass context subscription now) log (result, after))
      (through : Pass.GoesThrough context subscription now before log result after) :
      Step context before subscription.key .clean after
  -- Also a pass that fails, which is counted later.
  | held {subscription : Subscription} {now : Nat} {log : Log}
      {result : Except ReconcileError NextPass} {after : Controller}
      (ended : Ends (before.pass context subscription now) log (result, after))
      (short : ¬ Pass.GoesThrough context subscription now before log result after)
      (known : result ≠ .ok .afterChange) :
      Step context before subscription.key .held after
  | gone {subscription : Subscription} {now : Nat} {log : Log} {after : Controller}
      (ended : Ends (before.pass context subscription now) log (.ok .afterChange, after)) :
      Step context before subscription.key .gone after
  -- The subscription is not there any more when a pass for it is to be made.
  | removed (key : ObjectKey) : Step context before key .gone (before.teardown key)

/-- Things that happen one after the other. Meanwhile loops and hooks may change as they like. -/
inductive Run (context : Context) (first : Controller) :
    List (ObjectKey × Event) → Controller → Prop where
  | start : Run context first [] first
  | step {events : List (ObjectKey × Event)} {controller before after : Controller}
      {key : ObjectKey} {event : Event} (run : Run context first events controller)
      (meanwhile : before.failures = controller.failures)
      (step : Step context before key event after) :
      Run context first (events ++ [(key, event)]) after

section

variable {context : Context} {first controller before after : Controller} {key other : ObjectKey}
  {event : Event} {events : List (ObjectKey × Event)}

/-! ### Counting -/

theorem own_append (early late : List (ObjectKey × Event)) :
    own key (early ++ late) = own key early ++ own key late := by
  unfold own
  rw [List.filter_append, List.map_append]

private theorem own_concat (event : Event) :
    own key (events ++ [(other, event)]) =
      if other = key then own key events ++ [event] else own key events := by
  rw [own_append]
  unfold own
  by_cases same : other = key
  · simp [same]
  · simp [same]

private theorem own_cons_self : own key ((key, event) :: events) = event :: own key events := by
  unfold own
  simp

private theorem failures_concat (events : List Event) (event : Event) :
    failures (events ++ [event]) =
      if event.startsAnew then 0 else failures events + if event.isFailure then 1 else 0 := by
  unfold failures
  rw [List.reverse_append, List.reverse_singleton, List.singleton_append, List.takeWhile_cons]
  cases anew : event.startsAnew with
  | true => rfl
  | false => exact List.countP_cons

theorem failures_le_append {early late : List Event}
    (goesOn : ∀ event ∈ late, event.startsAnew = false) :
    failures early ≤ failures (early ++ late) := by
  have kept : ∀ event ∈ late.reverse, (!event.startsAnew) = true := by
    intro event member
    rw [goesOn event (List.mem_reverse.mp member)]
    rfl
  unfold failures
  rw [List.reverse_append, List.takeWhile_append_of_pos kept, List.countP_append]
  exact Nat.le_add_left _ _

/-! ### Records -/

def Event.follow (settings : Settings) (record : FailureRecord) : Event → FailureRecord
  | .failed _ => record.fail.2
  | .clean => record.reset
  | .held => record
  | .gone => .start settings.backoffLeast settings.backoffMost

theorem Step.record (step : Step context before key event after) (other : ObjectKey) :
    after.record context.settings other =
      if other.text = key.text then event.follow context.settings (before.record context.settings key)
      else before.record context.settings other := by
  have kept {between : Controller} (same : between.failures = before.failures) :
      between.record context.settings other =
        if other.text = key.text then before.record context.settings key
        else before.record context.settings other := by
    rw [Controller.record_congr same]
    split
    · rename_i texts
      unfold Controller.record
      rw [texts]
    · rfl
  cases step with
  | failed counted =>
      obtain ⟨_, rfl⟩ := Prod.mk.inj counted
      exact Controller.record_countFailure
  | removed => exact Controller.record_teardown
  | clean ended through =>
      obtain ⟨between, same, rfl⟩ := through.forgives
      rw [Controller.record_forgive, Controller.record_congr same, Controller.record_congr same]
      rfl
  | held ended short known =>
      rcases (Pass.reconcile_course ended).failures_cases with through | ⟨gone, _⟩ | ⟨_, same⟩
      · exact absurd through short
      · exact absurd gone known
      · exact kept same
  | gone ended =>
      rcases (Pass.reconcile_course ended).failures_cases with through | ⟨_, rfl⟩ | ⟨known, _⟩
      · obtain ⟨_, _, _, _, _, _, _, proceeds⟩ := through
        rcases Pass.proceed_failures proceeds with
          ⟨⟨_, impossible⟩, _⟩ | ⟨⟨_, impossible⟩, _⟩
        · cases impossible
        · cases impossible
      · exact Controller.record_teardown
      · exact absurd rfl known

theorem Step.delay_eq {delay : Nat} (step : Step context before key (.failed delay) after) :
    delay = (before.record context.settings key).fail.1 := by
  cases step with
  | failed counted => exact (congrArg Prod.fst counted).symm

theorem Step.of_pass {subscription : Subscription} {now : Nat} {log : Log}
    {result : Except ReconcileError NextPass}
    (ended : Ends (before.pass context subscription now) log (result, after)) :
    ∃ event, Step context before subscription.key event after := by
  -- Whether it goes through is not told by the result alone: a pass that waits looks the same.
  by_cases through : Pass.GoesThrough context subscription now before log result after
  · exact ⟨.clean, .clean ended through⟩
  by_cases gone : result = .ok .afterChange
  · subst gone
    exact ⟨.gone, .gone ended⟩
  · exact ⟨.held, .held ended through gone⟩

/-! ### Runs -/

theorem Run.last (run : Run context first (events ++ [(key, event)]) after) :
    ∃ controller before, Run context first events controller ∧
      before.failures = controller.failures ∧ Step context before key event after := by
  generalize whole : events ++ [(key, event)] = all at run
  cases run with
  | start => simp at whole
  | @step earlier controller before _ _ _ run meanwhile step =>
      obtain ⟨rfl, same⟩ := List.append_inj' whole rfl
      cases same
      exact ⟨controller, before, run, meanwhile, step⟩

theorem Run.early {late : List (ObjectKey × Event)} (run : Run context first (events ++ late) after) :
    ∃ controller, Run context first events controller := by
  induction late using List.reverseRecOn generalizing after with
  | nil => exact ⟨after, by rwa [List.append_nil] at run⟩
  | append_singleton late entry ih =>
      rw [← List.append_assoc] at run
      obtain ⟨controller, _, run, _⟩ := run.last
      exact ih run

section

variable (low : context.settings.backoffLeast ≤ maxSeconds)
  (high : context.settings.backoffMost ≤ maxSeconds)

include low high

theorem follow_after (events : List Event) (event : Event) :
    event.follow context.settings
        (.after context.settings.backoffLeast context.settings.backoffMost (failures events)) =
      .after context.settings.backoffLeast context.settings.backoffMost
        (failures (events ++ [event])) := by
  rw [failures_concat]
  cases event with
  | failed delay =>
      unfold Event.follow
      rw [FailureRecord.fail_after low high]
      rfl
  | clean => exact FailureRecord.reset_after _
  | held => rfl
  | gone => exact FailureRecord.after_zero.symm

/-- The record of every subscription says how often it failed, whatever happened to the others. -/
theorem Run.record (run : Run context first events controller) (fresh : first.failures = [])
    (plain : ∀ entry ∈ events, entry.1.IsPlain) (keyPlain : key.IsPlain) :
    controller.record context.settings key =
      .after context.settings.backoffLeast context.settings.backoffMost
        (failures (own key events)) := by
  induction run with
  | start =>
      unfold Controller.record
      rw [fresh]
      exact FailureRecord.after_zero.symm
  | @step events controller before after named event run meanwhile step ih =>
      have known := ih fun entry member => plain entry (List.mem_append_left _ member)
      have namedPlain : named.IsPlain := plain (named, event) List.mem_concat_self
      rw [step.record, own_concat]
      by_cases same : named = key
      · subst same
        rw [if_pos rfl, if_pos rfl, Controller.record_congr meanwhile, known]
        exact follow_after low high _ event
      · -- Records are kept by text, and plain keys do not share one.
        have texts : key.text ≠ named.text := fun texts =>
          same (ObjectKey.text_inj namedPlain keyPlain texts.symm)
        rw [if_neg texts, if_neg same, Controller.record_congr meanwhile, known]

theorem Run.delay {delay : Nat} {early late : List (ObjectKey × Event)}
    (run : Run context first (early ++ (key, .failed delay) :: late) controller)
    (fresh : first.failures = [])
    (plain : ∀ entry ∈ early ++ (key, .failed delay) :: late, entry.1.IsPlain) :
    delay = Backoff.delay context.settings.backoffLeast context.settings.backoffMost
      (failures (own key early) + 1) := by
  rw [List.append_cons] at run
  obtain ⟨_, run⟩ := run.early
  obtain ⟨_, _, run, meanwhile, step⟩ := run.last
  have here := run.record low high fresh
    (fun entry member => plain entry (List.mem_append_left _ member))
    (plain (key, .failed delay) (List.mem_append_right _ List.mem_cons_self))
  rw [step.delay_eq, Controller.record_congr meanwhile, here, FailureRecord.fail_after low high]

/-- In every run, the delay after a failure is a Fibonacci number of the least delays, up to the longest
one: which one says the number of failures of the same subscription since a pass for it went through or it
was forgotten, and nothing else. So it never gets shorter until then, and is never shorter than the least
delay. No number in a record exceeds its width, however many failures there are. -/
theorem delays_follow_failures (run : Run context first events controller)
    (fresh : first.failures = []) (plain : ∀ entry ∈ events, entry.1.IsPlain) :
    (∀ key delay early late, events = early ++ (key, .failed delay) :: late →
      delay = min (Nat.fib (failures (own key early) + 1) * max context.settings.backoffLeast 1)
          (max context.settings.backoffMost (max context.settings.backoffLeast 1)) ∧
        max context.settings.backoffLeast 1 ≤ delay ∧ delay ≤ maxSeconds) ∧
      (∀ key shorter longer early between late,
        events = early ++ (key, .failed shorter) :: (between ++ (key, .failed longer) :: late) →
        (∀ event ∈ own key between, event.startsAnew = false) → shorter ≤ longer) ∧
      ∀ key : ObjectKey, key.IsPlain → (controller.record context.settings key).Fits := by
  refine ⟨?_, ?_, ?_⟩
  · rintro key delay early late rfl
    have delayIs := run.delay low high fresh plain
    refine ⟨delayIs, ?_, ?_⟩
    · rw [delayIs]
      exact Backoff.le_delay _
    · rw [delayIs]
      exact (Backoff.delay_le _).trans (Backoff.longest_le low high)
  · rintro key shorter longer early between late rfl goesOn
    have shorterIs := run.delay low high fresh plain
    have whole : early ++ (key, .failed shorter) :: (between ++ (key, .failed longer) :: late) =
        early ++ (key, .failed shorter) :: between ++ (key, .failed longer) :: late := by
      simp
    rw [whole] at run plain
    have longerIs := run.delay low high fresh plain
    have more : failures (own key early) ≤
        failures (own key (early ++ (key, .failed shorter) :: between)) := by
      rw [own_append, own_cons_self]
      exact failures_le_append (List.forall_mem_cons.mpr ⟨rfl, goesOn⟩)
    rw [shorterIs, longerIs]
    exact Backoff.delay_mono (Nat.succ_le_succ more)
  · intro key keyPlain
    rw [run.record low high fresh plain keyPlain]
    exact FailureRecord.after_fits low high _

end

end

/-! ### Two subscriptions that fail -/

namespace TwoFailing

open SyncItem.FailedManifest (channel subscription)

def context : Context :=
  { SyncItem.FailedManifest.context with
    settings := .ofTexts [("BACKOFF_MIN_SECS", "3"), ("BACKOFF_MAX_SECS", "7")] }

def web : ObjectKey := subscription.key

def api : ObjectKey := ⟨"apps", "api"⟩

def failing (key : ObjectKey) (controller : Controller) : Controller :=
  (controller.countFailure context.settings key).2

private theorem held : Step context {} web .held {} := by
  have ended : Ends (({} : Controller).pass context subscription 0)
      [⟨.channel subscription.channelKey, .error "timeout"⟩]
      (.error (.channel subscription.channelKey "timeout"), {}) :=
    .ask (.done _)
  exact .held ended (fun through => nomatch through.1) nofun

theorem clean (counted : Table FailureRecord) :
    ∃ after, Step context ⟨[], [], counted⟩ web .clean after := by
  have looked : Pass.Runs (Pass.onHooks (HookRecords.register context web)) ⟨[], [], counted⟩
      [⟨.subscription web, .ok none⟩] (.ok ()) ⟨[], [], counted⟩ :=
    .ask (.done _)
  have gated : Pass.Runs (Pass.gate context web) ⟨[], [], counted⟩
      ([⟨.subscription web, .ok none⟩] ++ []) (.ok true) ⟨[], [], counted⟩ :=
    Pass.runs_bind_iff.mpr (.inr ⟨_, (), _, _, looked, .done _, rfl⟩)
  have proceeds : ∃ after, Pass.Runs (Pass.proceed context subscription 0) ⟨[], [], counted⟩ []
      (.ok (.afterSeconds context.settings.resyncSeconds)) after :=
    ⟨_, .done _⟩
  obtain ⟨after, proceeds⟩ := proceeds
  have git : channel.isGit = true := rfl
  have ended := Pass.reconcile_of_gate rfl git gated proceeds
  exact ⟨after, .clean ended ⟨⟨_, rfl⟩, _, _, _, _, rfl, gated, proceeds⟩⟩

def events : List (ObjectKey × Event) :=
  [(web, .held), (web, .failed 3), (api, .failed 3), (web, .failed 3), (web, .failed 6), (web, .clean)]

private theorem happened : ∃ controller, Run context {} events controller := by
  have counts (key : ObjectKey) (controller : Controller) (delay : Nat)
      (delayIs : (controller.countFailure context.settings key).1 = delay) :
      Step context controller key (.failed delay) (failing key controller) :=
    .failed (Prod.ext delayIs rfl)
  have run : Run context {} [(web, .held)] {} := .step .start rfl held
  have run := run.step rfl (counts web _ 3 (by decide +kernel))
  have run := run.step rfl (counts api _ 3 (by decide +kernel))
  have run := run.step rfl (counts web _ 3 (by decide +kernel))
  have run := run.step rfl (counts web _ 6 (by decide +kernel))
  obtain ⟨after, clean⟩ := clean (failing web (failing web (failing api (failing web {})))).failures
  exact ⟨after, run.step rfl clean⟩

/-- The third failure of the one subscription comes after one of the other, which makes no difference. -/
theorem delays_follow_failures_web :
    context.settings.backoffLeast ≤ maxSeconds ∧ context.settings.backoffMost ≤ maxSeconds ∧
      (∀ entry ∈ events, entry.1.IsPlain) ∧
      ∃ controller, Run context {} events controller ∧
        failures (own web (events.take 4)) = 2 ∧ 6 = min (Nat.fib 3 * 3) 7 ∧
        (controller.record context.settings web).Fits := by
  obtain ⟨low, high⟩ := Settings.backoff_ofTexts_le
    [("BACKOFF_MIN_SECS", "3"), ("BACKOFF_MAX_SECS", "7")]
  have plain : ∀ entry ∈ events, entry.1.IsPlain := by decide +kernel
  obtain ⟨controller, run⟩ := happened
  obtain ⟨delays, _, fits⟩ := delays_follow_failures low high run rfl plain
  have least : max context.settings.backoffLeast 1 = 3 := by decide +kernel
  have most : max context.settings.backoffMost 3 = 7 := by decide +kernel
  have before : failures (own web (events.take 4)) = 2 := by decide +kernel
  have delayIs := (delays web 6 (events.take 4) [(web, .clean)] rfl).1
  rw [least, most, before] at delayIs
  exact ⟨low, high, plain, controller, run, before, delayIs, fits web (by decide +kernel)⟩

end TwoFailing

end Retry

end GitDelivery
