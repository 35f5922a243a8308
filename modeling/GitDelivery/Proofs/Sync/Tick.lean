import GitDelivery.Proofs.Sync.Course

set_option autoImplicit false

/-! Ticks one after the other: what they deploy, for which subscription, and what an item remembers of
them. -/

namespace GitDelivery.SyncItem

open Dialogue Work

variable {context : Context} {trigger : Trigger} {item after : SyncItem} {log : Log}
  {result : TickResult}

/-- The tick is the work up to its result, after which a failure is remembered. -/
theorem tick_ends_iff :
    Ends (item.tick context trigger) log (result, after) ↔
      ∃ between, Ends (item.sync context trigger) log (result, between) ∧
        after = between.settle result := by
  unfold tick
  rw [ends_bind_iff]
  constructor
  · rintro ⟨working, ⟨found, between⟩, nothing, synced, last, rfl⟩
    obtain ⟨rfl, same⟩ := ends_pure_iff.mp last
    cases same
    rw [List.append_nil]
    exact ⟨between, synced, rfl⟩
  · rintro ⟨between, synced, rfl⟩
    exact ⟨log, (result, between), [], synced, ends_pure_iff.mpr ⟨rfl, rfl⟩,
      (List.append_nil log).symm⟩

theorem tick_of_drafts {subscription : Subscription} {options : CloneOptions} {drift : DriftWindow}
    {checkout : Checkout} {draft : Assembly.Draft}
    (drafts : Drafts context trigger item log subscription options drift checkout draft)
    (free : draft.isWithheld item.successful = false) (charts : draft.chartErrors = []) :
    Ends (item.tick context trigger)
      (log ++ [⟨.deploy (Assembly.ofSubscription subscription draft.assembly.items), .ok ()⟩])
      (.ok (.applied draft.assembly.items.length checkout.commit),
        { item with drift := drift, lastCommit := some checkout.commit, successful := true }) := by
  refine tick_ends_iff.mpr ⟨_, (sync_after_drafts_iff drafts).mpr
    ⟨.ok draft.assembly.items.length, ?_, rfl⟩, rfl⟩
  rw [Assembly.Draft.deploy_ends_iff, free, if_neg Bool.false_ne_true]
  refine ⟨.ok (), rfl, ?_⟩
  unfold Assembly.Draft.verdict
  rw [if_pos charts]

/-- After a tick the time is asked for, and the status is written if it says something new. -/
theorem run_ends_iff :
    Ends (item.run context trigger) log (result, after) ↔
      ∃ ticking now reporting, log = ticking ++ ⟨.time, now⟩ :: reporting ∧
        Ends (item.tick context trigger) ticking (result, after) ∧
        match SubscriptionStatus.afterTick context.settings.messageLimit now result with
        | none => reporting = []
        | some status =>
          ∃ told : Except String Unit, reporting = [⟨.writeStatus after.key status, told⟩] := by
  constructor
  · intro ended
    obtain ⟨ticking, ⟨outcome, next⟩, reporting, ticked, rest, rfl⟩ := ends_bind_iff.mp ended
    obtain ⟨clock, now, writing, timed, afterTime, rfl⟩ := ends_bind_iff.mp rest
    obtain rfl := ends_ask_iff.mp timed
    cases status : SubscriptionStatus.afterTick context.settings.messageLimit now outcome with
    | none =>
        simp only [status] at afterTime
        obtain ⟨rfl, same⟩ := ends_pure_iff.mp afterTime
        cases same
        refine ⟨ticking, now, [], rfl, ticked, ?_⟩
        rw [status]
    | some status' =>
        simp only [status] at afterTime
        obtain ⟨asking, told, nothing, asked, last, rfl⟩ := ends_bind_iff.mp afterTime
        obtain rfl := ends_ask_iff.mp asked
        obtain ⟨rfl, same⟩ := ends_pure_iff.mp last
        cases same
        refine ⟨ticking, now, _, rfl, ticked, ?_⟩
        rw [status]
        exact ⟨told, rfl⟩
  · rintro ⟨ticking, now, reporting, rfl, ticked, reports⟩
    refine ends_bind ticked (ends_bind_iff.mpr
      ⟨[⟨.time, now⟩], now, reporting, ends_ask_iff.mpr rfl, ?_, rfl⟩)
    cases status : SubscriptionStatus.afterTick context.settings.messageLimit now result with
    | none =>
        rw [status] at reports
        obtain rfl : reporting = [] := reports
        exact .done _
    | some status' =>
        rw [status] at reports
        obtain ⟨told, rfl⟩ : ∃ told : Except String Unit,
            reporting = [⟨.writeStatus after.key status', told⟩] := reports
        exact .ask (.done _)

theorem run_of_tick {now : Time.Instant} {status : SubscriptionStatus} {told : Except String Unit}
    (ticked : Ends (item.tick context trigger) log (result, after))
    (news : SubscriptionStatus.afterTick context.settings.messageLimit now result = some status) :
    Ends (item.run context trigger)
      (log ++ [⟨.time, now⟩, ⟨.writeStatus after.key status, told⟩]) (result, after) := by
  refine run_ends_iff.mpr ⟨log, now, _, rfl, ticked, ?_⟩
  rw [news]
  exact ⟨told, rfl⟩

theorem settle_eq (between : SyncItem) (result : TickResult) :
    ∃ successful, between.settle result = { between with successful := successful } := by
  unfold settle
  split
  · split
    · exact ⟨between.successful, rfl⟩
    · exact ⟨false, rfl⟩
  · exact ⟨between.successful, rfl⟩

theorem tick_key (ended : Ends (item.tick context trigger) log (result, after)) :
    after.key = item.key := by
  obtain ⟨between, synced, rfl⟩ := tick_ends_iff.mp ended
  obtain ⟨successful, same⟩ := settle_eq between result
  rw [same]
  exact (sync_course synced).key

theorem tick_reads_first {count : Nat} {commit : String}
    (ended : Ends (item.tick context trigger) log (.ok (.applied count commit), after)) :
    ∃ subscription, log.head? = some ⟨.subscription item.key, .ok (some subscription)⟩ := by
  obtain ⟨between, synced, _⟩ := tick_ends_iff.mp ended
  cases sync_course synced with
  | @deployed _ _ subscription _ _ _ _ _ drafts went =>
      refine ⟨subscription, ?_⟩
      rw [List.head?_append, drafts.reads_first]
      rfl

/-- After a tick its status may be written, which neither deploys anything nor changes the item. -/
theorem run_parts (ended : Ends (item.run context trigger) log (result, after)) :
    ∃ ticking reporting, log = ticking ++ reporting ∧
      Ends (item.tick context trigger) ticking (result, after) ∧ ¬ Deploys reporting := by
  obtain ⟨ticking, now, reporting, rfl, ticked, reports⟩ := run_ends_iff.mp ended
  refine ⟨ticking, _, rfl, ticked, ?_⟩
  rintro ⟨entry, member, deployment⟩
  split at reports
  · obtain rfl : reporting = [] := reports
    cases List.mem_singleton.mp member
    exact deployment
  · obtain ⟨told, rfl⟩ := reports
    simp only [List.mem_cons, List.not_mem_nil, or_false] at member
    rcases member with rfl | rfl
    · exact deployment
    · exact deployment

theorem run_mem_read {batch : Batch} {reply : Except String Unit}
    (ended : Ends (item.run context trigger) log (result, after))
    (member : ⟨.deploy batch, reply⟩ ∈ log) :
    ⟨.subscription item.key, .ok (some batch.subscription)⟩ ∈ log := by
  obtain ⟨ticking, reporting, rfl, ticked, silent⟩ := run_parts ended
  obtain ⟨between, synced, _⟩ := tick_ends_iff.mp ticked
  rcases List.mem_append.mp member with early | late
  · exact List.mem_append_left reporting ((sync_course synced).mem_read early)
  · exact absurd ⟨_, late, trivial⟩ silent

theorem run_key (ended : Ends (item.run context trigger) log (result, after)) :
    after.key = item.key := by
  obtain ⟨ticking, reporting, rfl, ticked, _⟩ := run_parts ended
  exact tick_key ticked

private theorem settle_error {between : SyncItem} {error : SyncError}
    (same : between.successful = item.successful) :
    (between.settle (.error error)).successful =
      if TickResult.isDecisive (.error error) then false else item.successful := by
  by_cases missing : error.isNotFound = true
  · simp [settle, TickResult.isDecisive, missing, same]
  · simp [settle, TickResult.isDecisive, missing]

/-- A tick that decides how the subscription stands says so; any other changes nothing about it. -/
theorem tick_successful (ended : Ends (item.tick context trigger) log (result, after)) :
    after.successful = if result.isDecisive then result.toOption.isSome else item.successful := by
  obtain ⟨between, synced, rfl⟩ := tick_ends_iff.mp ended
  cases sync_course synced with
  | unread failed => exact settle_error rfl
  | skipped found skips => rfl
  | unresolved opens failed => exact settle_error rfl
  | unchanged decides => rfl
  | unfetched decides failed => exact settle_error rfl
  | unassembled fetches failed => exact settle_error rfl
  | undeployed drafts failed => exact settle_error rfl
  | deployed drafts went => rfl

structure Tick where
  trigger : Trigger
  log : Log
  result : TickResult

/-- Ticks one after the other, whatever is answered. -/
inductive Ticks (context : Context) : SyncItem → List Tick → SyncItem → Prop where
  | nil (item : SyncItem) : Ticks context item [] item
  | cons {item next last : SyncItem} {tick : Tick} {rest : List Tick}
      (ended : Ends (item.tick context tick.trigger) tick.log (tick.result, next))
      (later : Ticks context next rest last) : Ticks context item (tick :: rest) last

/-- The result of the last tick that decided how the subscription stands. -/
def standing? (ticks : List Tick) : Option TickResult :=
  ((ticks.map Tick.result).filter TickResult.isDecisive).getLast?

theorem standing?_cons (tick : Tick) (rest : List Tick) :
    standing? (tick :: rest) =
      (standing? rest).or (if tick.result.isDecisive then some tick.result else none) := by
  unfold standing?
  rw [List.map_cons, List.filter_cons]
  cases tick.result.isDecisive with
  | false => simp
  | true => simp [List.getLast?_cons, Option.or_some]

theorem standing?_split {ticks : List Tick} (stands : standing? ticks = some result) :
    ∃ earlier tick later, ticks = earlier ++ tick :: later ∧ tick.result = result ∧
      ∀ other ∈ later, other.result.isDecisive = false := by
  induction ticks with
  | nil => cases stands
  | cons first rest ih =>
      rw [standing?_cons] at stands
      cases later : standing? rest with
      | some last =>
          rw [later] at stands
          cases stands
          obtain ⟨earlier, tick, after, rfl, same, idle⟩ := ih later
          exact ⟨first :: earlier, tick, after, rfl, same, idle⟩
      | none =>
          rw [later, Option.none_or] at stands
          split at stands
          · cases stands
            refine ⟨[], first, rest, rfl, rfl, ?_⟩
            have none : (rest.map Tick.result).filter TickResult.isDecisive = [] :=
              List.getLast?_eq_none_iff.mp later
            intro other member
            exact Bool.eq_false_iff.mpr
              (List.filter_eq_nil_iff.mp none _ (List.mem_map_of_mem member))
          · cases stands

/-- An item is successful exactly if the last tick that decided anything went well. -/
theorem Ticks.successful {first last : SyncItem} {ticks : List Tick}
    (run : Ticks context first ticks last) :
    last.successful = ((standing? ticks).map fun result => result.toOption.isSome).getD
      first.successful := by
  induction run with
  | nil item => rfl
  | @cons item next last tick rest ended later ih =>
      rw [ih, standing?_cons, tick_successful ended]
      cases standing? rest with
      | some result => rfl
      | none =>
          cases tick.result.isDecisive with
          | true => rfl
          | false => rfl

private theorem standing?_decisive {ticks : List Tick} (stands : standing? ticks = some result) :
    result.isDecisive = true :=
  (List.mem_filter.mp (List.mem_of_getLast? stands)).2

theorem Ticks.successful_iff {subscription : Subscription} {settings : Settings}
    {last : SyncItem} {ticks : List Tick}
    (run : Ticks context (.ofSubscription settings subscription) ticks last) :
    last.successful = true ↔
      ∃ count commit, standing? ticks = some (.ok (.applied count commit)) := by
  rw [run.successful]
  cases stands : standing? ticks with
  | none => simp [ofSubscription]
  | some result =>
      cases result with
      | error error => simp [Except.toOption]
      | ok outcome =>
          cases outcome with
          | applied count commit => simp [Except.toOption]
          | skipped reason => cases standing?_decisive stands

end GitDelivery.SyncItem
