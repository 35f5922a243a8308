import GitDelivery.Proofs.Sync.Withholding

set_option autoImplicit false

/-! What an item remembers after any ticks, and what one more tick asks and tells. A tick that is
skipped or finds something missing only looks; every other tick writes one status. -/

namespace GitDelivery.SyncItem

open Dialogue Work

section

variable {context : Context} {trigger : Trigger} {item next : SyncItem} {log : Log}
  {result : TickResult}

/-! ### What a tick asks -/

theorem Explores.not_statusWrite {request : Request} (explores : Explores request) :
    ¬ IsStatusWrite request := by
  intro writes
  cases request <;> first | exact writes | exact explores

theorem not_clones_of_explored (explored : ∀ entry ∈ log, Explores entry.1) : ¬ Clones log := by
  rintro ⟨⟨request, reply⟩, member, fetches⟩
  have explores : Explores request := explored _ member
  cases request <;> first | exact explores | cases fetches

private theorem only_resync (subscription : Subscription) (wentWell : Bool) (options : CloneOptions) :
    Only (fun request => ¬ IsStatusWrite request)
      (resync context subscription wentWell options).run := by
  refine only_run_bind (only_attempt (only_firstAnswer (fun _ => only_ask id) _ _)) ?_
  intro checkout
  refine only_run_bind (only_run_bind ?_ ?_) (fun _ => only_run_pure _)
  · refine (Assembly.only_draft checkout.tree).weaken ?_
    intro request prepares writes
    cases request <;> first | exact writes | exact prepares
  · intro draft
    unfold Assembly.Draft.deploy
    split
    · exact only_run_throw _
    · refine only_run_bind (only_attempt (only_ask id)) ?_
      intro done
      split
      · exact only_run_pure _
      · exact only_run_throw _

theorem only_tick : Only (fun request => ¬ IsStatusWrite request) (item.tick context trigger) := by
  have looks (request : Request) (explores : Explores request) : ¬ IsStatusWrite request :=
    explores.not_statusWrite
  refine only_bind ?_ (fun _ => only_pure _)
  refine only_bind ((only_read _).weaken looks) ?_
  intro found
  cases found with
  | error error => exact only_pure _
  | ok subscription =>
      refine only_bind ((only_skip _ _).weaken looks) ?_
      intro skip
      cases skip with
      | some reason => exact only_pure _
      | none =>
          refine only_bind ((only_cloneOptions _ _).weaken looks) ?_
          intro resolved
          cases resolved with
          | error error => exact only_pure _
          | ok options =>
              refine only_bind ((only_decide _).weaken looks) ?_
              rintro ⟨decision, drift⟩
              cases decision with
              | skip => exact only_pure _
              | resync reason =>
                  refine only_bind (only_resync _ _ _) ?_
                  intro outcome
                  cases outcome with
                  | error error => exact only_pure _
                  | ok deployed => exact only_pure _

/-- A tick that decided nothing only looked. -/
theorem Course.explored (course : Course context trigger item log result next)
    (idle : result.isDecisive = false) : ∀ entry ∈ log, Explores entry.1 := by
  have own {error : SyncError} (present : error.isNotFound = false) :
      TickResult.isDecisive (.error error) = true := by
    simp [TickResult.isDecisive, present]
  cases course with
  | unread failed => exact only_history (only_read _) failed
  | skipped found skips =>
      exact List.forall_mem_append.mpr
        ⟨only_history (only_read _) found, only_history (only_skip _ _) skips⟩
  | unresolved opens failed => exact opens.resolving failed
  | unchanged decides => exact decides.explored
  | unfetched decides failed => cases idle
  | unassembled fetches failed =>
      rw [own (Assembly.failsFor_draft _ _ _ failed)] at idle
      cases idle
  | undeployed drafts failed =>
      rw [own (Assembly.Draft.failsFor_deploy _ _ failed)] at idle
      cases idle
  | deployed drafts went => cases idle

private theorem tick_explored (ended : Ends (item.tick context trigger) log (result, next))
    (idle : result.isDecisive = false) : ∀ entry ∈ log, Explores entry.1 := by
  obtain ⟨between, synced, _⟩ := tick_ends_iff.mp ended
  exact (sync_course synced).explored idle

/-! ### What an item remembers -/

def appliedCommit? : TickResult → Option String
  | .ok (.applied _ commit) => some commit
  | .ok (.skipped _) => none
  | .error _ => none

theorem appliedCommit?_of_idle (idle : result.isDecisive = false) : appliedCommit? result = none := by
  cases result with
  | error error => rfl
  | ok outcome =>
      cases outcome with
      | applied count commit => cases idle
      | skipped reason => rfl

private theorem Course.lastCommit (course : Course context trigger item log result next) :
    next.lastCommit = (appliedCommit? result).or item.lastCommit := by
  cases course <;> rfl

theorem tick_lastCommit (ended : Ends (item.tick context trigger) log (result, next)) :
    next.lastCommit = (appliedCommit? result).or item.lastCommit := by
  obtain ⟨between, synced, rfl⟩ := tick_ends_iff.mp ended
  obtain ⟨successful, same⟩ := settle_eq between result
  rw [same]
  exact (sync_course synced).lastCommit

/-! ### Turns -/

def Makes (context : Context) (item : SyncItem) (tick : Tick) (next : SyncItem) : Prop :=
  Ends (item.tick context tick.trigger) tick.log (tick.result, next) ∨
    Ends (item.run context tick.trigger) tick.log (tick.result, next)

inductive Turns (context : Context) : SyncItem → List Tick → SyncItem → Prop where
  | nil (item : SyncItem) : Turns context item [] item
  | cons {item next last : SyncItem} {tick : Tick} {rest : List Tick}
      (made : Makes context item tick next) (later : Turns context next rest last) :
      Turns context item (tick :: rest) last

section

variable {first last : SyncItem} {tick : Tick} {ticks : List Tick}

theorem Makes.ticked (made : Makes context item tick next) :
    ∃ log, Ends (item.tick context tick.trigger) log (tick.result, next) := by
  rcases made with ticked | ran
  · exact ⟨tick.log, ticked⟩
  · obtain ⟨ticking, _, _, _, ticked, _⟩ := run_ends_iff.mp ran
    exact ⟨ticking, ticked⟩

private theorem Makes.explored (made : Makes context item tick next)
    (idle : tick.result.isDecisive = false) : ∀ entry ∈ tick.log, Explores entry.1 := by
  rcases made with ticked | ran
  · exact tick_explored ticked idle
  · obtain ⟨ticking, now, reporting, same, ticked, reports⟩ := run_ends_iff.mp ran
    have silent (limit : Nat) : SubscriptionStatus.afterTick limit now tick.result = none := by
      cases outcome : tick.result with
      | error error =>
          rw [outcome] at idle
          have missing : error.isNotFound = true := by simpa [TickResult.isDecisive] using idle
          exact if_pos missing
      | ok outcome' =>
          cases outcome' with
          | applied count commit =>
              rw [outcome] at idle
              cases idle
          | skipped reason => rfl
    rw [silent] at reports
    obtain rfl : reporting = [] := reports
    rw [same]
    refine List.forall_mem_append.mpr ⟨tick_explored ticked idle, ?_⟩
    intro entry member
    rw [List.mem_singleton.mp member]
    trivial

private theorem Makes.key (made : Makes context item tick next) : next.key = item.key := by
  obtain ⟨log, ticked⟩ := made.ticked
  exact tick_key ticked

theorem Makes.reads_first {count : Nat} {commit : String} (made : Makes context item tick next)
    (applied : tick.result = .ok (.applied count commit)) :
    ∃ subscription, tick.log.head? = some ⟨.subscription item.key, .ok (some subscription)⟩ := by
  unfold Makes at made
  rw [applied] at made
  rcases made with ticked | ran
  · exact tick_reads_first ticked
  · obtain ⟨ticking, now, reporting, same, ticked, _⟩ := run_ends_iff.mp ran
    obtain ⟨subscription, first⟩ := tick_reads_first ticked
    refine ⟨subscription, ?_⟩
    rw [same, List.head?_append, first]
    rfl

theorem Turns.made (run : Turns context first ticks last) (member : tick ∈ ticks) :
    ∃ before after, before.key = first.key ∧ Makes context before tick after := by
  induction run with
  | nil item => cases member
  | @cons item next last turn rest made later ih =>
      rcases List.mem_cons.mp member with rfl | inside
      · exact ⟨item, next, rfl, made⟩
      · obtain ⟨before, after, named, makes⟩ := ih inside
        exact ⟨before, after, named.trans made.key, makes⟩

theorem Turns.append (start : Turns context first ticks item) (made : Makes context item tick next) :
    Turns context first (ticks ++ [tick]) next := by
  induction start with
  | nil item => exact .cons made (.nil next)
  | cons first later ih => exact .cons first (ih made)

private theorem Ticks.turns (run : Ticks context first ticks last) :
    Turns context first ticks last := by
  induction run with
  | nil item => exact .nil item
  | cons ended later ih => exact .cons (.inl ended) ih

theorem Turns.bare (run : Turns context first ticks last) :
    ∃ bare, Ticks context first bare last ∧ bare.map Tick.result = ticks.map Tick.result := by
  induction run with
  | nil item => exact ⟨[], .nil item, rfl⟩
  | @cons item next last tick rest made later ih =>
      obtain ⟨log, ticked⟩ := made.ticked
      obtain ⟨bare, run, same⟩ := ih
      refine ⟨⟨tick.trigger, log, tick.result⟩ :: bare, .cons ticked run, ?_⟩
      rw [List.map_cons, List.map_cons, same]

def latestCommit? (ticks : List Tick) : Option String :=
  (ticks.filterMap fun tick => appliedCommit? tick.result).getLast?

theorem latestCommit?_cons (tick : Tick) (rest : List Tick) :
    latestCommit? (tick :: rest) = (latestCommit? rest).or (appliedCommit? tick.result) := by
  unfold latestCommit?
  rw [List.filterMap_cons]
  cases appliedCommit? tick.result with
  | none => simp
  | some commit => simp [List.getLast?_cons, Option.or_some]

theorem Turns.lastCommit (run : Turns context first ticks last) :
    last.lastCommit = (latestCommit? ticks).or first.lastCommit := by
  induction run with
  | nil item => rfl
  | @cons item next last tick rest made later ih =>
      obtain ⟨log, ticked⟩ := made.ticked
      rw [ih, latestCommit?_cons, tick_lastCommit ticked, Option.or_assoc]

theorem Turns.successful_iff {subscription : Subscription} {settings : Settings}
    (run : Turns context (.ofSubscription settings subscription) ticks last) :
    last.successful = true ↔
      ∃ count commit, standing? ticks = some (.ok (.applied count commit)) := by
  obtain ⟨bare, run, same⟩ := run.bare
  rw [run.successful_iff]
  unfold standing?
  rw [same]

end

/-! ### What is told -/

/-- A status says how a tick ended. What it says of a failure is the start of its text. -/
def Tells (limit : Nat) (now : Time.Instant) (status : SubscriptionStatus) : TickResult → Prop
  | .ok _ => status = .ofPhase .subscribed "" now
  | .error error =>
    ∃ message : String, status = .ofPhase .failed message now ∧
      message.toList <+: error.message.toList ∧ message.length ≤ limit ∧
      (error.message.length ≤ limit → message = error.message)

private theorem tells_of_decisive (limit : Nat) (now : Time.Instant)
    (decisive : result.isDecisive = true) :
    ∃ status, SubscriptionStatus.afterTick limit now result = some status ∧
      Tells limit now status result := by
  cases result with
  | ok outcome =>
      cases outcome with
      | applied count commit => exact ⟨_, rfl, rfl⟩
      | skipped reason => cases decisive
  | error error =>
      have present : error.isNotFound = false := by simpa [TickResult.isDecisive] using decisive
      refine ⟨.ofPhase .failed (Text.truncate limit error.message) now, ?_,
        Text.truncate limit error.message, rfl, ?_, ?_, ?_⟩
      · change (if error.isNotFound = true then none else some _) = some _
        rw [present, if_neg Bool.false_ne_true]
      · rw [Text.truncate, String.toList_ofList]
        exact List.take_prefix limit error.message.toList
      · rw [Text.truncate, String.length_ofList]
        exact List.length_take_le limit error.message.toList
      · intro fits
        rw [← String.length_toList] at fits
        rw [Text.truncate, List.take_of_length_le fits, String.ofList_toList]

/-- A tick that decided something, with its status, tells exactly that. -/
theorem run_tells (ended : Ends (item.run context trigger) log (result, next))
    (decisive : result.isDecisive = true) :
    ∃ now status, ⟨.time, now⟩ ∈ log ∧ statusWrites log = [(item.key, status)] ∧
      Tells context.settings.messageLimit now status result := by
  obtain ⟨ticking, now, reporting, rfl, ticked, reports⟩ := run_ends_iff.mp ended
  obtain ⟨status, news, tells⟩ :=
    tells_of_decisive context.settings.messageLimit now decisive
  rw [news] at reports
  obtain ⟨told, rfl⟩ : ∃ told : Except String Unit,
      reporting = [⟨.writeStatus next.key status, told⟩] := reports
  refine ⟨now, status, ?_, ?_, tells⟩
  · exact List.mem_append_right ticking List.mem_cons_self
  · rw [statusWrites_append, statusWrites_eq_nil (only_history only_tick ticked), tick_key ticked]
    rfl

end

/-! ### A subscription that cannot be read

The tick before deployed a manifest. -/

namespace UnreadTick

open FailedManifest

def failure : SyncError := .fetch ("failed to read subscription: " ++ "unavailable")

def status : SubscriptionStatus :=
  .ofPhase .failed (Text.truncate context.settings.messageLimit failure.message) ⟨0, 0⟩

def unread : Tick :=
  ⟨.periodic,
    [⟨.subscription ⟨"apps", "web"⟩, .error "unavailable"⟩] ++
      [⟨.time, ⟨0, 0⟩⟩, ⟨.writeStatus ⟨"apps", "web"⟩ status, .ok ()⟩],
    .error failure⟩

private theorem turned : Turns context (.ofSubscription context.settings subscription) [firstTick]
    (itemAfter (some "c0ffee") true) :=
  ran.turns

theorem unread_ends : Ends ((itemAfter (some "c0ffee") true).run context .periodic) unread.log
    (.error failure, itemAfter (some "c0ffee") false) := by
  have ticked : Ends ((itemAfter (some "c0ffee") true).tick context .periodic)
      [⟨.subscription ⟨"apps", "web"⟩, .error "unavailable"⟩]
      (.error failure, itemAfter (some "c0ffee") false) := .ask (.done _)
  exact run_of_tick ticked rfl

end UnreadTick

end GitDelivery.SyncItem
