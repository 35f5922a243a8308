import GitDelivery.Proofs.Cluster.Store
import GitDelivery.Proofs.Delivery.Atomic

set_option autoImplicit false

/-! Who writes the status of a subscription. Ticks say how the deployment stands and passes say what
the hooks did; as patches of one object these keep out of each other's way. -/

namespace GitDelivery

open Dialogue Work Cluster

namespace Pass

variable {α β : Type} {allowed : Work.Request → Prop} {context : Context} {key : ObjectKey}
  {subscription : Subscription}

/-! ### What a pass asks -/

def Asks (allowed : Work.Request → Prop) (pass : Pass α) : Prop :=
  ∀ ⦃before log result after⦄, Runs pass before log result after → ∀ entry ∈ log, allowed entry.1

theorem asks_pure (value : α) : Asks allowed (pure value) := by
  intro before log result after runs
  obtain ⟨rfl, _⟩ := runs_pure_iff.mp runs
  exact List.forall_mem_nil _

theorem asks_modify (change : Controller → Controller) : Asks allowed (modify change : Pass PUnit) := by
  intro before log result after runs
  obtain ⟨rfl, _⟩ := runs_modify_iff.mp runs
  exact List.forall_mem_nil _

theorem asks_bind {first : Pass α} {next : α → Pass β} (start : Asks allowed first)
    (rest : ∀ value, Asks allowed (next value)) : Asks allowed (first >>= next) := by
  intro before log result after runs
  rcases runs_bind_iff.mp runs with ⟨_, failed, _⟩ | ⟨_, value, _, _, started, continues, rfl⟩
  · exact start failed
  · exact List.forall_mem_append.mpr ⟨start started, rest value continues⟩

theorem asks_get_bind {next : Controller → Pass α}
    (rest : ∀ controller, Asks allowed (next controller)) : Asks allowed (get >>= next) := by
  intro before log result after runs
  exact rest before (runs_get_bind_iff.mp runs)

theorem asks_ask {failed : String → ReconcileError} {request : Work (Except String α)}
    (only : Only allowed request) : Asks allowed (ask failed request) := by
  intro before log result after runs
  obtain ⟨_, reply, asked, _⟩ := runs_ask_iff.mp runs
  exact only_history only asked

theorem asks_onHooks {work : HookRecords → Work (Except HookError α × HookRecords)}
    (only : ∀ hooks, Only allowed (work hooks)) : Asks allowed (onHooks work) := by
  intro before log result after runs
  obtain ⟨outcome, hooks, worked, _⟩ := runs_onHooks_iff.mp runs
  exact only_history (only before.hooks) worked

/-! ### What a pass says -/

/-- Of a subscription's status only what the hooks did is written. -/
def TellsHooks : Work.Request → Prop
  | .writeStatus _ status => ∃ hooks, status = { hooks := some hooks }
  | .reportOverall _ _ _ => False
  | _ => True

private theorem tellsHooks_of_seeks (request : Work.Request) (seeks : HookTemplates.Seeks request) :
    TellsHooks request := by
  cases request <;> trivial

private theorem tellsHooks_of_concerns (request : Work.Request) (concerns : HookJob.Concerns request) :
    TellsHooks request := by
  cases request <;> trivial

private theorem asks_submit (side : HookSide) :
    Asks TellsHooks (onHooks (HookRecords.submit context key side)) := by
  apply asks_onHooks
  intro hooks
  exact (HookRecords.only_submit side hooks).weaken tellsHooks_of_concerns

private theorem asks_preHooksCompleted : Asks TellsHooks (preHooksCompleted context key) := by
  apply asks_get_bind
  intro controller
  split
  · apply asks_bind (asks_submit .pre)
    intro submitted
    apply asks_onHooks
    intro hooks
    refine only_bind ((HookRecords.only_areCompleted .pre hooks).weaken ?_) (fun _ => only_pure _)
    rintro request ⟨job, rfl⟩
    trivial
  · exact asks_pure true

private theorem asks_writeHookStatus : Asks TellsHooks (writeHookStatus subscription) := by
  apply asks_get_bind
  intro controller
  dsimp only
  split
  · next news =>
      apply asks_ask
      apply only_ask
      obtain ⟨present, _⟩ := Bool.and_eq_true_iff.mp news
      obtain ⟨hooks, there⟩ := Option.isSome_iff_exists.mp present
      refine ⟨hooks, ?_⟩
      rw [there]
  · exact asks_pure ()

private theorem asks_postHooks : Asks TellsHooks (postHooks context key) := by
  apply asks_get_bind
  intro controller
  split
  · split
    · exact asks_bind (asks_submit .post) fun _ => asks_pure _
    · exact asks_pure _
  · exact asks_pure _

private theorem asks_ensureLoop {now : Nat} :
    Asks TellsHooks (ensureLoop context subscription now) := by
  intro before log result after runs
  obtain ⟨rfl, _⟩ := runs_ensureLoop_iff.mp runs
  exact List.forall_mem_nil _

private theorem asks_stopOutdatedLoop : Asks TellsHooks (stopOutdatedLoop subscription) := by
  intro before log result after runs
  obtain ⟨rfl, _⟩ := runs_stopOutdatedLoop_iff.mp runs
  exact List.forall_mem_nil _

private theorem asks_deliver {now : Nat} : Asks TellsHooks (deliver context subscription now) := by
  apply asks_bind (asks_onHooks fun hooks =>
    (HookRecords.only_register hooks).weaken tellsHooks_of_seeks)
  intro registered
  apply asks_bind asks_preHooksCompleted
  intro completed
  split
  · apply asks_bind asks_ensureLoop
    intro ensured
    apply asks_bind asks_postHooks
    intro seconds
    apply asks_bind asks_writeHookStatus
    intro written
    exact asks_bind (asks_modify _) fun _ => asks_pure _
  · apply asks_bind asks_stopOutdatedLoop
    intro stopped
    exact asks_bind asks_writeHookStatus fun _ => asks_pure _

private theorem asks_reconcile {now : Nat} : Asks TellsHooks (reconcile context subscription now) := by
  unfold reconcile
  dsimp only
  split
  · exact asks_bind (asks_modify _) fun _ => asks_pure _
  · refine asks_bind (asks_ask (only_ask trivial)) ?_
    intro found
    split
    · exact asks_pure _
    · split
      · exact asks_deliver
      · exact asks_bind (asks_modify _) fun _ => asks_pure _

end Pass

/-! ### Who writes a status -/

/-- Statuses are written in ticks and in passes. -/
inductive Writer where
  | sync | pass
  deriving DecidableEq

def Writer.Asks : Writer → Log → Prop
  | .sync, log => ∃ context trigger item result after,
      Ends (SyncItem.run context trigger item) log (result, after)
  | .pass, log => ∃ context subscription now before result after,
      Ends (Controller.pass context subscription now before) log (result, after)

/-- Something that is asked has the status of a subscription written, by what is sent for it. -/
inductive Carries (key : ObjectKey) : Work.Request → Exchanges → Prop where
  | status {status : SubscriptionStatus} {history : Exchanges} {outcome : Except ClusterError Unit}
      (ended : Ends (Store.writeStatus key status).run history outcome) :
      Carries key (.writeStatus key status) history
  | overall {subscription : Subscription} {failed : Bool} {message : String} {now : Time.Instant}
      {history : Exchanges} {outcome : Except ClusterError Unit} (named : subscription.key = key)
      (ended : Ends (Store.reportOverall subscription failed message now).run history outcome) :
      Carries key (.reportOverall subscription failed message) history

def Issues (key : ObjectKey) (writer : Writer) (body : Json) : Prop :=
  ∃ log request reply history address answer, writer.Asks log ∧ ⟨request, reply⟩ ∈ log ∧
    Carries key request history ∧ ⟨.send .patch address (some body), answer⟩ ∈ history

section

variable {key : ObjectKey} {body : Json}

theorem Carries.patch {request : Work.Request} {history : Exchanges} {address : String}
    {answer : Except Refusal Json} (carries : Carries key request history)
    (sent : ⟨.send .patch address (some body), answer⟩ ∈ history) :
    ∃ status : SubscriptionStatus, body = status.patch ∧
      (request = .writeStatus key status ∨
        ∃ subscription failed message now, request = .reportOverall subscription failed message ∧
          status = .ofPhase (if failed then .failed else .subscribed) message now) := by
  have only {named : ObjectKey} {status : SubscriptionStatus}
      (sends : Store.Sends named status history) : body = status.patch := by
    rcases sends with rfl | ⟨reply, rfl⟩
    · cases sent
    · cases List.mem_singleton.mp sent
      rfl
  cases carries with
  | status ended => exact ⟨_, only (Store.writeStatus_sends ended), .inl rfl⟩
  | overall named ended =>
      exact ⟨_, only (Store.reportOverall_sends ended), .inr ⟨_, _, _, _, rfl, rfl⟩⟩

private theorem afterTick_ofPhase {limit : Nat} {now : Time.Instant} {result : TickResult}
    {status : SubscriptionStatus}
    (news : SubscriptionStatus.afterTick limit now result = some status) :
    ∃ phase message, status = .ofPhase phase message now := by
  unfold SubscriptionStatus.afterTick at news
  split at news
  · cases news
    exact ⟨_, _, rfl⟩
  · cases news
  · split at news
    · cases news
    · cases news
      exact ⟨_, _, rfl⟩

theorem Issues.of_sync (issues : Issues key .sync body) :
    ∃ phase message now, body = (SubscriptionStatus.ofPhase phase message now).patch := by
  obtain ⟨log, request, reply, history, address, answer, asks, asked, carries, sent⟩ := issues
  obtain ⟨context, trigger, item, result, after, ran⟩ := asks
  obtain ⟨status, rfl, rfl | ⟨_, failed, message, now, _, rfl⟩⟩ := carries.patch sent
  · obtain ⟨ticking, now, reporting, rfl, ticked, reports⟩ := SyncItem.run_ends_iff.mp ran
    rcases List.mem_append.mp asked with early | late
    · exact absurd trivial (only_history SyncItem.only_tick ticked _ early)
    · rcases List.mem_cons.mp late with impossible | told
      · cases impossible
      · split at reports
        · rw [reports] at told
          cases told
        · next status' news =>
            obtain ⟨written, rfl⟩ := reports
            cases List.mem_singleton.mp told
            obtain ⟨phase, message, rfl⟩ := afterTick_ofPhase news
            exact ⟨phase, message, now, rfl⟩
  · exact ⟨_, message, now, rfl⟩

/-- Passes say what the hooks did, and nothing else. -/
theorem Issues.of_pass (issues : Issues key .pass body) :
    ∃ hooks, body = SubscriptionStatus.patch { hooks := some hooks } := by
  obtain ⟨log, request, reply, history, address, answer, asks, asked, carries, sent⟩ := issues
  obtain ⟨context, subscription, now, before, result, after, runs⟩ := asks
  have tells : Pass.TellsHooks request := Pass.asks_reconcile runs _ asked
  obtain ⟨status, rfl, rfl | ⟨_, _, _, _, rfl, _⟩⟩ := carries.patch sent
  · obtain ⟨hooks, rfl⟩ := tells
    exact ⟨hooks, rfl⟩
  · exact tells.elim

/-! ### Patches one after the other -/

def patchedBy (bodies : List Json) (stored : Json) : Json :=
  bodies.foldl Json.mergePatch stored

def lastSync? (writes : List (Writer × Json)) : Option Json :=
  ((writes.filter (·.1 = .sync)).map Prod.snd).getLast?

private theorem lastSync?_cons (write : Writer × Json) (rest : List (Writer × Json)) :
    lastSync? (write :: rest) =
      (lastSync? rest).or (if write.1 = .sync then some write.2 else none) := by
  unfold lastSync?
  rw [List.filter_cons]
  by_cases same : write.1 = .sync
  · simp [same, List.getLast?_cons, Option.or_some]
  · simp [same]

def syncFields : List String := ["phase", "message", "lastUpdateTime"]

variable {stored other : Json} {field : String}

/-- A tick overwrites what ticks say, whatever was there. -/
theorem sync_overwrites (member : field ∈ syncFields) (issues : Issues key .sync body) :
    (stored.mergePatch body).at? ["status", field] = body.at? ["status", field] := by
  obtain ⟨phase, message, now, rfl⟩ := issues.of_sync
  rw [SubscriptionStatus.at?_mergePatch, SubscriptionStatus.at?_patch]
  simp only [syncFields, List.mem_cons, List.not_mem_nil, or_false] at member
  rcases member with rfl | rfl | rfl
  · rfl
  · rfl
  · rfl

private theorem sync_spares (issues : Issues key .sync body) :
    (stored.mergePatch body).at? ["status", "ansiblejobs"] =
      stored.at? ["status", "ansiblejobs"] := by
  obtain ⟨phase, message, now, rfl⟩ := issues.of_sync
  rw [SubscriptionStatus.at?_mergePatch]
  rfl

private theorem pass_spares (member : field ∈ syncFields) (issues : Issues key .pass body) :
    (stored.mergePatch body).at? ["status", field] = stored.at? ["status", field] := by
  obtain ⟨hooks, rfl⟩ := issues.of_pass
  rw [SubscriptionStatus.at?_mergePatch]
  simp only [syncFields, List.mem_cons, List.not_mem_nil, or_false] at member
  rcases member with rfl | rfl | rfl
  · rfl
  · rfl
  · rfl

theorem pass_congr (issues : Issues key .pass body)
    (same : stored.at? ["status", "ansiblejobs"] = other.at? ["status", "ansiblejobs"]) :
    (stored.mergePatch body).at? ["status", "ansiblejobs"] =
      (other.mergePatch body).at? ["status", "ansiblejobs"] := by
  obtain ⟨hooks, rfl⟩ := issues.of_pass
  rw [SubscriptionStatus.at?_mergePatch, SubscriptionStatus.at?_mergePatch, same]

private theorem patchedBy_sync {writes : List (Writer × Json)}
    (issued : ∀ write ∈ writes, Issues key write.1 write.2) (member : field ∈ syncFields) :
    (patchedBy (writes.map Prod.snd) stored).at? ["status", field] =
      ((lastSync? writes).getD stored).at? ["status", field] := by
  induction writes generalizing stored with
  | nil => rfl
  | cons write rest ih =>
      obtain ⟨writer, body⟩ := write
      have first := issued _ List.mem_cons_self
      have others : ∀ write ∈ rest, Issues key write.1 write.2 :=
        fun write inside => issued write (List.mem_cons_of_mem _ inside)
      have later : (patchedBy (rest.map Prod.snd) (stored.mergePatch body)).at? ["status", field] =
          ((lastSync? rest).getD (stored.mergePatch body)).at? ["status", field] := ih others
      refine Eq.trans later ?_
      rw [lastSync?_cons]
      cases lastSync? rest with
      | some last => rfl
      | none =>
          cases writer with
          | sync => exact sync_overwrites member first
          | pass => exact pass_spares member first

private theorem patchedBy_pass {writes : List (Writer × Json)}
    (issued : ∀ write ∈ writes, Issues key write.1 write.2)
    (same : stored.at? ["status", "ansiblejobs"] = other.at? ["status", "ansiblejobs"]) :
    (patchedBy (writes.map Prod.snd) stored).at? ["status", "ansiblejobs"] =
      (patchedBy ((writes.filter (·.1 = .pass)).map Prod.snd) other).at?
        ["status", "ansiblejobs"] := by
  induction writes generalizing stored other with
  | nil => exact same
  | cons write rest ih =>
      obtain ⟨writer, body⟩ := write
      have first := issued _ List.mem_cons_self
      have others : ∀ write ∈ rest, Issues key write.1 write.2 :=
        fun write inside => issued write (List.mem_cons_of_mem _ inside)
      cases writer with
      | sync => exact ih others ((sync_spares first).trans same)
      | pass => exact ih others (pass_congr first same)

/-- However ticks and passes take turns, a status says of the deployment what the last tick said, and
of the hooks what the passes alone would have made of it. -/
theorem writers_keep_apart {writes : List (Writer × Json)}
    (issued : ∀ write ∈ writes, Issues key write.1 write.2) (stored : Json) :
    (match lastSync? writes with
      | some body => ∃ phase message now,
          body = (SubscriptionStatus.ofPhase phase message now).patch ∧
          (patchedBy (writes.map Prod.snd) stored).at? ["status", "phase"] =
            some (.text phase.text) ∧
          (patchedBy (writes.map Prod.snd) stored).at? ["status", "message"] =
            some (.text message) ∧
          (patchedBy (writes.map Prod.snd) stored).at? ["status", "lastUpdateTime"] =
            some (.text now.text)
      | none => ∀ field ∈ syncFields,
          (patchedBy (writes.map Prod.snd) stored).at? ["status", field] =
            stored.at? ["status", field]) ∧
    (patchedBy (writes.map Prod.snd) stored).at? ["status", "ansiblejobs"] =
      (patchedBy ((writes.filter (·.1 = .pass)).map Prod.snd) stored).at?
        ["status", "ansiblejobs"] := by
  refine ⟨?_, patchedBy_pass issued rfl⟩
  have fields : ∀ field ∈ syncFields, (patchedBy (writes.map Prod.snd) stored).at? ["status", field] =
      ((lastSync? writes).getD stored).at? ["status", field] := by
    intro field member
    exact patchedBy_sync issued member
  cases last : lastSync? writes with
  | none =>
      intro field member
      rw [fields field member, last]
      rfl
  | some body =>
      have issues : Issues key .sync body := by
        obtain ⟨write, inside, rfl⟩ := List.mem_map.mp (List.mem_of_getLast? last)
        obtain ⟨member, same⟩ := List.mem_filter.mp inside
        have writer : write.1 = .sync := by simpa using same
        rw [← writer]
        exact issued write member
      obtain ⟨phase, message, now, rfl⟩ := issues.of_sync
      rw [last] at fields
      refine ⟨phase, message, now, rfl, ?_, ?_, ?_⟩
      · rw [fields "phase" (by decide)]
        exact SubscriptionStatus.at?_patch "phase"
      · rw [fields "message" (by decide)]
        exact SubscriptionStatus.at?_patch "message"
      · rw [fields "lastUpdateTime" (by decide)]
        exact SubscriptionStatus.at?_patch "lastUpdateTime"

end

/-! ### A failed tick and a pass after it -/

namespace FailureAndJob

open Atomic.JobAfterDeployment (passed passing submitted)
open SyncItem.UnreadTick (unread unread_ends)

def key : ObjectKey := ⟨"apps", "web"⟩

def failure : Json := SyncItem.UnreadTick.status.patch

def hooks : Json := SubscriptionStatus.patch { hooks := some submitted.status }

private theorem issues {writer : Writer} {log : Log} {status : SubscriptionStatus}
    (asks : writer.Asks log) (asked : ⟨.writeStatus key status, .ok ()⟩ ∈ log) :
    Issues key writer status.patch := by
  obtain ⟨outcome, ended⟩ := Store.exists_writeStatus key status (by decide +kernel)
    (.error .notFound)
  exact ⟨log, _, _, _, _, _, asks, asked, .status ended, List.mem_singleton_self _⟩

private theorem issued :
    ∀ write ∈ [(Writer.sync, failure), (.pass, hooks)], Issues key write.1 write.2 := by
  intro write member
  rcases List.mem_cons.mp member with rfl | member
  · exact issues ⟨_, _, _, _, _, unread_ends⟩ (by simp [unread, key])
  · rw [List.mem_singleton.mp member]
    have told : ⟨.writeStatus key { hooks := some submitted.status }, .ok ()⟩ ∈ passing := by
      apply List.mem_append_right
      apply List.mem_append_right
      apply List.mem_append_right
      exact List.mem_singleton_self _
    exact issues ⟨_, _, _, _, _, _, passed⟩ told

/-- The status says that the tick failed, and which job was submitted. -/
theorem failure_and_job_told :
    (∀ write ∈ [(Writer.sync, failure), (.pass, hooks)], Issues key write.1 write.2) ∧
      (patchedBy [failure, hooks] (.object [])).at? ["status", "phase"] = some (.text "Failed") ∧
      (patchedBy [failure, hooks] (.object [])).at? ["status", "ansiblejobs"] =
        (patchedBy [hooks] (.object [])).at? ["status", "ansiblejobs"] := by
  obtain ⟨⟨phase, message, now, same, said, _⟩, apart⟩ := writers_keep_apart issued (.object [])
  refine ⟨issued, ?_, apart⟩
  have failed : failure.at? ["status", "phase"] = some (.text "Failed") :=
    SubscriptionStatus.at?_patch "phase"
  change failure = _ at same
  rw [same, SubscriptionStatus.at?_patch] at failed
  exact said.trans failed

end FailureAndJob

end GitDelivery
