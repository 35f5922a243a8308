import GitDelivery.Hook.Registry
import GitDelivery.Proofs.Work

set_option autoImplicit false

/-! What looking for templates, submitting jobs and asking for them do to the hooks that are known. -/

namespace GitDelivery

open Dialogue Work

variable {context : Context} {key : ObjectKey} {subscription : Subscription} {log : Log}

namespace HookRecord

theorem enroll_current (makeJob : HookJob → HookJob) (templates : List HookJob)
    {first second : JobLedger} (same : first.current = second.current) :
    (enroll makeJob templates first).current = (enroll makeJob templates second).current := by
  induction templates generalizing first second with
  | nil => exact same
  | cons template rest ih =>
      have registered (name : String) (job : HookJob) :
          (first.register name job).current = (second.register name job).current := by
        rw [JobLedger.current_register, JobLedger.current_register, same]
      exact ih (registered _ _)

def instances (context : Context) (revision : Subscription) (clusters : List String)
    (templates : List HookJob) : List (String × HookJob) :=
  (enroll (HookJob.ofTemplate revision (context.hookSuffix revision) clusters) templates {}).current

def templateDirectory (context : Context) (key : ObjectKey) : String :=
  WorkingCopy.directoryOf (FilePath.push context.settings.gitRoot "hooks") key

/-- The jobs before a deployment are those for all templates that were downloaded, in the course of a
history, for a revision of a generation. -/
structure DerivedFor (context : Context) (history : Log) (key : ObjectKey) (generation : Int)
    (record : HookRecord) : Prop where
  numbered : record.generation = some generation
  derived : ∃ (revision : Subscription) (templates : HookTemplates) (clusters : List String)
    (looking download asking : Log),
    looking ++ (download ++ asking) <:+: history ∧
    Ends (HookRecords.gitSubscription? key).run looking (.ok (some revision)) ∧
    revision.metadata.generation = some generation ∧
    Ends (HookTemplates.download revision (templateDirectory context key)).run download
      (.ok templates) ∧
    Ends (clustersFor revision templates) asking clusters ∧
    record.pre.current = instances context revision clusters templates.pre

structure ConcludesFor (context : Context) (key : ObjectKey) (generation : Int)
    (record : HookRecord) : Prop where
  numbered : record.generation = some generation
  derived : ∃ (revision : Subscription) (templates : HookTemplates) (clusters : List String)
    (download asking : Log),
    revision.key = key ∧ revision.metadata.generation = some generation ∧
    Ends (HookTemplates.download revision (templateDirectory context key)).run download
      (.ok templates) ∧
    Ends (clustersFor revision templates) asking clusters ∧
    record.post.current = instances context revision clusters templates.post

/-- The jobs before and after deployments, and the generation that they were made for. -/
def demand (record : HookRecord) :
    Option Int × List (String × HookJob) × List (String × HookJob) :=
  (record.generation, record.pre.current, record.post.current)

theorem DerivedFor.congr {history : Log} {generation : Int} {first second : HookRecord}
    (derived : first.DerivedFor context history key generation)
    (same : second.demand = first.demand) :
    second.DerivedFor context history key generation := by
  have sameGeneration : second.generation = first.generation := congrArg Prod.fst same
  have sameJobs : second.pre.current = first.pre.current := congrArg (·.2.1) same
  constructor
  · exact sameGeneration.trans derived.numbered
  · rw [sameJobs]
    exact derived.derived

theorem DerivedFor.later {history longer : Log} {generation : Int} {record : HookRecord}
    (derived : record.DerivedFor context history key generation) (goesOn : history <:+: longer) :
    record.DerivedFor context longer key generation := by
  obtain ⟨revision, templates, clusters, looking, download, asking, inside, facts⟩ :=
    derived.derived
  exact ⟨derived.numbered, revision, templates, clusters, looking, download, asking,
    inside.trans goesOn, facts⟩

theorem ConcludesFor.congr {generation : Int} {first second : HookRecord}
    (concludes : first.ConcludesFor context key generation) (same : second.demand = first.demand) :
    second.ConcludesFor context key generation := by
  have sameGeneration : second.generation = first.generation := congrArg Prod.fst same
  have sameJobs : second.post.current = first.post.current := congrArg (·.2.2) same
  constructor
  · exact sameGeneration.trans concludes.numbered
  · rw [sameJobs]
    exact concludes.derived

private theorem setSide_demand {record : HookRecord} {ledger : JobLedger} {side : HookSide}
    (same : ledger.current = (record.side side).current) :
    (record.setSide ledger side).demand = record.demand := by
  cases side with
  | pre => exact congrArg (fun jobs => (record.generation, jobs, record.post.current)) same
  | post => exact congrArg (fun jobs => (record.generation, record.pre.current, jobs)) same

/-- A job is asked for, and submitted if it is not there. If either fails that is the end, and else the
job is noted and the others follow. -/
theorem submitAll_cons {limit : Nat} {job : HookJob} {rest : List HookJob}
    {ledger after : JobLedger} {result : Except HookError Unit}
    (ended : Ends (submitAll limit (job :: rest) ledger) log (result, after)) :
    ((∃ reason, log = [⟨.job job.key, .error reason⟩] ∨
        log = [⟨.job job.key, .ok none⟩, ⟨.submit job, .error reason⟩]) ∧
      (∃ error, result = .error error) ∧ after = ledger) ∨
    ∃ first others, log = first ++ others ∧
      ((∃ present, first = [⟨.job job.key, .ok (some present)⟩]) ∨
        first = [⟨.job job.key, .ok none⟩, ⟨.submit job, .ok ()⟩]) ∧
      Ends (submitAll limit rest (ledger.recordApplied limit job.key)) others (result, after) := by
  obtain ⟨_, found, others, asked, afterFound, rfl⟩ := ends_bind_iff.mp ended
  obtain rfl := ends_ask_iff.mp asked
  match found with
  | .error reason =>
      obtain ⟨rfl, same⟩ := ends_pure_iff.mp afterFound
      cases same
      exact .inl ⟨⟨reason, .inl rfl⟩, ⟨_, rfl⟩, rfl⟩
  | .ok (some present) => exact .inr ⟨_, others, rfl, .inl ⟨present, rfl⟩, afterFound⟩
  | .ok none =>
      obtain ⟨_, submitted, later, submits, afterSubmit, rfl⟩ := ends_bind_iff.mp afterFound
      obtain rfl := ends_ask_iff.mp submits
      cases submitted with
      | error reason =>
          obtain ⟨rfl, same⟩ := ends_pure_iff.mp afterSubmit
          cases same
          exact .inl ⟨⟨reason, .inr rfl⟩, ⟨_, rfl⟩, rfl⟩
      | ok done => exact .inr ⟨_, later, rfl, .inr rfl, afterSubmit⟩

private theorem submitAll_current {limit : Nat} {jobs : List HookJob} {ledger after : JobLedger}
    {result : Except HookError Unit}
    (ended : Ends (submitAll limit jobs ledger) log (result, after)) :
    after.current = ledger.current := by
  induction jobs generalizing ledger log with
  | nil =>
      obtain ⟨_, same⟩ := ends_pure_iff.mp ended
      cases same
      rfl
  | cons job rest ih =>
      rcases submitAll_cons ended with ⟨_, _, rfl⟩ | ⟨_, _, _, _, later⟩
      · rfl
      · exact (ih later).trans (JobLedger.current_recordApplied limit job.key ledger)

theorem submitAll_submits {limit : Nat} {jobs : List HookJob} {ledger after : JobLedger}
    {result : Except HookError Unit} {job : HookJob} {reply : Except String Unit}
    (ended : Ends (submitAll limit jobs ledger) log (result, after))
    (submitted : ⟨.submit job, reply⟩ ∈ log) : job ∈ jobs := by
  induction jobs generalizing ledger log with
  | nil =>
      obtain ⟨rfl, _⟩ := ends_pure_iff.mp ended
      cases submitted
  | cons next rest ih =>
      have own {first : Log} (alone : (∃ reply, first = [⟨.job next.key, reply⟩]) ∨
          ∃ reply, first = [⟨.job next.key, .ok none⟩, ⟨.submit next, reply⟩])
          (inside : ⟨.submit job, reply⟩ ∈ first) : job = next := by
        rcases alone with ⟨_, rfl⟩ | ⟨_, rfl⟩
        · simp at inside
        · simp at inside
          exact inside.1
      rcases submitAll_cons ended with
        ⟨⟨reason, alone⟩, _⟩ | ⟨first, others, rfl, alone, later⟩
      · have same := own (alone.imp (fun same => ⟨_, same⟩) fun same => ⟨_, same⟩) submitted
        exact same ▸ List.mem_cons_self
      · rcases List.mem_append.mp submitted with early | late
        · have same := own (alone.imp (fun ⟨_, same⟩ => ⟨_, same⟩) fun same => ⟨_, same⟩) early
          exact same ▸ List.mem_cons_self
        · exact List.mem_cons_of_mem _ (ih later late)

private theorem allSucceeded_cons {first : HookJob} {rest : List HookJob}
    {result : Except HookError Bool} (ended : Ends (allSucceeded (first :: rest)) log result) :
    (∃ reason, result = .error (.unreadable reason)) ∨
    (∃ found : Option HookJob, found.any HookJob.hasSucceeded = false ∧
      log = [⟨.job first.key, .ok found⟩] ∧ result = .ok false) ∨
    ∃ (found : HookJob) (others : Log), found.hasSucceeded = true ∧
      log = ⟨.job first.key, .ok (some found)⟩ :: others ∧ Ends (allSucceeded rest) others result := by
  obtain ⟨_, reply, others, ask, afterReply, rfl⟩ := ends_bind_iff.mp ended
  obtain rfl := ends_ask_iff.mp ask
  cases reply with
  | error reason => exact .inl ⟨reason, (ends_pure_iff.mp afterReply).2⟩
  | ok found =>
      cases done : found.any HookJob.hasSucceeded with
      | false =>
          simp only [done] at afterReply
          obtain ⟨rfl, rfl⟩ := ends_pure_iff.mp afterReply
          exact .inr (.inl ⟨found, done, rfl, rfl⟩)
      | true =>
          simp only [done, if_true] at afterReply
          cases found with
          | none => cases done
          | some present => exact .inr (.inr ⟨present, others, done, rfl, afterReply⟩)

/-- If all jobs are said to have succeeded, each of them was found to have succeeded. -/
theorem allSucceeded_true {jobs : List HookJob}
    (ended : Ends (allSucceeded jobs) log (.ok true)) :
    ∀ job ∈ jobs, ∃ found : HookJob, found.hasSucceeded = true ∧
      ⟨.job job.key, .ok (some found)⟩ ∈ log := by
  induction jobs generalizing log with
  | nil =>
      intro job member
      cases member
  | cons first rest ih =>
      rcases allSucceeded_cons ended with
        ⟨_, impossible⟩ | ⟨_, _, _, impossible⟩ | ⟨present, others, succeeded, rfl, later⟩
      · cases impossible
      · cases impossible
      · intro job member
        rcases List.mem_cons.mp member with rfl | inside
        · exact ⟨present, succeeded, List.mem_cons_self⟩
        · obtain ⟨seen, well, asked⟩ := ih later job inside
          exact ⟨seen, well, List.mem_cons_of_mem _ asked⟩

/-- If some job is said not to have succeeded, that is what was found last. -/
theorem allSucceeded_false {jobs : List HookJob}
    (ended : Ends (allSucceeded jobs) log (.ok false)) :
    ∃ job ∈ jobs, ∃ found : Option HookJob, found.any HookJob.hasSucceeded = false ∧
      [⟨.job job.key, .ok found⟩] <:+ log := by
  induction jobs generalizing log with
  | nil => cases (ends_pure_iff.mp ended).2
  | cons first rest ih =>
      rcases allSucceeded_cons ended with
        ⟨_, impossible⟩ | ⟨found, missing, rfl, _⟩ | ⟨present, others, _, rfl, later⟩
      · cases impossible
      · exact ⟨first, List.mem_cons_self, found, missing, List.suffix_refl _⟩
      · obtain ⟨job, member, found, missing, last⟩ := ih later
        exact ⟨job, List.mem_cons_of_mem _ member, found, missing,
          last.trans (List.suffix_cons _ others)⟩

/-- A record that is current stays; any other is cleared, or made anew of what was downloaded. -/
theorem refresh_cases {record after : HookRecord} {result : Except HookError Unit}
    (ended : Ends (record.refresh context key subscription) log (result, after)) :
    (record.isCurrent subscription = true ∧ after = record ∧ result = .ok () ∧ log = []) ∨
    (record.isCurrent subscription = false ∧ after = record.cleared ∧
      ∃ error, result = .error error ∧
        Ends (HookTemplates.download subscription (templateDirectory context key)).run log
          (.error error)) ∨
    (record.isCurrent subscription = false ∧ result = .ok () ∧
      ∃ templates clusters download asking, log = download ++ asking ∧
        Ends (HookTemplates.download subscription (templateDirectory context key)).run download
          (.ok templates) ∧
        Ends (clustersFor subscription templates) asking clusters ∧
        after = record.renew context subscription templates clusters) := by
  unfold refresh at ended
  cases current : record.isCurrent subscription with
  | true =>
      simp only [current, if_true] at ended
      obtain ⟨rfl, same⟩ := ends_pure_iff.mp ended
      cases same
      exact .inl ⟨rfl, rfl, rfl, rfl⟩
  | false =>
      simp only [current] at ended
      obtain ⟨download, outcome, rest, downloaded, afterDownload, rfl⟩ := ends_bind_iff.mp ended
      cases outcome with
      | error error =>
          obtain ⟨rfl, same⟩ := ends_pure_iff.mp afterDownload
          cases same
          rw [List.append_nil]
          exact .inr (.inl ⟨rfl, rfl, error, rfl, downloaded⟩)
      | ok templates =>
          obtain ⟨asking, clusters, _, asked, last, rfl⟩ := ends_bind_iff.mp afterDownload
          obtain ⟨rfl, same⟩ := ends_pure_iff.mp last
          cases same
          rw [List.append_nil]
          exact .inr (.inr ⟨rfl, rfl, templates, clusters, download, asking, rfl, downloaded, asked,
            rfl⟩)

/-- Whatever comes of looking for templates, a record with a generation was derived for it. -/
theorem refresh_derivedFor {record after : HookRecord} {result : Except HookError Unit}
    {history looking : Log} (inside : looking ++ log <:+: history)
    (looked : Ends (HookRecords.gitSubscription? key).run looking (.ok (some subscription)))
    (ended : Ends (record.refresh context key subscription) log (result, after))
    (derived : ∀ generation, record.generation = some generation →
      record.DerivedFor context history key generation) :
    ∀ generation, after.generation = some generation →
      after.DerivedFor context history key generation := by
  intro generation numbered
  rcases refresh_cases ended with
    ⟨_, rfl, _⟩ | ⟨_, rfl, _⟩ |
      ⟨_, _, templates, clusters, download, asking, rfl, downloaded, asked, rfl⟩
  · exact derived generation numbered
  · cases numbered
  · exact ⟨numbered, subscription, templates, clusters, looking, download, asking, inside, looked,
      numbered, downloaded, asked, enroll_current _ _ rfl⟩

theorem refresh_concludesFor {record after : HookRecord} {result : Except HookError Unit}
    (named : subscription.key = key)
    (ended : Ends (record.refresh context key subscription) log (result, after))
    (concludes : ∀ generation, record.generation = some generation →
      record.ConcludesFor context key generation) :
    ∀ generation, after.generation = some generation →
      after.ConcludesFor context key generation := by
  intro generation numbered
  rcases refresh_cases ended with
    ⟨_, rfl, _⟩ | ⟨_, rfl, _⟩ |
      ⟨_, _, templates, clusters, download, asking, _, downloaded, asked, rfl⟩
  · exact concludes generation numbered
  · cases numbered
  · exact ⟨numbered, subscription, templates, clusters, download, asking, named, numbered,
      downloaded, asked, enroll_current _ _ rfl⟩

/-- If the templates of a subscription are known, they are those of its generation. -/
theorem refresh_generation {record after : HookRecord}
    (ended : Ends (record.refresh context key subscription) log (.ok (), after)) :
    after.generation = subscription.metadata.generation := by
  rcases refresh_cases ended with
    ⟨current, rfl, _⟩ | ⟨_, _, error, impossible, _⟩ | ⟨_, _, templates, clusters, _, _, _, _, _, rfl⟩
  · unfold isCurrent at current
    simp only [Bool.and_eq_true, decide_eq_true_eq] at current
    exact current.2
  · cases impossible
  · rfl

theorem refresh_current {record after : HookRecord} {result : Except HookError Unit}
    {generation : Int} (ended : Ends (record.refresh context key subscription) log (result, after))
    (known : record.generation = some generation)
    (numbered : subscription.metadata.generation = some generation) : after = record := by
  have current : record.isCurrent subscription = true := by
    unfold isCurrent
    simp [known, numbered]
  rcases refresh_cases ended with ⟨_, same, _⟩ | ⟨other, _⟩ | ⟨other, _⟩
  · exact same
  · cases current.symm.trans other
  · cases current.symm.trans other

end HookRecord

namespace HookRecords

variable {records after : HookRecords}

theorem numbered_getD {holds : Int → HookRecord → Prop}
    (every : ∀ record generation, Registry.find? key records = some record →
      record.generation = some generation → holds generation record) :
    ∀ generation, ((Registry.find? key records).getD {}).generation = some generation →
      holds generation ((Registry.find? key records).getD {}) := by
  intro generation numbered
  cases found : Registry.find? key records with
  | none =>
      rw [found] at numbered
      cases numbered
  | some record =>
      rw [found] at numbered
      exact every record generation found numbered

private theorem gitChannel_ok {found : Option Channel}
    (ended : Ends (gitChannel? subscription).run log (.ok found)) :
    ∃ channel : Option Channel, ⟨.channel subscription.channelKey, .ok channel⟩ ∈ log ∧
      found = channel.filter Channel.isGit := by
  obtain ⟨outcome, attempted, same⟩ := ends_run_bind_pure_iff.mp ended
  obtain ⟨reply, asked, rfl⟩ := ends_attempt_iff.mp attempted
  obtain rfl := ends_ask_iff.mp asked
  cases reply with
  | error reason => cases same
  | ok channel =>
      cases same
      exact ⟨channel, List.mem_singleton.mpr rfl, rfl⟩

theorem gitSubscription_ok {found : Option Subscription}
    (ended : Ends (gitSubscription? key).run log (.ok found)) :
    (⟨.subscription key, .ok none⟩ ∈ log ∧ found = none) ∨
      ∃ (stored : Subscription) (channel : Option Channel),
        ⟨.subscription key, .ok (some stored)⟩ ∈ log ∧
        ⟨.channel stored.channelKey, .ok channel⟩ ∈ log ∧
        found = (channel.filter Channel.isGit).map fun _ => stored := by
  rcases ends_run_bind_iff.mp ended with ⟨_, _, impossible⟩ | ⟨_, stored, _, attempted, rest, rfl⟩
  · cases impossible
  · obtain ⟨reply, asked, same⟩ := ends_attempt_iff.mp attempted
    obtain rfl := ends_ask_iff.mp asked
    cases reply with
    | error reason => cases same
    | ok present =>
        cases same
        cases stored with
        | none =>
            obtain ⟨_, same⟩ := ends_run_pure_iff.mp rest
            cases same
            exact .inl ⟨List.mem_cons_self, rfl⟩
        | some stored =>
            obtain ⟨outcome, looked, same⟩ := ends_run_bind_pure_iff.mp rest
            cases outcome with
            | error error => cases same
            | ok git =>
                cases same
                obtain ⟨channel, inside, rfl⟩ := gitChannel_ok looked
                exact .inr ⟨stored, channel, List.mem_cons_self,
                  List.mem_cons_of_mem _ inside, rfl⟩

/-- Only the record of a subscription that deploys from a Git repository is brought up to date. -/
theorem register_cases {result : Except HookError Unit}
    (ended : Ends (register context key records) log (result, after)) :
    (after = records ∧ ∃ error, result = .error error) ∨
    (after = records ∧ result = .ok () ∧ (⟨.subscription key, .ok none⟩ ∈ log ∨
      ∃ (stored : Subscription) (channel : Option Channel),
        ⟨.subscription key, .ok (some stored)⟩ ∈ log ∧
        ⟨.channel stored.channelKey, .ok channel⟩ ∈ log ∧ channel.any Channel.isGit = false)) ∨
    (∃ (stored : Subscription) (record : HookRecord) (looking refreshing : Log),
      log = looking ++ refreshing ∧ ⟨.subscription key, .ok (some stored)⟩ ∈ log ∧
      Ends (gitSubscription? key).run looking (.ok (some stored)) ∧
      Ends (((Registry.find? key records).getD {}).refresh context key stored) refreshing
        (result, record) ∧
      after = Registry.set key record records) := by
  obtain ⟨looking, outcome, rest, looked, afterLook, rfl⟩ := ends_bind_iff.mp ended
  cases outcome with
  | error error =>
      obtain ⟨_, same⟩ := ends_pure_iff.mp afterLook
      cases same
      exact .inl ⟨rfl, error, rfl⟩
  | ok found =>
      rcases gitSubscription_ok looked with
        ⟨absent, rfl⟩ | ⟨stored, channel, present, channelRead, rfl⟩
      · obtain ⟨_, same⟩ := ends_pure_iff.mp afterLook
        cases same
        exact .inr (.inl ⟨rfl, rfl, .inl (List.mem_append_left rest absent)⟩)
      · have storedRead := List.mem_append_left rest present
        cases git : channel.filter Channel.isGit with
        | none =>
            rw [git] at afterLook
            obtain ⟨_, same⟩ := ends_pure_iff.mp afterLook
            cases same
            have other : channel.any Channel.isGit = false := by
              rw [← Option.isSome_filter, git]
              rfl
            exact .inr (.inl ⟨rfl, rfl, .inr ⟨stored, channel, storedRead,
              List.mem_append_left rest channelRead, other⟩⟩)
        | some channel =>
            rw [git] at afterLook looked
            obtain ⟨refreshing, ⟨outcome, record⟩, _, refreshed, last, rfl⟩ :=
              ends_bind_iff.mp afterLook
            obtain ⟨rfl, same⟩ := ends_pure_iff.mp last
            cases same
            rw [List.append_nil] at storedRead ⊢
            exact .inr (.inr ⟨stored, record, looking, refreshing, rfl, storedRead, looked,
              refreshed, rfl⟩)

def SameDemands (before after : HookRecords) : Prop :=
  ∀ key, (Registry.find? key after).map HookRecord.demand =
    (Registry.find? key before).map HookRecord.demand

theorem SameDemands.trans {first second third : HookRecords} (early : SameDemands first second)
    (late : SameDemands second third) : SameDemands first third :=
  fun key => (late key).trans (early key)

theorem SameDemands.find {before after : HookRecords} (same : SameDemands before after)
    {record : HookRecord} (found : Registry.find? key before = some record) :
    ∃ later, Registry.find? key after = some later ∧ later.demand = record.demand := by
  have agree := same key
  rw [found] at agree
  exact Option.map_eq_some_iff.mp agree

theorem SameDemands.find_before {before after : HookRecords} (same : SameDemands before after)
    {record : HookRecord} (found : Registry.find? key after = some record) :
    ∃ earlier, Registry.find? key before = some earlier ∧ earlier.demand = record.demand := by
  have agree := same key
  rw [found] at agree
  exact Option.map_eq_some_iff.mp agree.symm

theorem submit_submits {side : HookSide} {result : Except HookError Unit} {job : HookJob}
    {reply : Except String Unit} (ended : Ends (submit context key side records) log (result, after))
    (submitted : ⟨.submit job, reply⟩ ∈ log) :
    ∃ record, Registry.find? key records = some record ∧ job ∈ (record.side side).latest := by
  unfold submit at ended
  cases found : Registry.find? key records with
  | none =>
      rw [found] at ended
      obtain ⟨rfl, _⟩ := ends_pure_iff.mp ended
      cases submitted
  | some record =>
      rw [found] at ended
      obtain ⟨_, ⟨outcome, ledger⟩, _, submits, last, rfl⟩ := ends_bind_iff.mp ended
      obtain ⟨rfl, _⟩ := ends_pure_iff.mp last
      rw [List.append_nil] at submitted
      exact ⟨record, rfl, HookRecord.submitAll_submits submits submitted⟩

/-- Submitting jobs notes them, and changes nothing about which jobs there are. -/
theorem submit_sameDemands {side : HookSide} {result : Except HookError Unit}
    (ended : Ends (submit context key side records) log (result, after)) :
    SameDemands records after := by
  unfold submit at ended
  cases found : Registry.find? key records with
  | none =>
      rw [found] at ended
      obtain ⟨_, same⟩ := ends_pure_iff.mp ended
      cases same
      exact fun _ => rfl
  | some record =>
      rw [found] at ended
      obtain ⟨_, ⟨outcome, ledger⟩, _, submitted, last, rfl⟩ := ends_bind_iff.mp ended
      obtain ⟨_, same⟩ := ends_pure_iff.mp last
      cases same
      intro other
      by_cases here : other = key
      · subst here
        rw [Registry.find?_set_self, found]
        exact congrArg some (HookRecord.setSide_demand (HookRecord.submitAll_current submitted))
      · rw [Registry.find?_set_of_ne here]

end HookRecords

end GitDelivery
