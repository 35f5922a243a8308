import GitDelivery.Proofs.Sync.Assembly
import GitDelivery.Sync.Item

set_option autoImplicit false

/-! The courses that a tick can take. A tick reads the subscription, finds out what to clone, decides,
fetches, assembles and deploys, and it can end after each of these. -/

namespace GitDelivery.SyncItem

open Dialogue Work

section

variable {item : SyncItem} {log : Log}

/-! ### What is asked on the way -/

def Explores : Request → Prop
  | .subscription _ | .time | .channel _ | .secret _ | .configMap _ | .head _ _ => True
  | _ => False

theorem only_read (key : ObjectKey) : Only Explores (read key).run := by
  refine only_run_bind (only_attempt (only_ask trivial)) ?_
  intro found
  cases found with
  | none => exact only_run_throw _
  | some subscription => exact only_run_pure _

theorem only_skip (trigger : Trigger) (subscription : Subscription) :
    Only Explores (item.skip? trigger subscription) :=
  only_bind (only_ask trivial) fun _ => only_pure _

theorem only_load (subscription : Subscription) : Only Explores (Channels.load subscription).run := by
  refine only_run_bind (only_attempt (only_ask trivial)) ?_
  intro found
  cases found with
  | none => exact only_run_throw _
  | some primary =>
      cases subscription.secondaryChannelKey? with
      | none => exact only_run_pure _
      | some other =>
          refine only_run_bind (only_attempt (only_ask trivial)) ?_
          intro found
          cases found with
          | none => exact only_run_throw _
          | some secondary => exact only_run_pure _

private theorem only_ofChannel (channel : Channel) : Only Explores (Remote.ofChannel channel).run := by
  refine only_run_bind ?_ ?_
  · unfold Remote.secretOf
    split
    · exact only_attempt (only_ask trivial)
    · exact only_run_pure _
  · intro secret
    refine only_run_bind ?_ ?_
    · unfold Remote.configMapOf
      split
      · exact only_attempt (only_ask trivial)
      · exact only_run_pure _
    · intro configMap
      exact only_run_bind (only_known _) fun _ => only_run_pure _

theorem only_ofSubscription (subscription : Subscription) (channels : Channels)
    (directory : String) :
    Only Explores (CloneOptions.ofSubscription subscription channels directory).run := by
  refine only_run_bind (only_ofChannel _) ?_
  intro primary
  refine only_run_bind ?_ (fun _ => only_run_pure _)
  cases channels.secondary with
  | none => exact only_run_pure _
  | some channel => exact only_run_bind (only_ofChannel channel) fun _ => only_run_pure _

theorem only_cloneOptions (subscription : Subscription) (directory : String) :
    Only Explores (cloneOptions subscription directory).run := by
  refine only_run_bind (only_run_adapt _ (only_load subscription)) ?_
  intro channels
  exact only_run_adapt _ (only_ofSubscription subscription channels directory)

theorem only_firstAnswer {α : Type} {allowed : Request → Prop}
    {ask : Remote → Work (Except String α)} (only : ∀ remote, Only allowed (ask remote))
    (first : Remote) (rest : List Remote) :
    Only allowed (CloneOptions.firstAnswer ask first rest) := by
  induction rest generalizing first with
  | nil => exact only first
  | cons next rest ih =>
      refine only_bind (only first) ?_
      intro reply
      cases reply with
      | ok answer => exact only_pure _
      | error failure => exact ih next

theorem only_decide (options : CloneOptions) : Only Explores (item.decide options) := by
  unfold decide
  split
  · exact only_pure _
  · split
    · exact only_pure _
    · refine only_bind ?_ ?_
      · unfold CloneOptions.remoteHead
        split
        · exact only_pure _
        · exact only_firstAnswer (fun remote => only_ask trivial) _ _
        · exact only_firstAnswer (fun remote => only_ask trivial) _ _
        · exact only_firstAnswer (fun remote => only_ask trivial) _ _
      · intro reply
        cases reply with
        | ok head => exact only_pure _
        | error failure => exact only_pure _

end

/-- A tick has read its subscription and is not skipped. -/
def Opens (trigger : Trigger) (item : SyncItem) (log : Log) (subscription : Subscription) : Prop :=
  ∃ reading checking, log = reading ++ checking ∧
    Ends (read item.key).run reading (.ok subscription) ∧
    Ends (item.skip? trigger subscription) checking none

def Decides (trigger : Trigger) (item : SyncItem) (log : Log) (subscription : Subscription)
    (options : CloneOptions) (decision : SyncDecision) (drift : DriftWindow) : Prop :=
  ∃ opening resolving deciding, log = opening ++ resolving ++ deciding ∧
    Opens trigger item opening subscription ∧
    Ends (cloneOptions subscription item.directory).run resolving (.ok options) ∧
    Ends (item.decide options) deciding (decision, drift)

def Fetches (trigger : Trigger) (item : SyncItem) (log : Log) (subscription : Subscription)
    (options : CloneOptions) (drift : DriftWindow) (checkout : Checkout) : Prop :=
  ∃ deciding fetching reason, log = deciding ++ fetching ∧
    Decides trigger item deciding subscription options (.resync reason) drift ∧
    Ends options.fetch fetching (.ok checkout)

def Drafts (context : Context) (trigger : Trigger) (item : SyncItem) (log : Log)
    (subscription : Subscription) (options : CloneOptions) (drift : DriftWindow)
    (checkout : Checkout) (draft : Assembly.Draft) : Prop :=
  ∃ fetching assembling, log = fetching ++ assembling ∧
    Fetches trigger item fetching subscription options drift checkout ∧
    Ends (Assembly.draft context subscription options checkout.tree).run assembling (.ok draft)

/-- How a tick went, up to its result. -/
inductive Course (context : Context) (trigger : Trigger) (item : SyncItem) :
    Log → TickResult → SyncItem → Prop where
  | unread {log : Log} {error : SyncError} (failed : Ends (read item.key).run log (.error error)) :
      Course context trigger item log (.error error) item
  | skipped {reading checking : Log} {subscription : Subscription} {reason : TickSkip}
      (found : Ends (read item.key).run reading (.ok subscription))
      (skips : Ends (item.skip? trigger subscription) checking (some reason)) :
      Course context trigger item (reading ++ checking) (.ok (.skipped reason)) item
  | unresolved {opening resolving : Log} {subscription : Subscription} {error : SyncError}
      (opens : Opens trigger item opening subscription)
      (failed : Ends (cloneOptions subscription item.directory).run resolving (.error error)) :
      Course context trigger item (opening ++ resolving) (.error error) item
  | unchanged {log : Log} {subscription : Subscription} {options : CloneOptions}
      {drift : DriftWindow}
      (decides : Decides trigger item log subscription options .skip drift) :
      Course context trigger item log (.ok (.skipped .unchangedCommit)) { item with drift := drift }
  | unfetched {deciding fetching : Log} {subscription : Subscription} {options : CloneOptions}
      {reason : ResyncReason} {drift : DriftWindow} {failure : String}
      (decides : Decides trigger item deciding subscription options (.resync reason) drift)
      (failed : Ends options.fetch fetching (.error failure)) :
      Course context trigger item (deciding ++ fetching)
        (.error (.fetch ("failed to clone " ++ options.primary.url ++ ": " ++ failure)))
        { item with drift := drift }
  | unassembled {fetching assembling : Log} {subscription : Subscription} {options : CloneOptions}
      {drift : DriftWindow} {checkout : Checkout} {error : SyncError}
      (fetches : Fetches trigger item fetching subscription options drift checkout)
      (failed : Ends (Assembly.draft context subscription options checkout.tree).run assembling
        (.error error)) :
      Course context trigger item (fetching ++ assembling) (.error error) { item with drift := drift }
  | undeployed {drafting deploying : Log} {subscription : Subscription} {options : CloneOptions}
      {drift : DriftWindow} {checkout : Checkout} {draft : Assembly.Draft} {error : SyncError}
      (drafts : Drafts context trigger item drafting subscription options drift checkout draft)
      (failed : Ends (draft.deploy context subscription item.successful options.directory).run
        deploying (.error error)) :
      Course context trigger item (drafting ++ deploying) (.error error) { item with drift := drift }
  | deployed {drafting deploying : Log} {subscription : Subscription} {options : CloneOptions}
      {drift : DriftWindow} {checkout : Checkout} {draft : Assembly.Draft} {count : Nat}
      (drafts : Drafts context trigger item drafting subscription options drift checkout draft)
      (went : Ends (draft.deploy context subscription item.successful options.directory).run
        deploying (.ok count)) :
      Course context trigger item (drafting ++ deploying) (.ok (.applied count checkout.commit))
        { item with drift := drift, lastCommit := some checkout.commit, successful := true }

variable {context : Context} {trigger : Trigger} {item after : SyncItem} {log : Log}
  {result : TickResult}

/-- Fetching can fail, assembling can fail, and what was assembled is deployed or not. -/
theorem resync_cases {subscription : Subscription} {options : CloneOptions} {wentWell : Bool}
    {outcome : Except SyncError (Nat × String)}
    (ended : Ends (resync context subscription wentWell options).run log outcome) :
    (∃ failure, Ends options.fetch log (.error failure) ∧
      outcome = .error (.fetch ("failed to clone " ++ options.primary.url ++ ": " ++ failure))) ∨
    ∃ fetching checkout rest, log = fetching ++ rest ∧ Ends options.fetch fetching (.ok checkout) ∧
      ((∃ error, Ends (Assembly.draft context subscription options checkout.tree).run rest
          (.error error) ∧ outcome = .error error) ∨
        ∃ assembling draft deploying deployed, rest = assembling ++ deploying ∧
          Ends (Assembly.draft context subscription options checkout.tree).run assembling
            (.ok draft) ∧
          Ends (draft.deploy context subscription wentWell options.directory).run deploying
            deployed ∧
          outcome = deployed.map fun count => (count, checkout.commit)) := by
  unfold resync at ended
  rcases ends_run_bind_iff.mp ended with
    ⟨error, failed, rfl⟩ | ⟨fetching, checkout, rest, fetched, afterFetch, rfl⟩
  · obtain ⟨reply, fetchEnded, same⟩ := ends_attempt_iff.mp failed
    cases reply with
    | ok checkout => cases same
    | error failure =>
        cases same
        exact .inl ⟨failure, fetchEnded, rfl⟩
  · obtain ⟨reply, fetchEnded, same⟩ := ends_attempt_iff.mp fetched
    cases reply with
    | error failure => cases same
    | ok found =>
        cases same
        refine .inr ⟨fetching, checkout, rest, rfl, fetchEnded, ?_⟩
        obtain ⟨deployed, deployEnded, rfl⟩ := ends_run_bind_pure_iff.mp afterFetch
        rcases ends_run_bind_iff.mp deployEnded with
          ⟨error, unassembled, rfl⟩ | ⟨assembling, draft, deploying, drafted, last, rfl⟩
        · exact .inl ⟨error, unassembled, rfl⟩
        · exact .inr ⟨assembling, draft, deploying, deployed, rfl, drafted, last, rfl⟩

def concluded (item : SyncItem) (drift : DriftWindow) :
    Except SyncError (Nat × String) → TickResult × SyncItem
  | .error error => (.error error, { item with drift := drift })
  | .ok (count, commit) =>
    (.ok (.applied count commit),
      { item with drift := drift, lastCommit := some commit, successful := true })

theorem ends_concluded_iff {work : Work (Except SyncError (Nat × String))} {drift : DriftWindow} :
    Ends (do
      match ← work with
      | .error error => return (.error error, { item with drift := drift })
      | .ok (count, commit) =>
        return (.ok (.applied count commit),
          { item with drift := drift, lastCommit := some commit, successful := true }))
        log (result, after) ↔
      ∃ outcome, Ends work log outcome ∧ (result, after) = item.concluded drift outcome := by
  rw [ends_bind_iff]
  constructor
  · rintro ⟨working, outcome, _, ended, last, rfl⟩
    cases outcome with
    | error error =>
        obtain ⟨rfl, same⟩ := ends_pure_iff.mp last
        rw [List.append_nil]
        exact ⟨.error error, ended, same⟩
    | ok pair =>
        obtain ⟨rfl, same⟩ := ends_pure_iff.mp last
        rw [List.append_nil]
        exact ⟨.ok pair, ended, same⟩
  · rintro ⟨outcome, ended, same⟩
    refine ⟨log, outcome, [], ended, ?_, (List.append_nil log).symm⟩
    cases outcome with
    | error error => exact ends_pure_iff.mpr ⟨rfl, same⟩
    | ok pair => exact ends_pure_iff.mpr ⟨rfl, same⟩

/-- The courses of a tick that has decided to fetch. -/
theorem course_of_resync {deciding working : Log} {subscription : Subscription}
    {options : CloneOptions} {reason : ResyncReason} {drift : DriftWindow}
    {outcome : Except SyncError (Nat × String)}
    (decides : Decides trigger item deciding subscription options (.resync reason) drift)
    (ended : Ends (resync context subscription item.successful options).run working outcome)
    (same : (result, after) = item.concluded drift outcome) :
    Course context trigger item (deciding ++ working) result after := by
  rcases resync_cases ended with
    ⟨failure, failed, rfl⟩ | ⟨fetching, checkout, rest, rfl, fetched, assembled⟩
  · cases same
    exact .unfetched decides failed
  have fetches : Fetches trigger item (deciding ++ fetching) subscription options drift checkout :=
    ⟨deciding, fetching, reason, rfl, decides, fetched⟩
  rcases assembled with
    ⟨error, failed, rfl⟩ | ⟨assembling, draft, deploying, deployed, rfl, drafted, last, rfl⟩
  · cases same
    rw [← List.append_assoc]
    exact .unassembled fetches failed
  have drafts : Drafts context trigger item (deciding ++ fetching ++ assembling) subscription
      options drift checkout draft :=
    ⟨deciding ++ fetching, assembling, rfl, fetches, drafted⟩
  rw [← List.append_assoc, ← List.append_assoc]
  cases deployed with
  | error error =>
      cases same
      exact .undeployed drafts last
  | ok count =>
      cases same
      exact .deployed drafts last

/-- Every tick takes one of the courses. -/
theorem sync_course (ended : Ends (item.sync context trigger) log (result, after)) :
    Course context trigger item log result after := by
  unfold sync at ended
  obtain ⟨reading, found, _, readEnded, afterRead, rfl⟩ := ends_bind_iff.mp ended
  cases found with
  | error error =>
      obtain ⟨rfl, same⟩ := ends_pure_iff.mp afterRead
      cases same
      rw [List.append_nil]
      exact .unread readEnded
  | ok subscription =>
      obtain ⟨checking, skip, _, checkEnded, afterCheck, rfl⟩ := ends_bind_iff.mp afterRead
      cases skip with
      | some reason =>
          obtain ⟨rfl, same⟩ := ends_pure_iff.mp afterCheck
          cases same
          rw [List.append_nil]
          exact .skipped readEnded checkEnded
      | none =>
          have opens : Opens trigger item (reading ++ checking) subscription :=
            ⟨reading, checking, rfl, readEnded, checkEnded⟩
          obtain ⟨resolving, resolved, _, resolveEnded, afterResolve, rfl⟩ :=
            ends_bind_iff.mp afterCheck
          rw [← List.append_assoc]
          cases resolved with
          | error error =>
              obtain ⟨rfl, same⟩ := ends_pure_iff.mp afterResolve
              cases same
              rw [List.append_nil]
              exact .unresolved opens resolveEnded
          | ok options =>
              obtain ⟨deciding, ⟨decision, drift⟩, _, decideEnded, afterDecide, rfl⟩ :=
                ends_bind_iff.mp afterResolve
              have decides : Decides trigger item (reading ++ checking ++ resolving ++ deciding)
                  subscription options decision drift :=
                ⟨reading ++ checking, resolving, deciding, rfl, opens, resolveEnded, decideEnded⟩
              rw [← List.append_assoc, ← List.append_assoc]
              cases decision with
              | skip =>
                  obtain ⟨rfl, same⟩ := ends_pure_iff.mp afterDecide
                  cases same
                  rw [List.append_nil]
                  exact .unchanged decides
              | resync reason =>
                  obtain ⟨outcome, worked, same⟩ := ends_concluded_iff.mp afterDecide
                  exact course_of_resync decides worked same

/-! ### What is deployed, and for which subscription -/

section

variable {subscription : Subscription} {options : CloneOptions} {drift : DriftWindow}
  {decision : SyncDecision} {checkout : Checkout} {draft : Assembly.Draft}

theorem not_deploys_of_explored (explored : ∀ entry ∈ log, Explores entry.1) : ¬ Deploys log := by
  rintro ⟨⟨request, reply⟩, member, deployment⟩
  have explores : Explores request := explored _ member
  cases request <;> first | exact deployment | exact explores

theorem not_deploys_of_fetch {reply : Except String Checkout}
    (ended : Ends options.fetch log reply) : ¬ Deploys log :=
  not_deploys_of_only (only_firstAnswer (fun _ => only_ask id) _ _) ended

theorem not_deploys_append {early late : Log} (first : ¬ Deploys early) (second : ¬ Deploys late) :
    ¬ Deploys (early ++ late) := by
  rw [deploys_append_iff, not_or]
  exact ⟨first, second⟩

private theorem Opens.explored (opens : Opens trigger item log subscription) :
    ∀ entry ∈ log, Explores entry.1 := by
  obtain ⟨reading, checking, rfl, found, checked⟩ := opens
  exact List.forall_mem_append.mpr
    ⟨only_history (only_read _) found, only_history (only_skip _ _) checked⟩

theorem Opens.resolving {resolving : Log} {resolved : Except SyncError CloneOptions}
    (opens : Opens trigger item log subscription)
    (ended : Ends (cloneOptions subscription item.directory).run resolving resolved) :
    ∀ entry ∈ log ++ resolving, Explores entry.1 :=
  List.forall_mem_append.mpr ⟨opens.explored, only_history (only_cloneOptions _ _) ended⟩

/-- Nothing is fetched or deployed before that is decided. -/
theorem Decides.explored
    (decides : Decides trigger item log subscription options decision drift) :
    ∀ entry ∈ log, Explores entry.1 := by
  obtain ⟨_, resolving, deciding, rfl, opens, resolved, decided⟩ := decides
  exact List.forall_mem_append.mpr
    ⟨opens.resolving resolved, only_history (only_decide _) decided⟩

theorem Decides.not_deploys
    (decides : Decides trigger item log subscription options decision drift) : ¬ Deploys log :=
  not_deploys_of_explored decides.explored

theorem Fetches.not_deploys
    (fetches : Fetches trigger item log subscription options drift checkout) :
    ¬ Deploys log := by
  obtain ⟨_, fetching, reason, rfl, decides, fetched⟩ := fetches
  exact not_deploys_append decides.not_deploys (not_deploys_of_fetch fetched)

theorem Drafts.not_deploys
    (drafts : Drafts context trigger item log subscription options drift checkout draft) :
    ¬ Deploys log := by
  obtain ⟨_, assembling, rfl, fetches, drafted⟩ := drafts
  exact not_deploys_append fetches.not_deploys (Assembly.not_deploys_of_draft drafted)

theorem read_ok {key : ObjectKey} (found : Ends (read key).run log (.ok subscription)) :
    log = [⟨.subscription key, .ok (some subscription)⟩] := by
  rcases ends_run_bind_iff.mp found with ⟨_, _, impossible⟩ | ⟨_, stored, _, attempted, rest, rfl⟩
  · cases impossible
  · obtain ⟨reply, asked, same⟩ := ends_attempt_iff.mp attempted
    obtain rfl := ends_ask_iff.mp asked
    cases reply with
    | error reason => cases same
    | ok present =>
        cases same
        cases stored with
        | none => cases (ends_run_throw_iff.mp rest).2
        | some stored =>
            obtain ⟨rfl, same⟩ := ends_run_pure_iff.mp rest
            cases same
            rfl

/-- The subscription that something is drafted for is read first. -/
theorem Drafts.reads_first
    (drafts : Drafts context trigger item log subscription options drift checkout draft) :
    log.head? = some ⟨.subscription item.key, .ok (some subscription)⟩ := by
  obtain ⟨_, assembling, rfl, ⟨_, fetching, reason, rfl, decides, _⟩, _⟩ := drafts
  obtain ⟨_, resolving, deciding, rfl, opens, _, _⟩ := decides
  obtain ⟨reading, checking, rfl, found, _⟩ := opens
  obtain rfl := read_ok found
  rfl

private theorem Drafts.mem_read
    (drafts : Drafts context trigger item log subscription options drift checkout draft) :
    ⟨.subscription item.key, .ok (some subscription)⟩ ∈ log :=
  List.mem_of_head? drafts.reads_first

/-- A tick that deploys something has drafted it, and deploys it last. -/
theorem Course.of_deploys (course : Course context trigger item log result after)
    (deploys : Deploys log) :
    ∃ drafting subscription options drift checkout draft, ∃ reply : Except String Unit,
      Drafts context trigger item drafting subscription options drift checkout draft ∧
      log = drafting ++
        [⟨.deploy (Assembly.ofSubscription subscription draft.assembly.items), reply⟩] ∧
      ∀ count commit, result = .ok (.applied count commit) →
        count = draft.assembly.items.length ∧ commit = checkout.commit := by
  have asked {drafting deploying : Log} {subscription : Subscription} {options : CloneOptions}
      {drift : DriftWindow} {checkout : Checkout} {draft : Assembly.Draft}
      {deployed : Except SyncError Nat} (whole : Deploys (drafting ++ deploying))
      (drafts : Drafts context trigger item drafting subscription options drift checkout draft)
      (ended : Ends (draft.deploy context subscription item.successful options.directory).run
        deploying deployed) :
      ∃ reply : Except String Unit, deploying =
          [⟨.deploy (Assembly.ofSubscription subscription draft.assembly.items), reply⟩] ∧
        deployed = draft.verdict context reply := by
    have handed := (deploys_append_iff.mp whole).resolve_left drafts.not_deploys
    have free := (Assembly.Draft.deploys_iff ended).mp handed
    have shape := Assembly.Draft.deploy_ends_iff.mp ended
    rwa [free, if_neg Bool.false_ne_true] at shape
  cases course with
  | unread failed =>
      exact absurd deploys (not_deploys_of_explored (only_history (only_read _) failed))
  | skipped found skips =>
      exact absurd deploys (not_deploys_of_explored (List.forall_mem_append.mpr
        ⟨only_history (only_read _) found, only_history (only_skip _ _) skips⟩))
  | unresolved opens failed =>
      exact absurd deploys (not_deploys_of_explored (opens.resolving failed))
  | unchanged decides => exact absurd deploys decides.not_deploys
  | unfetched decides failed =>
      exact absurd deploys (not_deploys_append decides.not_deploys (not_deploys_of_fetch failed))
  | unassembled fetches failed =>
      exact absurd deploys (not_deploys_append fetches.not_deploys
        (Assembly.not_deploys_of_draft failed))
  | undeployed drafts failed =>
      obtain ⟨reply, rfl, _⟩ := asked deploys drafts failed
      refine ⟨_, _, _, _, _, _, reply, drafts, rfl, ?_⟩
      intro count commit impossible
      cases impossible
  | deployed drafts went =>
      obtain ⟨reply, rfl, same⟩ := asked deploys drafts went
      refine ⟨_, _, _, _, _, _, reply, drafts, rfl, ?_⟩
      intro count commit applied
      cases applied
      unfold Assembly.Draft.verdict at same
      split at same
      · cases same
      · split at same
        · cases same
          exact ⟨rfl, rfl⟩
        · cases same

theorem Course.mem_read {batch : Batch} {reply : Except String Unit}
    (course : Course context trigger item log result after)
    (member : ⟨.deploy batch, reply⟩ ∈ log) :
    ⟨.subscription item.key, .ok (some batch.subscription)⟩ ∈ log := by
  obtain ⟨drafting, _, _, _, _, _, _, drafts, rfl, _⟩ := course.of_deploys ⟨_, member, trivial⟩
  rcases List.mem_append.mp member with early | late
  · exact absurd ⟨_, early, trivial⟩ drafts.not_deploys
  · cases List.mem_singleton.mp late
    exact List.mem_append_left _ drafts.mem_read

theorem Course.key (course : Course context trigger item log result after) :
    after.key = item.key := by
  cases course <;> rfl

end

/-! ### After fetching -/

section

variable {subscription : Subscription} {options : CloneOptions} {drift : DriftWindow}
  {checkout : Checkout} {draft : Assembly.Draft}

theorem resync_after_fetch_iff {wentWell : Bool} {fetching rest : Log}
    {outcome : Except SyncError (Nat × String)}
    (fetched : Ends options.fetch fetching (.ok checkout)) :
    Ends (resync context subscription wentWell options).run (fetching ++ rest) outcome ↔
      ∃ deployed,
        Ends (Assembly.deploy context subscription wentWell options checkout.tree).run rest
          deployed ∧
        outcome = deployed.map fun count => (count, checkout.commit) := by
  unfold resync
  refine Iff.trans (ends_run_bind_after_iff (ends_attempt_iff.mpr ⟨.ok checkout, fetched, rfl⟩)) ?_
  exact ends_run_bind_pure_iff

/-- What follows once a checkout is there. -/
theorem sync_after_fetches_iff {working rest : Log}
    (fetches : Fetches trigger item working subscription options drift checkout) :
    Ends (item.sync context trigger) (working ++ rest) (result, after) ↔
      ∃ deployed,
        Ends (Assembly.deploy context subscription item.successful options checkout.tree).run rest
          deployed ∧
        (result, after) =
          item.concluded drift (deployed.map fun count => (count, checkout.commit)) := by
  obtain ⟨_, fetching, reason, rfl, decides, fetched⟩ := fetches
  obtain ⟨_, resolving, deciding, rfl, opens, resolved, decided⟩ := decides
  obtain ⟨reading, checking, rfl, found, checked⟩ := opens
  simp only [List.append_assoc]
  unfold sync
  refine Iff.trans (ends_bind_after_iff found) ?_
  refine Iff.trans (ends_bind_after_iff checked) ?_
  refine Iff.trans (ends_bind_after_iff resolved) ?_
  refine Iff.trans (ends_bind_after_iff decided) ?_
  refine Iff.trans ends_concluded_iff ?_
  constructor
  · rintro ⟨outcome, resynced, same⟩
    obtain ⟨deployed, ended, rfl⟩ := (resync_after_fetch_iff fetched).mp resynced
    exact ⟨deployed, ended, same⟩
  · rintro ⟨deployed, ended, same⟩
    exact ⟨_, (resync_after_fetch_iff fetched).mpr ⟨deployed, ended, rfl⟩, same⟩

/-- What follows once everything is assembled. -/
theorem sync_after_drafts_iff {drafting rest : Log}
    (drafts : Drafts context trigger item drafting subscription options drift checkout draft) :
    Ends (item.sync context trigger) (drafting ++ rest) (result, after) ↔
      ∃ deployed,
        Ends (draft.deploy context subscription item.successful options.directory).run rest
          deployed ∧
        (result, after) =
          item.concluded drift (deployed.map fun count => (count, checkout.commit)) := by
  obtain ⟨fetching, assembling, rfl, fetches, drafted⟩ := drafts
  rw [List.append_assoc, sync_after_fetches_iff fetches]
  refine exists_congr fun deployed => and_congr_left fun _ => ?_
  exact ends_run_bind_after_iff drafted

end

end GitDelivery.SyncItem
