import GitDelivery.Proofs.Hook.Calls

set_option autoImplicit false

/-! What is submitted in the course of calls while the generation of a subscription stays the same. Jobs
are found again by their keys, so each of them is submitted once, however often a call is repeated. -/

namespace GitDelivery

open Dialogue Work

/-! ### Jobs in a log -/

namespace HookJob

def acceptance? : ((request : Request) × request.Reply) → Option HookJob
  | ⟨.submit job, .ok _⟩ => some job
  | _ => none

def accepted (log : Log) : List HookJob :=
  log.filterMap acceptance?

theorem mem_accepted_iff {job : HookJob} {log : Log} :
    job ∈ accepted log ↔ ⟨.submit job, .ok ()⟩ ∈ log := by
  unfold accepted
  rw [List.mem_filterMap]
  constructor
  · rintro ⟨entry, member, same⟩
    unfold acceptance? at same
    split at same
    · cases same
      exact member
    · cases same
  · intro member
    exact ⟨_, member, rfl⟩

theorem accepted_append (early late : Log) :
    accepted (early ++ late) = accepted early ++ accepted late :=
  List.filterMap_append

/-- A job that was accepted is not missing when it is asked for afterwards. -/
def Kept (log : Log) : Prop :=
  log.Pairwise fun earlier later =>
    ∀ job, earlier = ⟨.submit job, .ok ()⟩ → later ≠ ⟨.job job.key, .ok none⟩

/-- Jobs are submitted only where they were just found to be missing. -/
inductive LooksFirst : Log → Prop where
  | nil : LooksFirst []
  | other {entry : (request : Request) × request.Reply} {rest : Log}
      (quiet : ∀ job, entry.1 ≠ .submit job) (later : LooksFirst rest) : LooksFirst (entry :: rest)
  | submit {job : HookJob} {reply : Except String Unit} {rest : Log} (later : LooksFirst rest) :
      LooksFirst (⟨.job job.key, .ok none⟩ :: ⟨.submit job, reply⟩ :: rest)

namespace LooksFirst

variable {log rest : Log}

private theorem of_quiet (quiet : ∀ entry ∈ log, ∀ job, entry.1 ≠ Request.submit job) :
    LooksFirst log := by
  induction log with
  | nil => exact .nil
  | cons entry rest ih =>
      have later := ih fun other member => quiet other (List.mem_cons_of_mem _ member)
      exact .other (quiet entry List.mem_cons_self) later

private theorem append (first : LooksFirst log) (second : LooksFirst rest) :
    LooksFirst (log ++ rest) := by
  induction first with
  | nil => exact second
  | other quiet _ ih => exact .other quiet ih
  | submit _ ih => exact .submit ih

private theorem missing {job : HookJob} {reply : Except String Unit} (looks : LooksFirst log)
    (submitted : ⟨.submit job, reply⟩ ∈ log) : ⟨.job job.key, .ok none⟩ ∈ log := by
  induction looks with
  | nil => cases submitted
  | other quiet _ ih =>
      rcases List.mem_cons.mp submitted with rfl | later
      · exact absurd rfl (quiet job)
      · exact List.mem_cons_of_mem _ (ih later)
  | submit _ ih =>
      rcases List.mem_cons.mp submitted with impossible | submitted
      · cases impossible
      rcases List.mem_cons.mp submitted with here | later
      · cases here
        exact List.mem_cons_self
      · exact List.mem_cons_of_mem _ (List.mem_cons_of_mem _ (ih later))

theorem distinct (looks : LooksFirst log) (kept : Kept log) :
    ((accepted log).map HookJob.key).Nodup := by
  induction looks with
  | nil => exact List.nodup_nil
  | @other entry rest quiet _ ih =>
      have silent : acceptance? entry = none := by
        unfold acceptance?
        split
        · exact absurd rfl (quiet _)
        · rfl
      unfold accepted
      rw [List.filterMap_cons_none silent]
      exact ih (List.pairwise_cons.mp kept).2
  | @submit job reply rest later ih =>
      obtain ⟨_, kept⟩ := List.pairwise_cons.mp kept
      obtain ⟨stays, keptLater⟩ := List.pairwise_cons.mp kept
      cases reply with
      | error reason => exact ih keptLater
      | ok done =>
          change (job.key :: (accepted rest).map HookJob.key).Nodup
          refine List.nodup_cons.mpr ⟨?_, ih keptLater⟩
          -- A second acceptance would come after a question that finds the first job missing.
          intro again
          obtain ⟨other, acceptedLater, same⟩ := List.mem_map.mp again
          have asked := later.missing (mem_accepted_iff.mp acceptedLater)
          exact stays _ asked job rfl (by rw [same])

end LooksFirst

/-- A store of jobs answers like this whenever it answers at all. -/
def Shown (jobs : ObjectKey → Option HookJob) (log : Log) : Prop :=
  ∀ key found, ⟨.job key, .ok found⟩ ∈ log → jobs key = found

def Succeeded (jobs : ObjectKey → Option HookJob) (key : ObjectKey) : Prop :=
  ∃ found status, jobs key = some found ∧ found.resultStatus? = some status ∧
    Text.sameIgnoringCase status Vocabulary.jobSucceeded = true

theorem succeeded_iff {jobs : ObjectKey → Option HookJob} {key : ObjectKey} :
    Succeeded jobs key ↔ (jobs key).any hasSucceeded = true := by
  unfold Succeeded hasSucceeded
  simp only [Option.any_eq_true]
  constructor
  · rintro ⟨found, status, there, reports, same⟩
    exact ⟨found, there, status, reports, same⟩
  · rintro ⟨found, there, status, reports, same⟩
    exact ⟨found, status, there, reports, same⟩

end HookJob

namespace HookRecord

variable {log : Log}

private theorem submitAll_looksFirst {limit : Nat} {jobs : List HookJob} {ledger after : JobLedger}
    {result : Except HookError Unit}
    (ended : Ends (submitAll limit jobs ledger) log (result, after)) : HookJob.LooksFirst log := by
  induction jobs generalizing ledger log with
  | nil =>
      obtain ⟨rfl, _⟩ := ends_pure_iff.mp ended
      exact .nil
  | cons job rest ih =>
      rcases submitAll_cons ended with
        ⟨⟨reason, rfl | rfl⟩, _⟩ | ⟨_, others, rfl, ⟨present, rfl⟩ | rfl, later⟩
      · exact .other (by simp) .nil
      · exact .submit .nil
      · exact .other (by simp) (ih later)
      · exact .submit (ih later)

theorem allSucceeded_iff {jobs : List HookJob} {done : Bool} {store : ObjectKey → Option HookJob}
    (ended : Ends (allSucceeded jobs) log (.ok done)) (shown : HookJob.Shown store log) :
    done = true ↔ ∀ job ∈ jobs, HookJob.Succeeded store job.key := by
  simp only [HookJob.succeeded_iff]
  cases done with
  | true =>
      refine iff_of_true rfl ?_
      intro job member
      obtain ⟨found, succeeded, asked⟩ := allSucceeded_true ended job member
      rw [shown _ _ asked]
      exact succeeded
  | false =>
      refine iff_of_false Bool.false_ne_true ?_
      intro all
      obtain ⟨job, member, found, failed, last⟩ := allSucceeded_false ended
      have succeeded := all job member
      rw [shown _ _ (last.subset List.mem_cons_self), failed] at succeeded
      cases succeeded

end HookRecord

namespace HookRecords

variable {context : Context} {key : ObjectKey} {log : Log} {first before after records : HookRecords}
  {call : HookCall} {history : List MadeCall} {generation : Option Int}

/-- The gate is open where there are no jobs, and else exactly when all of them have succeeded. -/
theorem areCompleted_iff {side : HookSide} {done : Bool} {store : ObjectKey → Option HookJob}
    (ended : Ends (areCompleted key side records) log (.ok done))
    (shown : HookJob.Shown store log) :
    done = true ↔ Registry.find? key records = none ∨
      ∃ record, Registry.find? key records = some record ∧
        ((record.side side).isEmpty = true ∨
          ∀ job ∈ (record.side side).latest, HookJob.Succeeded store job.key) := by
  unfold areCompleted at ended
  cases found : Registry.find? key records with
  | none =>
      rw [found] at ended
      obtain ⟨_, same⟩ := ends_pure_iff.mp ended
      cases same
      simp
  | some record =>
      rw [found] at ended
      rw [HookRecord.allSucceeded_iff ended shown]
      constructor
      · intro all
        exact .inr ⟨record, rfl, .inr all⟩
      · rintro (impossible | ⟨other, same, blank | all⟩)
        · cases impossible
        · cases same
          have nothing : (record.side side).latest = [] := by
            unfold JobLedger.latest
            rw [JobLedger.isEmpty_iff.mp blank]
            rfl
          rw [nothing]
          simp
        · cases same
          exact all

/-! ### Calls at one generation -/

def AtGeneration (key : ObjectKey) (generation : Option Int) (log : Log) : Prop :=
  ∀ revision, ⟨.subscription key, .ok (some revision)⟩ ∈ log →
    generation.isSome = true ∧ revision.metadata.generation = generation

private theorem AtGeneration.numbered (steady : AtGeneration key generation log) :
    Numbered key log := by
  intro revision member
  obtain ⟨present, same⟩ := steady revision member
  rw [same]
  exact Option.isSome_iff_ne_none.mp present

theorem Performs.looksFirst (performed : Performs context key before call log after) :
    HookJob.LooksFirst log := by
  cases performed with
  | register ended =>
      refine .of_quiet ?_
      rintro ⟨request, reply⟩ member job rfl
      exact only_history (only_register _) ended _ member
  | submit ended =>
      unfold HookRecords.submit at ended
      split at ended
      · obtain ⟨rfl, _⟩ := ends_pure_iff.mp ended
        exact .nil
      · obtain ⟨_, ⟨outcome, ledger⟩, _, submits, last, rfl⟩ := ends_bind_iff.mp ended
        obtain ⟨rfl, _⟩ := ends_pure_iff.mp last
        rw [List.append_nil]
        exact HookRecord.submitAll_looksFirst submits
  | check ended =>
      refine .of_quiet ?_
      rintro ⟨request, reply⟩ member job rfl
      obtain ⟨_, same⟩ := only_history (only_areCompleted _ _) ended _ member
      cases same
  | deregister => exact .nil

def logOf (history : List MadeCall) : Log :=
  history.flatMap MadeCall.log

private theorem logOf_concat (history : List MadeCall) (made : MadeCall) :
    logOf (history ++ [made]) = logOf history ++ made.log := by
  simp [logOf]

theorem Calls.looksFirst (calls : Calls context key first history records) :
    HookJob.LooksFirst (logOf history) := by
  induction calls with
  | start => exact .nil
  | next _ performed ih =>
      rw [logOf_concat]
      exact ih.append performed.looksFirst

theorem Performs.keeps_demand {record : HookRecord}
    (performed : Performs context key before call log after) (goesOn : call ≠ .deregister)
    (steady : AtGeneration key generation log) (found : Registry.find? key before = some record)
    (numbered : record.generation = generation) :
    ∃ later, Registry.find? key after = some later ∧ later.demand = record.demand := by
  -- Whatever revision is read has the generation of the record, so the record stays current.
  have current (revision : Subscription) (finds : Finds key log revision) :
      (known before key).isCurrent revision = true := by
    obtain ⟨present, same⟩ := steady revision finds.mem
    unfold known HookRecord.isCurrent
    simp [found, numbered, same, present]
  cases performed with
  | register ended =>
      rcases (register_course ended).effect with
        ⟨same, _⟩ | ⟨revision, _, outdated, finds, _⟩ | ⟨derivation, outdated, finds, _⟩
      · exact ⟨record, (same key).trans found, rfl⟩
      · cases (current revision finds).symm.trans outdated
      · cases (current _ finds).symm.trans outdated
  | submit ended => exact (submit_sameDemands ended).find found
  | check ended => exact ⟨record, found, rfl⟩
  | deregister => exact absurd rfl goesOn

theorem Calls.split {made : MadeCall} (calls : Calls context key first history records)
    (member : made ∈ history) :
    ∃ early late after, history = early ++ made :: late ∧
      Calls context key first early made.before ∧
      Performs context key made.before made.call made.log after ∧
      Calls context key after late records := by
  induction calls with
  | start => cases member
  | @next before after call log history earlier performed ih =>
      rcases List.mem_append.mp member with inside | last
      · obtain ⟨early, late, between, rfl, upTo, here, onward⟩ := ih inside
        exact ⟨early, late ++ [⟨before, call, log⟩], between, by simp, upTo, here,
          .next onward performed⟩
      · obtain rfl := List.mem_singleton.mp last
        exact ⟨history, [], after, rfl, earlier, performed, .start⟩

/-- Calls that were made while the generation stayed the same, and forgot nothing. -/
structure Steady (key : ObjectKey) (generation : Option Int) (history : List MadeCall) : Prop where
  goesOn : ∀ made ∈ history, made.call ≠ .deregister
  read : ∀ made ∈ history, AtGeneration key generation made.log

theorem Steady.subset {part : List MadeCall} (steady : Steady key generation history)
    (inside : part ⊆ history) : Steady key generation part where
  goesOn made member := steady.goesOn made (inside member)
  read made member := steady.read made (inside member)

theorem Steady.left {early late : List MadeCall} (steady : Steady key generation (early ++ late)) :
    Steady key generation early :=
  steady.subset (List.subset_append_left early late)

private theorem Steady.numbered (steady : Steady key generation history) :
    ∀ made ∈ history, Numbered key made.log :=
  fun made member => (steady.read made member).numbered

private theorem Steady.last {made : MadeCall} (steady : Steady key generation (history ++ [made])) :
    made.call ≠ .deregister ∧ AtGeneration key generation made.log := by
  have member : made ∈ history ++ [made] := List.mem_append_right _ List.mem_cons_self
  exact ⟨steady.goesOn made member, steady.read made member⟩

theorem Calls.keeps_demand {record : HookRecord} (calls : Calls context key first history records)
    (steady : Steady key generation history) (found : Registry.find? key first = some record)
    (numbered : record.generation = generation) :
    ∃ later, Registry.find? key records = some later ∧ later.demand = record.demand := by
  induction calls with
  | start => exact ⟨record, found, rfl⟩
  | next _ performed ih =>
      obtain ⟨middle, foundBefore, same⟩ := ih steady.left
      have middleNumbered : middle.generation = generation :=
        (congrArg Prod.fst same).trans numbered
      obtain ⟨goesOn, read⟩ := steady.last
      obtain ⟨later, foundAfter, sameAfter⟩ :=
        performed.keeps_demand goesOn read foundBefore middleNumbered
      exact ⟨later, foundAfter, sameAfter.trans same⟩

/-- The jobs that a call found are those of the record in the end. -/
theorem Calls.demand_of_made {record : HookRecord} {made : MadeCall}
    (calls : Calls context key first history records) (steady : Steady key generation history)
    (member : made ∈ history) (found : Registry.find? key made.before = some record)
    (numbered : record.generation = generation) :
    ∃ later, Registry.find? key records = some later ∧ later.demand = record.demand := by
  obtain ⟨early, late, between, rfl, _, performed, onward⟩ := calls.split member
  obtain ⟨middle, foundBetween, same⟩ :=
    performed.keeps_demand (steady.goesOn made member) (steady.read made member) found numbered
  have steadyLate : Steady key generation late := by
    apply steady.subset
    intro later inside
    exact List.mem_append_right _ (List.mem_cons_of_mem _ inside)
  have middleNumbered : middle.generation = generation := (congrArg Prod.fst same).trans numbered
  obtain ⟨later, foundLater, sameLater⟩ :=
    onward.keeps_demand steadyLate foundBetween middleNumbered
  exact ⟨later, foundLater, sameLater.trans same⟩

/-! ### Submissions -/

/-- A call asks for a job to be submitted, as the one that its side has for a name. -/
structure Submits (key : ObjectKey) (made : MadeCall) (side : HookSide) (name : String)
    (job : HookJob) : Prop where
  call : ∃ result, made.call = .submit side result
  current : ∃ record, Registry.find? key made.before = some record ∧
    (name, job) ∈ (record.side side).current
  asked : ∃ reply, ⟨.submit job, reply⟩ ∈ made.log

theorem Performs.submits {job : HookJob} {reply : Except String Unit}
    (performed : Performs context key before call log after)
    (submitted : ⟨.submit job, reply⟩ ∈ log) :
    ∃ side name, Submits key ⟨before, call, log⟩ side name job := by
  cases performed with
  | register ended => exact (only_history (only_register _) ended _ submitted).elim
  | @submit _ _ side _ ended =>
      obtain ⟨record, found, latest⟩ := submit_submits ended submitted
      obtain ⟨⟨name, _⟩, current, rfl⟩ := List.mem_map.mp latest
      exact ⟨side, name, ⟨_, rfl⟩, ⟨record, found, current⟩, reply, submitted⟩
  | check ended =>
      obtain ⟨_, same⟩ := only_history (only_areCompleted _ _) ended _ submitted
      cases same
  | deregister => cases submitted

private theorem Follows.unique {record : HookRecord} {side : HookSide} {name : String}
    {one other : HookJob}
    (follows : Follows context key history record) (first : (name, one) ∈ (record.side side).current)
    (second : (name, other) ∈ (record.side side).current) : one = other := by
  cases numbered : record.generation with
  | none =>
      rw [follows.blank numbered side] at first
      cases first
  | some generation =>
      obtain ⟨_, _, _, derivation, _, _, _, _, _, fills⟩ := follows.derived generation numbered
      rcases fills side with ⟨_, _, made⟩ | ⟨_, _, nothing⟩
      · exact made.unique first second
      · rw [nothing] at first
        cases first

/-- A record that has jobs has them for the generation that was read. -/
theorem Follows.generation_eq {record : HookRecord} {side : HookSide}
    (follows : Follows context key history record) (steady : Steady key generation history)
    (present : (record.side side).current ≠ []) : record.generation = generation := by
  cases numbered : record.generation with
  | none => exact absurd (follows.blank numbered side) present
  | some own =>
      obtain ⟨early, made, late, derivation, rfl, _, derived, revision, _⟩ :=
        follows.derived own numbered
      have inside : made ∈ early ++ made :: late :=
        List.mem_append_right _ List.mem_cons_self
      rw [← revision]
      exact (steady.read made inside _ (finds_of_made derived).mem).2

theorem Calls.submits_unique (unregistered : Registry.find? key first = none)
    (calls : Calls context key first history records) (steady : Steady key generation history)
    {one other : MadeCall} (member : one ∈ history) (otherMember : other ∈ history)
    {side : HookSide} {name : String} {job otherJob : HookJob} (submits : Submits key one side name job)
    (otherSubmits : Submits key other side name otherJob) : job = otherJob := by
  -- Both jobs are still in the record after the last call, and it has one for a name.
  have inEnd {made : MadeCall} {job : HookJob} (member : made ∈ history)
      (submits : Submits key made side name job) :
      ∃ record, Registry.find? key records = some record ∧
        (name, job) ∈ (record.side side).current := by
    obtain ⟨record, found, current⟩ := submits.current
    obtain ⟨early, late, _, rfl, earlier, _⟩ := calls.split member
    have steadyBefore := steady.left
    have follows := earlier.follows unregistered steadyBefore.numbered record found
    have numbered := follows.generation_eq steadyBefore (List.ne_nil_of_mem current)
    obtain ⟨later, foundLater, same⟩ := calls.demand_of_made steady member found numbered
    refine ⟨later, foundLater, ?_⟩
    rw [HookRecord.current_of_demand same side]
    exact current
  obtain ⟨record, found, current⟩ := inEnd member submits
  obtain ⟨again, foundAgain, otherCurrent⟩ := inEnd otherMember otherSubmits
  cases found.symm.trans foundAgain
  have follows := calls.follows unregistered steady.numbered record found
  exact follows.unique current otherCurrent

/-- While the generation of a subscription stays the same, no job is accepted twice, whatever fails in
between; a side has one job for a name and never submits another. Whenever it is told whether the jobs
of a side are done, they are exactly if there are none or all of them have succeeded. -/
theorem submitted_once (unregistered : Registry.find? key first = none)
    (calls : Calls context key first history records) (steady : Steady key generation history)
    (kept : HookJob.Kept (logOf history)) :
    ((HookJob.accepted (logOf history)).map HookJob.key).Nodup ∧
      (∀ made ∈ history, ∀ job reply, ⟨.submit job, reply⟩ ∈ made.log →
        ∃ side name, Submits key made side name job) ∧
      (∀ one ∈ history, ∀ other ∈ history, ∀ side name job otherJob,
        Submits key one side name job → Submits key other side name otherJob → job = otherJob) ∧
      ∀ made ∈ history, ∀ side done store, made.call = .check side (.ok done) →
        HookJob.Shown store made.log →
        (done = true ↔ Registry.find? key made.before = none ∨
          ∃ record, Registry.find? key made.before = some record ∧
            ((record.side side).isEmpty = true ∨
              ∀ job ∈ (record.side side).latest, HookJob.Succeeded store job.key)) := by
  refine ⟨calls.looksFirst.distinct kept, ?_, ?_, ?_⟩
  · intro made member job reply submitted
    obtain ⟨_, _, _, _, _, performed, _⟩ := calls.split member
    exact performed.submits submitted
  · intro one member other otherMember side name job otherJob submits otherSubmits
    exact calls.submits_unique unregistered steady member otherMember submits otherSubmits
  · rintro ⟨before, call, log⟩ member side done store rfl shown
    obtain ⟨_, _, _, _, _, performed, _⟩ := calls.split member
    cases performed with
    | check ended => exact areCompleted_iff ended shown

end HookRecords

namespace HookRecords.SubmittedAgain

open SyncItem.FailedManifest (channel context)
open Delivery.EditedLater

def submitting : Log := [⟨.job (job 1).key, .ok none⟩, ⟨.submit (job 1), .ok ()⟩]

def history : List MadeCall :=
  [⟨[], .register (.ok ()), registering⟩, ⟨[(key, renewed)], .submit .pre (.ok ()), submitting⟩,
    ⟨[(key, submitted)], .submit .pre (.ok ()), asked⟩,
    ⟨[(key, submitted)], .check .pre (.ok true), asked⟩]

private theorem first_submits :
    Ends (submit context key .pre [(key, renewed)]) submitting (.ok (), [(key, submitted)]) := by
  have found : Registry.find? key [(key, renewed)] = some renewed := if_pos rfl
  have placed : Registry.set key submitted [(key, renewed)] = [(key, submitted)] := if_pos rfl
  unfold HookRecords.submit
  rw [found, ← placed]
  simp only [HookRecord.side, renewed_latest, HookRecord.submitAll]
  exact .ask (.ask (.done _))

private theorem submits_again :
    Ends (submit context key .pre [(key, submitted)]) asked (.ok (), [(key, submitted)]) := by
  have found : Registry.find? key [(key, submitted)] = some submitted := if_pos rfl
  have placed : Registry.set key submitted [(key, submitted)] = [(key, submitted)] := if_pos rfl
  unfold HookRecords.submit
  rw [found]
  simp only [HookRecord.side, submitted_latest, HookRecord.submitAll]
  exact .ask (.done _)

private theorem made : Calls context key [] history [(key, submitted)] := by
  have first : Calls context key [] (history.take 1) _ := .next .start (.register registered)
  have second : Calls context key [] (history.take 2) _ := .next first (.submit first_submits)
  have third : Calls context key [] (history.take 3) _ := .next second (.submit submits_again)
  exact .next third (.check completed)

private theorem steady : Steady key (some 1) history where
  goesOn := by simp [history]
  read := by
    intro made member revision read
    simp only [history, List.mem_cons, List.not_mem_nil, or_false] at member
    rcases member with rfl | rfl | rfl | rfl
    · simp [registering, looked, downloading, channelRead, cloned] at read
      rw [read]
      exact ⟨rfl, rfl⟩
    · simp [submitting] at read
    · simp [asked] at read
    · simp [asked] at read

private theorem kept : HookJob.Kept (logOf history) := by
  have whole : logOf history = registering ++ (submitting ++ (asked ++ asked)) := rfl
  have quiet : ∀ entry ∈ registering, ∀ job, entry ≠ ⟨.submit job, .ok ()⟩ := by
    simp [registering, looked, downloading, channelRead, cloned]
  unfold HookJob.Kept
  rw [whole, List.pairwise_append]
  refine ⟨?_, ?_, ?_⟩
  · exact List.pairwise_of_forall_mem_list fun entry member _ _ job same =>
      absurd same (quiet entry member job)
  · simp [submitting, asked]
  · intro entry member _ _ job same
    exact absurd same (quiet entry member job)

/-- The job is submitted once and then found, until it has succeeded. -/
theorem job_submitted_once :
    Registry.find? key [] = (none : Option HookRecord) ∧
      Calls context key [] history [(key, submitted)] ∧ Steady key (some 1) history ∧
      HookJob.Kept (logOf history) ∧
      ((HookJob.accepted (logOf history)).map HookJob.key).Nodup ∧
      job 1 ∈ HookJob.accepted (logOf history) ∧
      HookJob.Succeeded (fun _ => some finished) (job 1).key := by
  have unregistered : Registry.find? key [] = (none : Option HookRecord) := rfl
  obtain ⟨distinct, _, _, gate⟩ := submitted_once unregistered made steady kept
  have acceptedOnce : job 1 ∈ HookJob.accepted (logOf history) := List.mem_cons_self
  refine ⟨unregistered, made, steady, kept, distinct, acceptedOnce, ?_⟩
  have shown : HookJob.Shown (fun _ => some finished) asked := by
    intro key found member
    simp [asked] at member
    exact member.2.symm
  have opened := (gate ⟨[(key, submitted)], .check .pre (.ok true), asked⟩ (by simp [history]) .pre
    true _ rfl shown).mp rfl
  rcases opened with missing | ⟨record, found, blank | all⟩
  · cases missing
  · cases found
    cases blank
  · cases found
    exact all (job 1) (by rw [HookRecord.side, submitted_latest]; exact List.mem_cons_self)

end HookRecords.SubmittedAgain

end GitDelivery
