import GitDelivery.Proofs.Delivery.System
import GitDelivery.Proofs.Hook.Registration

set_option autoImplicit false

/-! Runs of calls about the hooks of one subscription: looking for them, submitting the jobs of a side,
asking whether they are done, and forgetting everything. Whatever is answered, the record of the
subscription follows the templates that were downloaded last. -/

namespace GitDelivery

open Dialogue Work

/-- A call about the hooks of a subscription, and what came of it. -/
inductive HookCall where
  | register (result : Except HookError Unit)
  | submit (side : HookSide) (result : Except HookError Unit)
  | check (side : HookSide) (result : Except HookError Bool)
  | deregister

structure MadeCall where
  before : HookRecords
  call : HookCall
  log : Log

namespace HookRecords

variable {context : Context} {key : ObjectKey} {log : Log} {first before after records : HookRecords}
  {call : HookCall} {history : List MadeCall}

/-- A call asks something, whatever is answered, and leaves something known. -/
inductive Performs (context : Context) (key : ObjectKey) :
    HookRecords → HookCall → Log → HookRecords → Prop where
  | register {before after : HookRecords} {log : Log} {result : Except HookError Unit}
      (ended : Ends (register context key before) log (result, after)) :
      Performs context key before (.register result) log after
  | submit {before after : HookRecords} {log : Log} {side : HookSide}
      {result : Except HookError Unit}
      (ended : Ends (submit context key side before) log (result, after)) :
      Performs context key before (.submit side result) log after
  | check {before : HookRecords} {log : Log} {side : HookSide} {result : Except HookError Bool}
      (ended : Ends (areCompleted key side before) log result) :
      Performs context key before (.check side result) log before
  | deregister {before : HookRecords} :
      Performs context key before .deregister [] (Registry.erase key before)

inductive Calls (context : Context) (key : ObjectKey) (first : HookRecords) :
    List MadeCall → HookRecords → Prop where
  | start : Calls context key first [] first
  | next {before after : HookRecords} {call : HookCall} {log : Log} {history : List MadeCall}
      (earlier : Calls context key first history before)
      (performed : Performs context key before call log after) :
      Calls context key first (history ++ [⟨before, call, log⟩]) after

/-! ### One call -/

theorem Performs.not_clones (performed : Performs context key before call log after)
    (other : ∀ result, call ≠ .register result) : ¬ Clones log := by
  rintro ⟨⟨request, reply⟩, member, fetches⟩
  cases performed with
  | register ended => exact other _ rfl
  | submit ended =>
      have concerns := only_history (only_submit _ _) ended _ member
      cases request <;> first | exact concerns | cases fetches
  | check ended =>
      obtain ⟨job, same⟩ := only_history (only_areCompleted _ _) ended _ member
      cases same
      cases fetches
  | deregister => cases member

/-- Looking for hooks leaves everything alone, or it clears the record because the download failed, or
it makes the record anew of what was downloaded. -/
theorem Registration.effect {result : Except HookError Unit}
    (course : Registration context key before log result after) :
    ((∀ other, Registry.find? other after = Registry.find? other before) ∧ ¬ Clones log ∧
      ∀ revision outcome, ¬ Downloads context key log revision outcome) ∨
    (∃ revision error, (known before key).isCurrent revision = false ∧ Finds key log revision ∧
      Downloads context key log revision (.error error) ∧
      Registry.find? key after = some (known before key).cleared) ∨
    (∃ derivation : HookDerivation, (known before key).isCurrent derivation.revision = false ∧
      Finds key log derivation.revision ∧ derivation.Made context key log ∧
      Registry.find? key after = some ((known before key).renew context derivation.revision
        derivation.templates derivation.clusters)) := by
  cases course with
  | unread looked =>
      exact .inl ⟨fun _ => rfl, not_clones_of_gitSubscription looked,
        fun _ _ => not_downloads_of_looked looked⟩
  | absent looked =>
      exact .inl ⟨fun _ => rfl, not_clones_of_gitSubscription looked,
        fun _ _ => not_downloads_of_looked looked⟩
  | @current _ _ record looked found current =>
      refine .inl ⟨?_, not_clones_of_gitSubscription looked, fun _ _ =>
        not_downloads_of_looked looked⟩
      intro other
      by_cases same : other = key
      · subst same
        rw [Registry.find?_set_self, found]
      · rw [Registry.find?_set_of_ne same]
  | @failed looking download revision error looked outdated failed =>
      refine .inr (.inl ⟨revision, error, outdated, finds_of_looked looked download, ?_,
        Registry.find?_set_self _ _ _⟩)
      exact ⟨looking, download, [], by rw [List.append_nil], looked, failed⟩
  | derived made outdated =>
      exact .inr (.inr ⟨_, outdated, finds_of_made made, made, Registry.find?_set_self _ _ _⟩)

theorem Performs.remembers {later : HookRecord}
    (performed : Performs context key before call log after)
    (found : Registry.find? key after = some later)
    (other : ∀ side result, call ≠ .submit side result) (side : HookSide) :
    (later.side side).applied = ((known before key).side side).applied := by
  have kept (same : Registry.find? key before = some later) : known before key = later := by
    unfold known
    rw [same]
    rfl
  cases performed with
  | register ended =>
      rcases (register_course ended).effect with
        ⟨same, _⟩ | ⟨_, _, _, _, _, cleared⟩ | ⟨_, _, _, _, renewed⟩
      · rw [kept ((same key).symm.trans found)]
      · cases cleared.symm.trans found
        exact HookRecord.cleared_applied _ side
      · cases renewed.symm.trans found
        exact HookRecord.renew_applied _ _ _ _ side
  | submit ended => exact absurd rfl (other _ _)
  | check ended => rw [kept found]
  | deregister =>
      rw [Registry.find?_erase_self] at found
      cases found

theorem Registration.downloads {result : Except HookError Unit} {revision : Subscription}
    (course : Registration context key before log result after) (finds : Finds key log revision)
    (outdated : (known before key).isCurrent revision = false) :
    ∃ outcome, Downloads context key log revision outcome := by
  -- Finding the subscription rules out the courses that end with looking for it.
  cases course with
  | unread looked =>
      rw [← List.append_nil log] at finds
      cases finds.looked looked
  | absent looked =>
      rw [← List.append_nil log] at finds
      cases finds.looked looked
  | @current _ stored record looked found current =>
      rw [← List.append_nil log] at finds
      cases finds.looked looked
      unfold known at outdated
      rw [found] at outdated
      cases current.symm.trans outdated
  | @failed looking download stored error looked _ failed =>
      cases finds.looked looked
      exact ⟨.error error, looking, download, [], by rw [List.append_nil], looked, failed⟩
  | @derived _ derivation made _ =>
      cases made with
      | @intro _ looking download asking _ _ looked downloaded _ _ _ =>
          cases finds.looked looked
          exact ⟨_, looking, download, asking, rfl, looked, downloaded⟩

/-- What a call may do to what is known of a subscription's hooks. -/
structure Lawful (context : Context) (key : ObjectKey) (before : HookRecords) (call : HookCall)
    (log : Log) (after : HookRecords) : Prop where
  /-- Where there is nothing to do, nothing changes and nothing is cloned. -/
  idle : ∀ result, call = .register result → Idles key before log →
    (∀ other, Registry.find? other after = Registry.find? other before) ∧ ¬ Clones log
  /-- A failed download empties both sides and forgets the generation, and the next call that finds the
  subscription downloads again. -/
  failed : ∀ result revision error, call = .register result →
    Downloads context key log revision (.error error) →
    (∃ record, Registry.find? key after = some record ∧ record.generation = none ∧
      ∀ side, (record.side side).current = []) ∧
    ∀ again next last found, Performs context key after (.register again) next last →
      Finds key next found → ∃ outcome, Downloads context key next found outcome
  /-- Only submitting changes what a record remembers of what was submitted. -/
  histories : ∀ later, Registry.find? key after = some later →
    (∀ side result, call ≠ .submit side result) →
    ∀ side, (later.side side).applied = ((known before key).side side).applied

theorem Performs.lawful (performed : Performs context key before call log after) :
    Lawful context key before call log after where
  idle := by
    rintro result rfl idles
    cases performed with
    | register ended =>
        rcases (register_course ended).effect with
          ⟨same, silent, _⟩ | ⟨_, _, outdated, finds, _⟩ | ⟨_, outdated, finds, _⟩
        · exact ⟨same, silent⟩
        · exact absurd finds (idles.not_finds outdated)
        · exact absurd finds (idles.not_finds outdated)
  failed := by
    rintro result revision error rfl downloads
    cases performed with
    | register ended =>
        have isCleared : Registry.find? key after = some (known before key).cleared := by
          rcases (register_course ended).effect with
            ⟨_, _, silent⟩ | ⟨_, _, _, _, _, cleared⟩ | ⟨_, _, _, made, _⟩
          · exact absurd downloads (silent revision _)
          · exact cleared
          · cases Downloads.of_made made downloads
        refine ⟨⟨_, isCleared, rfl, HookRecord.cleared_current _⟩, ?_⟩
        -- A record without a generation is current for no revision.
        intro again next last found performed finds
        cases performed with
        | register ended =>
            refine (register_course ended).downloads finds ?_
            unfold known
            rw [isCleared]
            rfl
  histories := fun _ found other => performed.remembers found other

/-! ### Runs -/

/-- The record was derived for a generation by a call of a history, and nothing was cloned since. -/
def DerivedLast (context : Context) (key : ObjectKey) (history : List MadeCall) (generation : Int)
    (record : HookRecord) : Prop :=
  ∃ early made late, ∃ derivation : HookDerivation, history = early ++ made :: late ∧
    (∃ result, made.call = .register result) ∧ derivation.Made context key made.log ∧
    derivation.revision.metadata.generation = some generation ∧
    (∀ later ∈ late, ¬ Clones later.log) ∧
    ∀ side, derivation.Fills context side (record.side side).current

/-- A record with a generation has the jobs of the templates that were downloaded for it, and a record
without one has no jobs. -/
structure Follows (context : Context) (key : ObjectKey) (history : List MadeCall)
    (record : HookRecord) : Prop where
  derived : ∀ generation, record.generation = some generation →
    DerivedLast context key history generation record
  blank : record.generation = none → ∀ side, (record.side side).current = []

private theorem Follows.quiet {record later : HookRecord} {made : MadeCall}
    (follows : Follows context key history record) (silent : ¬ Clones made.log)
    (same : later.demand = record.demand) : Follows context key (history ++ [made]) later where
  derived := by
    intro generation numbered
    have sameGeneration : later.generation = record.generation := congrArg Prod.fst same
    rw [sameGeneration] at numbered
    obtain ⟨early, origin, late, derivation, rfl, registers, made', revision, quiet, fills⟩ :=
      follows.derived generation numbered
    refine ⟨early, origin, late ++ [made], derivation, by simp, registers, made', revision, ?_, ?_⟩
    · intro later member
      rcases List.mem_append.mp member with before | last
      · exact quiet later before
      · rwa [List.mem_singleton.mp last]
    · intro side
      rw [HookRecord.current_of_demand same side]
      exact fills side
  blank := by
    intro unnumbered side
    have sameGeneration : later.generation = record.generation := congrArg Prod.fst same
    rw [HookRecord.current_of_demand same side]
    exact follows.blank (sameGeneration.symm.trans unnumbered) side

def Numbered (key : ObjectKey) (log : Log) : Prop :=
  ∀ revision, ⟨.subscription key, .ok (some revision)⟩ ∈ log → revision.metadata.generation ≠ none

theorem Finds.mem {revision : Subscription} (finds : Finds key log revision) :
    ⟨.subscription key, .ok (some revision)⟩ ∈ log := by
  obtain ⟨_, _, _, rfl⟩ := finds
  exact List.mem_cons_self

theorem Performs.follows (performed : Performs context key before call log after)
    (numbered : Numbered key log)
    (earlier : ∀ record, Registry.find? key before = some record →
      Follows context key history record) :
    ∀ record, Registry.find? key after = some record →
      Follows context key (history ++ [⟨before, call, log⟩]) record := by
  intro later found
  cases performed with
  | register ended =>
      rcases (register_course ended).effect with
        ⟨same, silent, _⟩ | ⟨_, _, _, _, _, cleared⟩ | ⟨derivation, _, finds, made, renewed⟩
      · rw [same] at found
        exact (earlier later found).quiet silent rfl
      · cases cleared.symm.trans found
        refine ⟨?_, fun _ => HookRecord.cleared_current _⟩
        intro generation impossible
        cases impossible
      · cases renewed.symm.trans found
        refine ⟨?_, ?_⟩
        · intro generation revision
          exact ⟨history, _, [], derivation, rfl, ⟨_, rfl⟩, made, revision, by simp,
            derivation.fills_renew _⟩
        · intro unnumbered
          exact absurd unnumbered (numbered _ finds.mem)
  | submit ended =>
      have silent := Performs.not_clones (.submit ended : Performs context key _ _ _ _) (by simp)
      obtain ⟨record, foundBefore, same⟩ := (submit_sameDemands ended).find_before found
      exact (earlier record foundBefore).quiet silent same.symm
  | check ended =>
      have silent := Performs.not_clones (.check ended : Performs context key _ _ _ _) (by simp)
      exact (earlier later found).quiet silent rfl
  | deregister =>
      rw [Registry.find?_erase_self] at found
      cases found

theorem Calls.follows (unregistered : Registry.find? key first = none)
    (calls : Calls context key first history records)
    (numbered : ∀ made ∈ history, Numbered key made.log) :
    ∀ record, Registry.find? key records = some record → Follows context key history record := by
  -- The history grows at its end, so what was derived last is found among the calls before.
  induction calls with
  | start =>
      intro record found
      cases unregistered.symm.trans found
  | next _ performed ih =>
      have earlier := ih fun made member => numbered made (List.mem_append_left _ member)
      exact performed.follows (numbered _ (List.mem_append_right _ List.mem_cons_self)) earlier

/-- Whatever calls were made, the record of a subscription has the jobs of the templates that were
downloaded last, one for each name, or it has no generation and no jobs. One more call changes nothing
where there is nothing to do, clears both sides where a download fails, and leaves what was submitted
remembered unless it submits something. -/
theorem records_follow_calls (unregistered : Registry.find? key first = none)
    (calls : Calls context key first history records)
    (numbered : ∀ made ∈ history, Numbered key made.log) :
    (∀ record, Registry.find? key records = some record → Follows context key history record) ∧
      ∀ call log after, Performs context key records call log after →
        Lawful context key records call log after := by
  refine ⟨calls.follows unregistered numbered, ?_⟩
  intro call log after performed
  exact performed.lawful

end HookRecords

namespace HookRecords.FailedDownload

open SyncItem.FailedManifest (channel context)
open Delivery.EditedLater

def history : List MadeCall :=
  [⟨[], .register (.ok ()), registering⟩, ⟨[(key, renewed)], .submit .pre (.ok ()), asked⟩]

private theorem made : Calls context key [] history [(key, submitted)] :=
  .next (.next .start (.register registered)) (.submit submits)

private theorem numbered : ∀ made ∈ history, Numbered key made.log := by
  intro made member revision read
  simp only [history, List.mem_cons, List.not_mem_nil, or_false] at member
  rcases member with rfl | rfl
  · simp [registering, looked, downloading, channelRead, cloned] at read
    rw [read]
    simp [Delivery.EditedLater.revision]
  · simp [asked] at read

def failing : Log :=
  looked 2 ++ (channelRead 2 ++ [⟨.clone hookOptions hookOptions.primary, .error "timeout"⟩])

private theorem not_downloaded :
    Ends (HookTemplates.download (revision 2) (HookRecord.templateDirectory context key)).run
      (channelRead 2 ++ [⟨.clone hookOptions hookOptions.primary, .error "timeout"⟩])
      (.error (.download "timeout")) := by
  have channels : Ends (ExceptT.adapt HookError.channel (Channels.load (revision 2))).run
      (channelRead 2) (.ok ⟨channel, none⟩) := .ask (.done _)
  have resolved : Ends (ExceptT.adapt HookError.remote
      (CloneOptions.ofSubscription (revision 2) ⟨channel, none⟩ hookDirectory)).run []
      (.ok hookOptions) := .done _
  have failed : Ends (Work.attempt HookError.download hookOptions.fetch).run
      [⟨.clone hookOptions hookOptions.primary, .error "timeout"⟩]
      (.error (.download "timeout")) := .ask (.done _)
  rw [templateDirectory_eq]
  unfold HookTemplates.download
  refine (ends_run_bind_after_iff channels).mpr ?_
  rw [← List.nil_append [_]]
  refine (ends_run_bind_after_iff resolved).mpr ?_
  exact ends_run_bind_iff.mpr (.inl ⟨_, failed, rfl⟩)

private theorem fails :
    Performs context key [(key, submitted)] (.register (.error (.download "timeout"))) failing
      [(key, submitted.cleared)] := by
  have looks : Ends (gitSubscription? key).run (looked 2) (.ok (some (revision 2))) :=
    .ask (.ask (.done _))
  have outdated : submitted.isCurrent (revision 2) = false := by decide
  have refreshed : Ends (submitted.refresh context key (revision 2))
      ((channelRead 2 ++ [⟨.clone hookOptions hookOptions.primary, .error "timeout"⟩]) ++ [])
      (.error (.download "timeout"), submitted.cleared) := by
    unfold HookRecord.refresh
    rw [outdated]
    exact ends_bind not_downloaded (.done _)
  refine .register ?_
  unfold failing
  rw [← List.append_nil (channelRead 2 ++ _), ← List.append_nil (channelRead 2 ++ _ ++ [])]
  exact ends_bind looks (ends_bind refreshed (.done _))

/-- The sides are empty then, and the job that was submitted is remembered. -/
theorem failed_download_remembers :
    Registry.find? key [] = (none : Option HookRecord) ∧
      Calls context key [] history [(key, submitted)] ∧
      (∀ made ∈ history, Numbered key made.log) ∧
      Follows context key history submitted ∧
      Lawful context key [(key, submitted)] (.register (.error (.download "timeout"))) failing
        [(key, submitted.cleared)] := by
  have unregistered : Registry.find? key [] = (none : Option HookRecord) := rfl
  obtain ⟨follows, lawful⟩ := records_follow_calls unregistered made numbered
  exact ⟨unregistered, made, numbered, follows submitted (if_pos rfl), lawful _ _ _ fails⟩

end HookRecords.FailedDownload

end GitDelivery
