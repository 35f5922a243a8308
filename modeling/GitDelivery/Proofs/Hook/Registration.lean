import GitDelivery.Proofs.Hook.Ledger
import GitDelivery.Proofs.Hook.Requests

set_option autoImplicit false

/-! How looking for the hooks of a subscription can go: what is downloaded, which jobs are derived from
it, and what is known after that. -/

namespace GitDelivery

open Dialogue Work

variable {context : Context} {key : ObjectKey} {log : Log}

/-! ### Templates of a revision -/

def hookPath? (revision : Subscription) : Option String :=
  (PathSource.first? revision none PathSource.forHooks).map Prod.snd

def HookTemplates.side (templates : HookTemplates) : HookSide → List HookJob
  | .pre => templates.pre
  | .post => templates.post

/-- What jobs are derived from: a revision, what was checked out for it, where its hooks lie there, and
the clusters that the jobs are told about. -/
structure HookDerivation where
  revision : Subscription
  checkout : Checkout
  directory : String
  clusters : List String

namespace HookDerivation

def discovered (derivation : HookDerivation) (side : HookSide) :
    Except HookTemplate.DiscoveryError (List HookJob) :=
  HookTemplate.discover derivation.checkout.tree (FilePath.push derivation.directory side.directory)

def templates (derivation : HookDerivation) : HookTemplates :=
  .ofTree derivation.checkout.tree derivation.directory

def makeJob (context : Context) (derivation : HookDerivation) : HookJob → HookJob :=
  .ofTemplate derivation.revision (context.hookSuffix derivation.revision) derivation.clusters

/-- In the course of a log the templates were downloaded, and jobs can be derived from them. -/
inductive Made (context : Context) (key : ObjectKey) : Log → HookDerivation → Prop where
  | intro {derivation : HookDerivation} {looking download asking : Log} {options : CloneOptions}
      {remote : Remote}
      (looked : Ends (HookRecords.gitSubscription? key).run looking (.ok (some derivation.revision)))
      (downloaded : Ends (HookTemplates.download derivation.revision
        (HookRecord.templateDirectory context key)).run download (.ok derivation.templates))
      (cloned : ⟨.clone options remote, .ok derivation.checkout⟩ ∈ download)
      (within : FilePath.joinWithin (HookRecord.templateDirectory context key)
        (hookPath? derivation.revision) = .ok derivation.directory)
      (told : Ends (HookRecord.clustersFor derivation.revision derivation.templates) asking
        derivation.clusters) :
      Made context key (looking ++ (download ++ asking)) derivation

/-- One side has the jobs of its templates. A side whose templates cannot be read has none. -/
def Fills (context : Context) (derivation : HookDerivation) (side : HookSide)
    (jobs : List (String × HookJob)) : Prop :=
  (∃ found, derivation.discovered side = .ok found ∧
    MadeOf (derivation.makeJob context) found jobs) ∨
  (∃ error, derivation.discovered side = .error error ∧ jobs = [])

theorem side_templates (derivation : HookDerivation) (side : HookSide) :
    derivation.templates.side side =
      match derivation.discovered side with
      | .ok found => found
      | .error _ => [] := by
  cases side <;> rfl

theorem fills_renew (derivation : HookDerivation) (record : HookRecord) (side : HookSide) :
    derivation.Fills context side ((record.renew context derivation.revision derivation.templates
      derivation.clusters).side side).current := by
  have made : MadeOf (derivation.makeJob context) (derivation.templates.side side)
      ((record.renew context derivation.revision derivation.templates
        derivation.clusters).side side).current := by
    cases side with
    | pre => exact HookRecord.enroll_madeOf _ _ rfl
    | post => exact HookRecord.enroll_madeOf _ _ rfl
  rw [side_templates] at made
  cases discovered : derivation.discovered side with
  | ok found =>
      rw [discovered] at made
      exact .inl ⟨found, discovered, made⟩
  | error error =>
      rw [discovered] at made
      exact .inr ⟨error, discovered, made.empty⟩

end HookDerivation

private theorem CloneOptions.firstAnswer_ok {options : CloneOptions} {checkout : Checkout}
    (first : Remote) (rest : List Remote)
    (ended : Ends (firstAnswer (fun remote => ask (.clone options remote)) first rest) log
      (.ok checkout)) :
    ∃ remote, ⟨.clone options remote, .ok checkout⟩ ∈ log := by
  induction rest generalizing first log with
  | nil =>
      obtain rfl := ends_ask_iff.mp ended
      exact ⟨first, List.mem_cons_self⟩
  | cons next rest ih =>
      obtain ⟨early, reply, late, asked, goesOn, rfl⟩ := ends_bind_iff.mp ended
      obtain rfl := ends_ask_iff.mp asked
      cases reply with
      | ok answer =>
          obtain ⟨rfl, same⟩ := ends_pure_iff.mp goesOn
          cases same
          exact ⟨first, List.mem_cons_self⟩
      | error reason =>
          obtain ⟨remote, member⟩ := ih next goesOn
          exact ⟨remote, List.mem_cons_of_mem _ member⟩

theorem HookTemplates.download_ok {revision : Subscription} {directory : String}
    {templates : HookTemplates}
    (ended : Ends (HookTemplates.download revision directory).run log (.ok templates)) :
    ∃ checkout inner options remote, ⟨.clone options remote, .ok checkout⟩ ∈ log ∧
      FilePath.joinWithin directory (hookPath? revision) = .ok inner ∧
      templates = .ofTree checkout.tree inner := by
  rcases ends_run_bind_iff.mp ended with ⟨_, _, impossible⟩ | ⟨_, channels, _, _, afterLoad, rfl⟩
  · cases impossible
  rcases ends_run_bind_iff.mp afterLoad with
    ⟨_, _, impossible⟩ | ⟨_, options, _, _, afterOptions, rfl⟩
  · cases impossible
  rcases ends_run_bind_iff.mp afterOptions with
    ⟨_, _, impossible⟩ | ⟨_, checkout, _, attempted, afterFetch, rfl⟩
  · cases impossible
  obtain ⟨answer, fetched, same⟩ := ends_attempt_iff.mp attempted
  cases answer with
  | error reason => cases same
  | ok found =>
      cases same
      obtain ⟨remote, cloned⟩ := CloneOptions.firstAnswer_ok _ _ fetched
      -- Where the hooks lie is not computed.
      generalize joined : FilePath.joinWithin directory (hookPath? revision) = inner
      unfold hookPath? at joined
      dsimp only at afterFetch
      rw [joined] at afterFetch
      obtain ⟨outcome, within, same⟩ := ends_run_bind_pure_iff.mp afterFetch
      obtain ⟨rfl, rfl⟩ := ends_known_iff.mp within
      cases inner with
      | error error => cases same
      | ok inner =>
          cases same
          exact ⟨checkout, inner, options, remote, by simp [cloned], rfl, rfl⟩

theorem HookTemplates.download_ne_nil {revision : Subscription} {directory : String}
    {outcome : Except HookError HookTemplates}
    (ended : Ends (HookTemplates.download revision directory).run log outcome) : log ≠ [] := by
  rintro rfl
  cases ended

namespace HookRecord

theorem current_of_demand {first second : HookRecord} (same : second.demand = first.demand)
    (side : HookSide) : (second.side side).current = (first.side side).current := by
  cases side with
  | pre => exact congrArg (·.2.1) same
  | post => exact congrArg (·.2.2) same

private theorem enroll_applied (makeJob : HookJob → HookJob) (templates : List HookJob)
    (ledger : JobLedger) : (enroll makeJob templates ledger).applied = ledger.applied := by
  induction templates generalizing ledger with
  | nil => rfl
  | cons template rest ih => exact ih _

theorem renew_applied (record : HookRecord) (revision : Subscription) (templates : HookTemplates)
    (clusters : List String) (side : HookSide) :
    ((record.renew context revision templates clusters).side side).applied =
      (record.side side).applied := by
  cases side with
  | pre => exact enroll_applied _ _ _
  | post => exact enroll_applied _ _ _

theorem cleared_applied (record : HookRecord) (side : HookSide) :
    (record.cleared.side side).applied = (record.side side).applied := by
  cases side <;> rfl

theorem cleared_current (record : HookRecord) (side : HookSide) :
    (record.cleared.side side).current = [] := by
  cases side <;> rfl

end HookRecord

namespace HookRecords

/-! ### Looking for hooks -/

variable {before after : HookRecords}

/-- In the course of a log the templates of a revision were downloaded, or at least it was tried. -/
def Downloads (context : Context) (key : ObjectKey) (log : Log) (revision : Subscription)
    (outcome : Except HookError HookTemplates) : Prop :=
  ∃ looking download asking, log = looking ++ (download ++ asking) ∧
    Ends (gitSubscription? key).run looking (.ok (some revision)) ∧
    Ends (HookTemplates.download revision (HookRecord.templateDirectory context key)).run download
      outcome

def known (records : HookRecords) (key : ObjectKey) : HookRecord :=
  (Registry.find? key records).getD {}

inductive Registration (context : Context) (key : ObjectKey) (before : HookRecords) :
    Log → Except HookError Unit → HookRecords → Prop where
  | unread {looking : Log} {error : HookError}
      (looked : Ends (gitSubscription? key).run looking (.error error)) :
      Registration context key before looking (.error error) before
  | absent {looking : Log} (looked : Ends (gitSubscription? key).run looking (.ok none)) :
      Registration context key before looking (.ok ()) before
  | current {looking : Log} {revision : Subscription} {record : HookRecord}
      (looked : Ends (gitSubscription? key).run looking (.ok (some revision)))
      (found : Registry.find? key before = some record)
      (current : record.isCurrent revision = true) :
      Registration context key before looking (.ok ()) (Registry.set key record before)
  | failed {looking download : Log} {revision : Subscription} {error : HookError}
      (looked : Ends (gitSubscription? key).run looking (.ok (some revision)))
      (outdated : (known before key).isCurrent revision = false)
      (failed : Ends (HookTemplates.download revision
        (HookRecord.templateDirectory context key)).run download (.error error)) :
      Registration context key before (looking ++ download) (.error error)
        (Registry.set key (known before key).cleared before)
  | derived {log : Log} {derivation : HookDerivation} (made : derivation.Made context key log)
      (outdated : (known before key).isCurrent derivation.revision = false) :
      Registration context key before log (.ok ())
        (Registry.set key ((known before key).renew context derivation.revision
          derivation.templates derivation.clusters) before)

private theorem find_of_isCurrent {revision : Subscription}
    (current : (known before key).isCurrent revision = true) :
    Registry.find? key before = some (known before key) := by
  unfold known at current ⊢
  cases found : Registry.find? key before with
  | some record => rfl
  | none =>
      rw [found] at current
      cases current

theorem register_course {result : Except HookError Unit}
    (ended : Ends (register context key before) log (result, after)) :
    Registration context key before log result after := by
  obtain ⟨looking, outcome, rest, looked, ended, rfl⟩ := ends_bind_iff.mp ended
  match outcome with
  | .error error =>
      obtain ⟨rfl, same⟩ := ends_pure_iff.mp ended
      cases same
      rw [List.append_nil]
      exact .unread looked
  | .ok none =>
      obtain ⟨rfl, same⟩ := ends_pure_iff.mp ended
      cases same
      rw [List.append_nil]
      exact .absent looked
  | .ok (some revision) =>
      obtain ⟨refreshing, ⟨result, record⟩, _, refreshed, last, rfl⟩ := ends_bind_iff.mp ended
      obtain ⟨rfl, same⟩ := ends_pure_iff.mp last
      cases same
      rw [List.append_nil]
      change Ends ((known before key).refresh context key revision) refreshing _ at refreshed
      rcases HookRecord.refresh_cases refreshed with
        ⟨current, rfl, rfl, rfl⟩ | ⟨outdated, rfl, error, rfl, failed⟩ |
          ⟨outdated, rfl, templates, clusters, download, asking, rfl, downloaded, told, rfl⟩
      · rw [List.append_nil]
        exact .current looked (find_of_isCurrent current) current
      · exact .failed looked outdated failed
      · obtain ⟨checkout, directory, options, remote, cloned, within, rfl⟩ :=
          HookTemplates.download_ok downloaded
        let derivation : HookDerivation := ⟨revision, checkout, directory, clusters⟩
        have made : derivation.Made context key (looking ++ (download ++ asking)) :=
          .intro looked downloaded cloned within told
        exact .derived made outdated

/-! ### When there is something to do -/

def Finds (key : ObjectKey) (log : Log) (revision : Subscription) : Prop :=
  ∃ channel rest, channel.isGit = true ∧
    log = ⟨.subscription key, .ok (some revision)⟩ ::
      ⟨.channel revision.channelKey, .ok (some channel)⟩ :: rest

/-- There is nothing to do: no subscription, no channel, no Git repository, or no generation that is not
known already. -/
inductive Idles (key : ObjectKey) (records : HookRecords) : Log → Prop where
  | missing {rest : Log} : Idles key records (⟨.subscription key, .ok none⟩ :: rest)
  | channelless {revision : Subscription} {rest : Log} :
      Idles key records (⟨.subscription key, .ok (some revision)⟩ ::
        ⟨.channel revision.channelKey, .ok none⟩ :: rest)
  | foreign {revision : Subscription} {channel : Channel} {rest : Log}
      (foreign : channel.isGit = false) :
      Idles key records (⟨.subscription key, .ok (some revision)⟩ ::
        ⟨.channel revision.channelKey, .ok (some channel)⟩ :: rest)
  | unchanged {revision : Subscription} {record : HookRecord} {generation : Int} {rest : Log}
      (found : Registry.find? key records = some record)
      (known : record.generation = some generation)
      (numbered : revision.metadata.generation = some generation) :
      Idles key records (⟨.subscription key, .ok (some revision)⟩ :: rest)

theorem finds_of_looked {looking : Log} {revision : Subscription}
    (looked : Ends (gitSubscription? key).run looking (.ok (some revision))) (rest : Log) :
    Finds key (looking ++ rest) revision := by
  rcases gitSubscription_cases looked with
    ⟨_, _, impossible⟩ | ⟨_, impossible⟩ | ⟨_, _, _, impossible⟩ | ⟨stored, channel, rfl, same⟩
  · cases impossible
  · cases impossible
  · cases impossible
  · cases channel with
    | none => cases same
    | some channel =>
        cases git : channel.isGit with
        | false =>
            simp [Option.filter, git] at same
        | true =>
            have revisionIs : revision = stored := by simpa [Option.filter, git] using same
            subst revisionIs
            exact ⟨channel, rest, git, rfl⟩

theorem finds_of_made {derivation : HookDerivation} (made : derivation.Made context key log) :
    Finds key log derivation.revision := by
  cases made with
  | intro looked downloaded cloned within told => exact finds_of_looked looked _

theorem Finds.looked {looking rest : Log} {revision : Subscription}
    {found : Except HookError (Option Subscription)} (finds : Finds key (looking ++ rest) revision)
    (looked : Ends (gitSubscription? key).run looking found) : found = .ok (some revision) := by
  obtain ⟨channel, others, git, same⟩ := finds
  have again : Ends (gitSubscription? key).run
      [⟨.subscription key, .ok (some revision)⟩,
        ⟨.channel revision.channelKey, .ok (some channel)⟩]
      (.ok (((some channel).filter Channel.isGit).map fun _ => revision)) :=
    .ask (.ask (.done _))
  have filtered : (some channel).filter Channel.isGit = some channel := by
    simp [Option.filter, git]
  rw [filtered] at again
  exact (ends_unique looked again same).2.1

theorem Idles.not_finds {revision : Subscription} (idles : Idles key before log)
    (outdated : (known before key).isCurrent revision = false) : ¬ Finds key log revision := by
  rintro ⟨channel, rest, git, same⟩
  cases idles with
  | missing => cases same
  | channelless => cases same
  | foreign foreign =>
      cases same
      cases foreign.symm.trans git
  | unchanged found known numbered =>
      cases same
      unfold HookRecords.known at outdated
      rw [found] at outdated
      simp [HookRecord.isCurrent, known, numbered] at outdated

/-- Looking for the subscription alone downloads nothing. -/
theorem not_downloads_of_looked {revision : Subscription}
    {found : Except HookError (Option Subscription)}
    {outcome : Except HookError HookTemplates} (looked : Ends (gitSubscription? key).run log found) :
    ¬ Downloads context key log revision outcome := by
  rintro ⟨looking, download, asking, whole, lookedAgain, downloaded⟩
  rw [← List.append_nil log] at whole
  obtain ⟨_, _, rest⟩ := ends_unique looked lookedAgain whole
  have nothing : download = [] := (List.append_eq_nil_iff.mp rest.symm).1
  exact HookTemplates.download_ne_nil downloaded nothing

theorem Downloads.of_made {derivation : HookDerivation} {revision : Subscription}
    {outcome : Except HookError HookTemplates} (made : derivation.Made context key log)
    (downloads : Downloads context key log revision outcome) :
    outcome = .ok derivation.templates := by
  obtain ⟨looking, download, asking, whole, lookedAgain, downloadedAgain⟩ := downloads
  cases made with
  | intro looked downloaded cloned within told =>
      obtain ⟨_, revisions, rest⟩ := ends_unique looked lookedAgain whole
      cases revisions
      exact (ends_unique downloaded downloadedAgain rest).2.1.symm

end HookRecords

end GitDelivery
