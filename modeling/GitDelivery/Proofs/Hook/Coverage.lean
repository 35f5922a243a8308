import GitDelivery.Proofs.Hook.Submissions
import GitDelivery.Proofs.Hook.Template
import GitDelivery.Proofs.Yaml.Document

set_option autoImplicit false

/-! Which templates of a revision have their job submitted once both sides were submitted: the last one
of every name on its side. -/

namespace GitDelivery

open Dialogue Work

/-- A store has a job under one of some keys exactly if one was accepted for it. -/
def HookJob.HoldsAccepted (owns : ObjectKey → Prop) (log : Log) : Prop :=
  ∀ early name found late, log = early ++ ⟨.job name, .ok found⟩ :: late → owns name →
    (found.isSome = true ↔ name ∈ (accepted early).map HookJob.key)

theorem HookRecord.submitAll_ok {limit : Nat} {jobs : List HookJob} {ledger after : JobLedger}
    {log : Log} (ended : Ends (submitAll limit jobs ledger) log (.ok (), after)) :
    ∀ job ∈ jobs, job ∈ HookJob.accepted log ∨
      ∃ present, ⟨.job job.key, .ok (some present)⟩ ∈ log := by
  induction jobs generalizing ledger log with
  | nil =>
      intro job member
      cases member
  | cons next rest ih =>
      intro job member
      rcases submitAll_cons ended with
        ⟨_, ⟨_, impossible⟩, _⟩ | ⟨first, others, rfl, asked, later⟩
      · cases impossible
      rcases List.mem_cons.mp member with rfl | inside
      · rcases asked with ⟨present, rfl⟩ | rfl
        · exact .inr ⟨present, List.mem_cons_self⟩
        · exact .inl List.mem_cons_self
      · rw [HookJob.accepted_append]
        rcases ih later job inside with submitted | ⟨present, there⟩
        · exact .inl (List.mem_append_right _ submitted)
        · exact .inr ⟨present, List.mem_append_right _ there⟩

namespace HookDerivation

variable {context : Context} {key : ObjectKey} {log : Log}

theorem Made.unique {one other : HookDerivation} (first : one.Made context key log)
    (second : other.Made context key log) :
    one.revision = other.revision ∧ one.templates = other.templates ∧
      one.clusters = other.clusters := by
  cases first with
  | @intro _ looking download asking _ _ looked downloaded _ _ told =>
      generalize whole : looking ++ (download ++ asking) = log at second
      cases second with
      | intro lookedAgain downloadedAgain _ _ toldAgain =>
          obtain ⟨_, found, rest⟩ := ends_unique looked lookedAgain whole
          have revisions : one.revision = other.revision := Option.some.inj (Except.ok.inj found)
          rw [← revisions] at downloadedAgain toldAgain
          obtain ⟨_, got, rest⟩ := ends_unique downloaded downloadedAgain rest
          have templates : one.templates = other.templates := Except.ok.inj got
          rw [← templates] at toldAgain
          have clusters := (ends_unique told toldAgain (congrArg (· ++ []) rest)).2.1
          exact ⟨revisions, templates, clusters⟩

end HookDerivation

namespace HookRecords

variable {context : Context} {key : ObjectKey} {log : Log} {before first records : HookRecords}
  {history : List MadeCall} {derivation : HookDerivation} {found : HookSide → List HookJob}

/-- The record has the jobs of the templates that were found on either side for a revision. -/
def Serves (context : Context) (key : ObjectKey) (derivation : HookDerivation)
    (found : HookSide → List HookJob) (records : HookRecords) : Prop :=
  ∃ record, Registry.find? key records = some record ∧
    record.generation = derivation.revision.metadata.generation ∧
    ∀ side, MadeOf (derivation.makeJob context) (found side) (record.side side).current

private theorem serves_of_made {result : Except HookError Unit}
    (registered : Performs context key before (.register result) log first)
    (made : derivation.Made context key log)
    (discovered : ∀ side, derivation.discovered side = .ok (found side)) :
    Serves context key derivation found first := by
  cases registered with
  | register ended =>
      rcases (register_course ended).effect with
        ⟨_, _, silent⟩ | ⟨_, _, _, _, failed, _⟩ | ⟨other, _, _, madeToo, renewed⟩
      · cases made with
        | @intro _ looking download asking _ _ looked downloaded _ _ _ =>
            exact absurd ⟨looking, download, asking, rfl, looked, downloaded⟩ (silent _ _)
      · cases Downloads.of_made made failed
      · obtain ⟨revisions, templates, clusters⟩ := made.unique madeToo
        rw [← revisions, ← templates, ← clusters] at renewed
        refine ⟨_, renewed, rfl, ?_⟩
        intro side
        rcases (derivation.fills_renew (known before key) side : derivation.Fills context side _) with
          ⟨jobs, same, fills⟩ | ⟨_, failed, _⟩
        · cases same.symm.trans (discovered side)
          exact fills
        · cases failed.symm.trans (discovered side)

/-- Every call of a run at one generation finds the same jobs. -/
theorem Calls.serves {made : MadeCall} (calls : Calls context key first history records)
    (steady : Steady key derivation.revision.metadata.generation history)
    (serves : Serves context key derivation found first) (member : made ∈ history) :
    Serves context key derivation found made.before := by
  obtain ⟨record, there, numbered, jobs⟩ := serves
  obtain ⟨early, late, _, rfl, earlier, _⟩ := calls.split member
  obtain ⟨current, foundBefore, same⟩ := earlier.keeps_demand steady.left there numbered
  refine ⟨current, foundBefore, (congrArg Prod.fst same).trans numbered, ?_⟩
  intro side
  rw [HookRecord.current_of_demand same side]
  exact jobs side

/-- Only the last templates of their names have jobs that are accepted. -/
theorem Calls.accepted_of_template {job : HookJob} (calls : Calls context key first history records)
    (steady : Steady key derivation.revision.metadata.generation history)
    (serves : Serves context key derivation found first)
    (accepted : job ∈ HookJob.accepted (logOf history)) :
    ∃ side name template, lastNamed? name (found side) = some template ∧
      job = derivation.makeJob context template := by
  obtain ⟨made, member, submitted⟩ := List.mem_flatMap.mp (HookJob.mem_accepted_iff.mp accepted)
  obtain ⟨_, _, _, _, _, performed, _⟩ := calls.split member
  obtain ⟨side, name, submits⟩ := performed.submits submitted
  obtain ⟨record, there, _, jobs⟩ := calls.serves steady serves member
  obtain ⟨again, thereAgain, inside⟩ := submits.current
  cases there.symm.trans thereAgain
  obtain ⟨template, last, same⟩ := (jobs side).last name job inside
  exact ⟨side, name, template, last, same⟩

private theorem submit_ok {side : HookSide} {record : HookRecord}
    (ended : Ends (submit context key side before) log (.ok (), records))
    (there : Registry.find? key before = some record) :
    ∀ job ∈ (record.side side).latest, job ∈ HookJob.accepted log ∨
      ∃ present, ⟨.job job.key, .ok (some present)⟩ ∈ log := by
  unfold submit at ended
  rw [there] at ended
  obtain ⟨_, ⟨outcome, ledger⟩, _, submits, last, rfl⟩ := ends_bind_iff.mp ended
  obtain ⟨rfl, same⟩ := ends_pure_iff.mp last
  cases same
  rw [List.append_nil]
  exact HookRecord.submitAll_ok submits

/-- A job of a side that was submitted successfully is in the store, or one that took its key. -/
theorem Calls.accepted_of_submit {owns : ObjectKey → Prop} {call : MadeCall} {side : HookSide}
    {record : HookRecord} {job : HookJob} (calls : Calls context key first history records)
    (holds : HookJob.HoldsAccepted owns (logOf history)) (member : call ∈ history)
    (submitted : call.call = .submit side (.ok ()))
    (there : Registry.find? key call.before = some record)
    (latest : job ∈ (record.side side).latest) (owned : owns job.key) :
    job.key ∈ (HookJob.accepted (logOf history)).map HookJob.key := by
  obtain ⟨early, late, _, rfl, _, performed, _⟩ := calls.split member
  have whole : logOf (early ++ call :: late) = logOf early ++ (call.log ++ logOf late) := by
    simp [logOf]
  rw [submitted] at performed
  rw [whole] at holds ⊢
  cases performed with
  | submit ended =>
      rcases submit_ok ended there job latest with accepted | ⟨present, found⟩
      · rw [HookJob.accepted_append, HookJob.accepted_append]
        exact List.mem_map_of_mem (List.mem_append_right _ (List.mem_append_left _ accepted))
      · -- The store has the job, and it has no others than those that were accepted until then.
        obtain ⟨asked, rest, split⟩ := List.append_of_mem found
        have position : logOf early ++ (call.log ++ logOf late) =
            (logOf early ++ asked) ++
              ⟨.job job.key, .ok (some present)⟩ :: (rest ++ logOf late) := by
          rw [split]
          simp
        have known := (holds _ _ _ _ position owned).mp rfl
        rw [position, HookJob.accepted_append, List.map_append]
        exact List.mem_append_left _ known

def Owns (context : Context) (derivation : HookDerivation) (found : HookSide → List HookJob)
    (name : ObjectKey) : Prop :=
  ∃ side, ∃ template ∈ found side, name = (derivation.makeJob context template).key

/-- Once both sides were submitted, the last template of every name has its job, unless a template of
the other side has the same name. Jobs of templates with different names have different keys. -/
theorem hooks_covered {result : Except HookError Unit}
    (registered : Performs context key before (.register result) log first)
    (made : derivation.Made context key log)
    (discovered : ∀ side, derivation.discovered side = .ok (found side))
    (calls : Calls context key first history records)
    (steady : Steady key derivation.revision.metadata.generation history)
    (holds : HookJob.HoldsAccepted (Owns context derivation found) (logOf history))
    (submitted : ∀ side, ∃ made ∈ history, made.call = .submit side (.ok ())) :
    (∀ side, ∀ template ∈ found side,
      (∀ other, other ≠ side → ∀ rival ∈ found other,
        rival.metadata.anyName ≠ template.metadata.anyName) →
      ∃ last, lastNamed? template.metadata.anyName (found side) = some last ∧
        derivation.makeJob context last ∈ HookJob.accepted (logOf history) ∧
        ∀ job ∈ HookJob.accepted (logOf history),
          job.key = (derivation.makeJob context template).key →
            job = derivation.makeJob context last) ∧
    ∀ side other, ∀ template ∈ found side, ∀ rival ∈ found other,
      template.metadata.anyName ≠ rival.metadata.anyName →
        (derivation.makeJob context template).key ≠ (derivation.makeJob context rival).key := by
  have named (side : HookSide) : ∀ template ∈ found side, HookTemplate.Named template :=
    HookTemplate.discover_named (discovered side)
  have serves := serves_of_made registered made discovered
  refine ⟨?_, ?_⟩
  · intro side template member alone
    obtain ⟨last, isLast⟩ := exists_lastNamed? member rfl
    obtain ⟨inside, sameName⟩ := anyName_of_lastNamed? isLast
    have sameKey : (derivation.makeJob context last).key =
        (derivation.makeJob context template).key :=
      (HookJob.key_ofTemplate_inj (named side last inside) (named side template member)).mpr sameName
    have single : ∀ job ∈ HookJob.accepted (logOf history),
        job.key = (derivation.makeJob context template).key →
          job = derivation.makeJob context last := by
      intro job accepted key
      obtain ⟨other, name, origin, isOrigin, rfl⟩ := calls.accepted_of_template steady serves accepted
      obtain ⟨originInside, rfl⟩ := anyName_of_lastNamed? isOrigin
      have names := (HookJob.key_ofTemplate_inj (named other origin originInside)
        (named side template member)).mp key
      -- On its own side the name decides; on the other side nothing bears it.
      by_cases same : other = side
      · subst same
        rw [names] at isOrigin
        rw [Option.some.inj (isOrigin.symm.trans isLast)]
      · exact absurd names (alone other same origin originInside)
    refine ⟨last, isLast, ?_, single⟩
    obtain ⟨call, callMember, isSubmit⟩ := submitted side
    obtain ⟨record, there, _, jobs⟩ := calls.serves steady serves callMember
    have latest : derivation.makeJob context last ∈ (record.side side).latest :=
      List.mem_map_of_mem ((jobs side).mem isLast)
    have taken := calls.accepted_of_submit holds callMember isSubmit there latest
      ⟨side, last, inside, rfl⟩
    obtain ⟨job, accepted, key⟩ := List.mem_map.mp taken
    rw [← single job accepted (key.trans sameKey)]
    exact accepted
  · intro side other template member rival rivalMember different sameKey
    exact different ((HookJob.key_ofTemplate_inj (named side template member)
      (named other rival rivalMember)).mp sameKey)

end HookRecords

namespace HookRecords.SharedNames

open SyncItem.FailedManifest (channel context)
open Delivery.EditedLater (channelRead cloning fetched hookDirectory hookOptions key looked notify
  revision template template_ofFile templateDirectory_eq)

def rivalText : String :=
  "\x7b'apiVersion': 'tower.ansible.com/v1', 'kind': 'AnsibleJob', " ++
    "'metadata': \x7b'name': 'notify'\x7d, 'spec': \x7b'job_template_name': 'page'\x7d\x7d"

def rival : HookJob :=
  { notify with spec := ⟨none, some "page", none, []⟩ }

def reportText : String :=
  "\x7b'apiVersion': 'tower.ansible.com/v1', 'kind': 'AnsibleJob', " ++
    "'metadata': \x7b'name': 'report'\x7d, 'spec': \x7b\x7d\x7d"

def report : HookJob :=
  { notify with metadata := { name := some "report" } }

private theorem rivalText_means : Yaml.parseJson rivalText = .ok (.object
    [("apiVersion", .text "tower.ansible.com/v1"), ("kind", .text "AnsibleJob"),
      ("metadata", .object [("name", .text "notify")]),
      ("spec", .object [("job_template_name", .text "page")])]) := by
  have lexed : Yaml.tokens rivalText = .ok (Yaml.braced [("apiVersion", Yaml.quoted "tower.ansible.com/v1"),
      ("kind", Yaml.quoted "AnsibleJob"), ("metadata", Yaml.braced [("name", Yaml.quoted "notify")]),
      ("spec", Yaml.braced [("job_template_name", Yaml.quoted "page")])]) := by
    decide +kernel
  unfold Yaml.parseJson Yaml.Document.ofText
  rw [lexed]
  rfl

private theorem reportText_means : Yaml.parseJson reportText = .ok (.object
    [("apiVersion", .text "tower.ansible.com/v1"), ("kind", .text "AnsibleJob"),
      ("metadata", .object [("name", .text "report")]), ("spec", .object [])]) := by
  have lexed : Yaml.tokens reportText = .ok (Yaml.braced [("apiVersion", Yaml.quoted "tower.ansible.com/v1"),
      ("kind", Yaml.quoted "AnsibleJob"), ("metadata", Yaml.braced [("name", Yaml.quoted "report")]),
      ("spec", Yaml.braced [])]) := by
    decide +kernel
  unfold Yaml.parseJson Yaml.Document.ofText
  rw [lexed]
  rfl

set_option maxRecDepth 4000 in
private theorem rivalText_ofFile (file : String) :
    HookTemplate.ofFile file (Bytes.ofText rivalText) = .ok [rival] := by
  have line : Manifest.OneLine rivalText := by decide +kernel
  unfold HookTemplate.ofFile
  rw [line.text?_ofText]
  simp only [line.splitDocuments_eq, HookTemplate.ofDocuments, rivalText_means]
  rfl

set_option maxRecDepth 4000 in
private theorem reportText_ofFile (file : String) :
    HookTemplate.ofFile file (Bytes.ofText reportText) = .ok [report] := by
  have line : Manifest.OneLine reportText := by decide +kernel
  unfold HookTemplate.ofFile
  rw [line.text?_ofText]
  simp only [line.splitDocuments_eq, HookTemplate.ofDocuments, reportText_means]
  rfl

/-- Two templates of one name come before the deployment, and another one of that name after it. -/
def disk : FileTree :=
  let before := FileTree.directory [("a.yaml", .file (Bytes.ofText template)),
    ("b.yaml", .file (Bytes.ofText rivalText))]
  let after := FileTree.directory [("a.yaml", .file (Bytes.ofText template)),
    ("b.yaml", .file (Bytes.ofText reportText))]
  let copies := FileTree.directory [("apps", .directory [("web", .directory
    [("4af913d9b68cb32352e93ee75a3870e8",
      .directory [("posthook", after), ("prehook", before)])])])]
  .directory [("git", .directory [("hooks", copies)])]

def derivation : HookDerivation := ⟨revision 1, ⟨"c0ffee", disk⟩, hookDirectory, []⟩

def found : HookSide → List HookJob
  | .pre => [notify, rival]
  | .post => [notify, report]

private theorem discover_two {directory text : String} {job : HookJob}
    (there : disk.find? directory = some (.directory [("a.yaml", .file (Bytes.ofText template)),
      ("b.yaml", .file (Bytes.ofText text))]))
    (read : ∀ file, HookTemplate.ofFile file (Bytes.ofText text) = .ok [job]) :
    HookTemplate.discover disk directory = .ok [notify, job] := by
  have first : Manifest.isManifestName "a.yaml" = true := by decide
  have second : Manifest.isManifestName "b.yaml" = true := by decide
  unfold HookTemplate.discover
  rw [there]
  change HookTemplate.ofChildren _ _ = _
  simp only [HookTemplate.ofChildren, HookTemplate.ofEntry, first, second, if_true,
    template_ofFile, read]
  rfl

set_option maxRecDepth 4000 in
theorem discovered : ∀ side, derivation.discovered side = .ok (found side)
  | .pre => discover_two rfl rivalText_ofFile
  | .post => discover_two rfl reportText_ofFile

private theorem templates_eq : derivation.templates = ⟨[notify, rival], [notify, report]⟩ := by
  have pre := derivation.side_templates .pre
  have post := derivation.side_templates .post
  rw [discovered] at pre post
  cases same : derivation.templates with
  | mk before after =>
      rw [same] at pre post
      cases pre
      cases post
      rfl

def registering : Log := looked 1 ++ ((channelRead 1 ++ cloning derivation.checkout) ++ [])

theorem downloaded :
    Ends (HookTemplates.download (revision 1) (HookRecord.templateDirectory context key)).run
      (channelRead 1 ++ cloning derivation.checkout) (.ok derivation.templates) :=
  fetched 1 derivation.checkout

theorem told : Ends (HookRecord.clustersFor (revision 1) derivation.templates) [] [] := by
  unfold HookRecord.clustersFor
  rw [if_pos (by simp [revision, SyncItem.FailedManifest.subscription])]
  exact .done _

theorem looks : Ends (gitSubscription? key).run (looked 1) (.ok (some (revision 1))) :=
  .ask (.ask (.done _))

theorem made : derivation.Made context key registering := by
  have within : FilePath.joinWithin (HookRecord.templateDirectory context key)
      (hookPath? (revision 1)) = .ok hookDirectory := by
    rw [templateDirectory_eq]
    decide +kernel
  have cloned : ⟨.clone hookOptions hookOptions.primary, .ok derivation.checkout⟩ ∈
      channelRead 1 ++ cloning derivation.checkout :=
    List.mem_append_right _ List.mem_cons_self
  exact .intro looks downloaded cloned within told

def job (template : HookJob) : HookJob := derivation.makeJob context template

def renewed : HookRecord :=
  HookRecord.renew context (revision 1) derivation.templates [] {}

theorem renewed_latest (side : HookSide) : (renewed.side side).latest =
    match side with
    | .pre => [job rival]
    | .post => [job notify, job report] := by
  unfold renewed
  rw [templates_eq]
  cases side <;> rfl

theorem registered :
    Performs context key [] (.register (.ok ())) registering [(key, renewed)] := by
  have refreshed : Ends (HookRecord.refresh context key (revision 1) {})
      ((channelRead 1 ++ cloning derivation.checkout) ++ []) (.ok (), renewed) :=
    ends_bind downloaded (ends_bind told (.done _))
  refine .register ?_
  unfold registering
  rw [← List.append_nil (_ ++ [])]
  exact ends_bind looks (ends_bind refreshed (.done _))

def submitting : Log := [⟨.job (job rival).key, .ok none⟩, ⟨.submit (job rival), .ok ()⟩]

def concluding : Log :=
  [⟨.job (job notify).key, .ok (some (job rival))⟩, ⟨.job (job report).key, .ok none⟩,
    ⟨.submit (job report), .ok ()⟩]

def noted : HookRecord :=
  let ledger := renewed.side .pre
  renewed.setSide (ledger.recordApplied context.settings.hookHistoryLimit (job rival).key) .pre

def history : List MadeCall :=
  [⟨[(key, renewed)], .submit .pre (.ok ()), submitting⟩,
    ⟨[(key, noted)], .submit .post (.ok ()), concluding⟩]

theorem submit_single {record : HookRecord} {side : HookSide} {jobs : List HookJob} {log : Log}
    {ledger : JobLedger} (latest : (record.side side).latest = jobs)
    (all : Ends (HookRecord.submitAll context.settings.hookHistoryLimit jobs (record.side side)) log
      (.ok (), ledger)) :
    Ends (submit context key side [(key, record)]) log
      (.ok (), [(key, record.setSide ledger side)]) := by
  have there : Registry.find? key [(key, record)] = some record := if_pos rfl
  have placed (later : HookRecord) : Registry.set key later [(key, record)] = [(key, later)] :=
    if_pos rfl
  unfold submit
  rw [there, ← placed, ← List.append_nil log]
  subst latest
  exact ends_bind all (.done _)

private theorem submits :
    Ends (submit context key .pre [(key, renewed)]) submitting (.ok (), [(key, noted)]) :=
  submit_single (renewed_latest .pre) (.ask (.ask (.done _)))

def concluded : HookRecord :=
  let limit := context.settings.hookHistoryLimit
  let ledger := (noted.side .post).recordApplied limit (job notify).key
  noted.setSide (ledger.recordApplied limit (job report).key) .post

private theorem concludes :
    Ends (submit context key .post [(key, noted)]) concluding (.ok (), [(key, concluded)]) := by
  have untouched (record : HookRecord) (ledger : JobLedger) :
      (record.setSide ledger .pre).side .post = record.side .post := rfl
  have latest : (noted.side .post).latest = [job notify, job report] := by
    unfold noted
    rw [untouched]
    exact renewed_latest .post
  exact submit_single latest (.ask (.ask (.ask (.done _))))

theorem calls : Calls context key [(key, renewed)] history [(key, concluded)] :=
  .next (.next .start (.submit submits)) (.submit concludes)

theorem steady : Steady key derivation.revision.metadata.generation history where
  goesOn := by simp [history]
  read := by
    intro made member revision read
    simp only [history, List.mem_cons, List.not_mem_nil, or_false] at member
    rcases member with rfl | rfl
    · simp [submitting] at read
    · simp [concluding] at read

private theorem accepted_eq : HookJob.accepted (logOf history) = [job rival, job report] := rfl

theorem submitted : ∀ side, ∃ made ∈ history, made.call = .submit side (.ok ())
  | .pre => ⟨_, List.mem_cons_self, rfl⟩
  | .post => ⟨_, List.mem_cons_of_mem _ List.mem_cons_self, rfl⟩

theorem named (side : HookSide) : ∀ template ∈ found side, HookTemplate.Named template :=
  HookTemplate.discover_named (discovered side)

private theorem shared_key : (job notify).key = (job rival).key := by
  have own := named .pre notify List.mem_cons_self
  have other := named .pre rival (List.mem_cons_of_mem _ List.mem_cons_self)
  exact (HookJob.key_ofTemplate_inj own other).mpr rfl

private theorem report_key : (job report).key ≠ (job rival).key := by
  have own := named .post report (List.mem_cons_of_mem _ List.mem_cons_self)
  have other := named .pre rival (List.mem_cons_of_mem _ List.mem_cons_self)
  intro same
  exact absurd ((HookJob.key_ofTemplate_inj own other).mp same) (by decide)

theorem holds : HookJob.HoldsAccepted (Owns context derivation found) (logOf history) := by
  intro early name answer late split _
  change submitting ++ concluding = _ at split
  match early, split with
  | [], same =>
      cases same
      simp [HookJob.accepted]
  | [_], same => cases same
  | [_, _], same =>
      cases same
      change true = true ↔ (job notify).key ∈ [(job rival).key]
      simp [shared_key]
  | [_, _, _], same =>
      cases same
      change false = true ↔ (job report).key ∈ [(job rival).key]
      simp [report_key]
  | [_, _, _, _], same => cases same
  | _ :: _ :: _ :: _ :: _ :: more, same => simp [submitting, concluding] at same

/-- The job of the second template is submitted for its name on this side, and the only template of
another name has its job. -/
theorem last_hooks_covered :
    Performs context key [] (.register (.ok ())) registering [(key, renewed)] ∧
      derivation.Made context key registering ∧
      (∀ side, derivation.discovered side = .ok (found side)) ∧
      Calls context key [(key, renewed)] history [(key, concluded)] ∧
      Steady key derivation.revision.metadata.generation history ∧
      HookJob.HoldsAccepted (Owns context derivation found) (logOf history) ∧
      (∀ side, ∃ made ∈ history, made.call = .submit side (.ok ())) ∧
      job report ∈ HookJob.accepted (logOf history) ∧ (job report).key ≠ (job notify).key := by
  obtain ⟨covered, distinct⟩ :=
    hooks_covered registered made discovered calls steady holds submitted
  have inside : report ∈ found .post := List.mem_cons_of_mem _ List.mem_cons_self
  have alone : ∀ other, other ≠ .post → ∀ rival ∈ found other,
      rival.metadata.anyName ≠ report.metadata.anyName := by
    intro other different template member
    cases other with
    | post => exact absurd rfl different
    | pre =>
        simp only [found, List.mem_cons, List.not_mem_nil, or_false] at member
        rcases member with rfl | rfl <;> decide
  obtain ⟨last, isLast, accepted, _⟩ := covered .post report inside alone
  cases isLast
  exact ⟨registered, made, discovered, calls, steady, holds, submitted, accepted,
    distinct .post .pre report inside notify List.mem_cons_self (by decide)⟩

/-- On either side a template was found whose job is not in the store: one that another template of its
side replaced, and one whose key was taken by the job of the other side. -/
theorem hooks_swallowed :
    Performs context key [] (.register (.ok ())) registering [(key, renewed)] ∧
      derivation.Made context key registering ∧
      (∀ side, derivation.discovered side = .ok (found side)) ∧
      Calls context key [(key, renewed)] history [(key, concluded)] ∧
      Steady key derivation.revision.metadata.generation history ∧
      HookJob.HoldsAccepted (Owns context derivation found) (logOf history) ∧
      (∀ side, ∃ made ∈ history, made.call = .submit side (.ok ())) ∧
      ∀ side, ∃ template ∈ found side,
        derivation.makeJob context template ∉ HookJob.accepted (logOf history) := by
  refine ⟨registered, made, discovered, calls, steady, holds, submitted, ?_⟩
  have missing : job notify ∉ HookJob.accepted (logOf history) := by
    rw [accepted_eq]
    intro member
    have described := List.mem_map_of_mem (f := fun job => (job.metadata.name, job.spec.template))
      member
    exact absurd described (by decide)
  intro side
  refine ⟨notify, ?_, missing⟩
  cases side <;> exact List.mem_cons_self

end HookRecords.SharedNames

end GitDelivery
