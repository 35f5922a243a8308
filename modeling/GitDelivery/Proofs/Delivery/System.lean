import GitDelivery.Proofs.Delivery.Gate
import GitDelivery.Proofs.Sync.Withholding

set_option autoImplicit false

/-! Runs of delivery: subscriptions are edited, passes are made for revisions that are or were current,
and loops tick, in any order. A loop that was started for the generation that it deploys deploys it
after the jobs before the deployment have succeeded; a loop that was started for an older generation
deploys the newer one without having waited for its jobs. -/

namespace GitDelivery.Delivery

open Dialogue Work Outside

/-- What there is outside, what is known of all subscriptions, and everything that was asked so far. -/
structure System where
  outside : Outside
  controller : Controller
  history : Log

/-- What happens at once. Everything may change outside while nothing is done, as far as subscriptions
and jobs evolve; while something is done, the outside answers and evolves. -/
inductive Step (context : Context) : System → System → Prop where
  | elapse {system : System} {outside : Outside} (evolves : Evolves system.outside outside) :
      Step context system { system with outside := outside }
  | pass {system : System} {revision : Subscription} {now : Nat} {log : Log}
      {result : Except ReconcileError NextPass} {controller : Controller} {outside : Outside}
      (asked : Asked system.outside revision) (plays : Plays system.outside log outside)
      (ended : Ends (system.controller.pass context revision now) log (result, controller)) :
      Step context system ⟨outside, controller, system.history ++ log⟩
  | failure (system : System) (key : ObjectKey) :
      Step context system
        { system with controller := (system.controller.countFailure context.settings key).2 }
  | tick {system : System} {key : ObjectKey} {loop next : SyncLoop} {now : Nat} {log : Log}
      {outside : Outside} (found : Registry.find? key system.controller.loops = some loop)
      (plays : Plays system.outside log outside) (ended : Ends (loop.step context now) log next) :
      Step context system ⟨outside,
        { system.controller with loops := Registry.set key next system.controller.loops },
        system.history ++ log⟩
  | syncNow {system : System} {key : ObjectKey} {log : Log} {result : Option TickResult}
      {loops : SyncLoops} {outside : Outside} (plays : Plays system.outside log outside)
      (ended : Ends (system.controller.loops.syncNow context key) log (result, loops)) :
      Step context system
        ⟨outside, { system.controller with loops := loops }, system.history ++ log⟩

inductive Run (context : Context) (first : System) : System → Prop where
  | start : Run context first first
  | step {system next : System} (run : Run context first system)
      (step : Step context system next) : Run context first next

section

variable {context : Context} {first system next : System} {key : ObjectKey}

/-- A tick keeps a loop sound, because it changes neither its subscription nor its generation. -/
private theorem replaceLoop {history : Log} {early late : Outside} {controller : Controller}
    {loop after : SyncLoop} (sound : Sound context history early late controller)
    (found : Registry.find? key controller.loops = some loop)
    (generation : after.generation = loop.generation) (named : after.item.key = loop.item.key) :
    Sound context history early late
      { controller with loops := Registry.set key after controller.loops } := by
  have loopSound := sound.loops key loop found
  refine sound.startLoop (named.trans loopSound.named) ?_ ?_
  · rw [generation]
    exact loopSound.started
  · rw [generation]
    exact loopSound.gate

theorem Step.sound (step : Step context system next)
    (sound : Sound context system.history system.outside system.outside system.controller) :
    Sound context next.history next.outside next.outside next.controller := by
  cases step with
  | elapse evolves => exact (sound.later (.refl _) evolves).settled evolves
  | pass asked plays ended => exact sound.pass asked plays ended
  | failure => exact ⟨sound.loops, sound.records⟩
  | tick found plays ended =>
      obtain ⟨_, _, generation, named⟩ := SyncLoop.step_cases ended
      exact replaceLoop ((sound.meanwhile plays).settled plays.meanwhile.evolves) found generation
        named
  | syncNow plays ended =>
      have soundThen := (sound.meanwhile plays).settled plays.meanwhile.evolves
      rcases SyncLoops.syncNow_cases ended with
        ⟨_, rfl⟩ | ⟨loop, _, item, _, found, _, named, rfl⟩
      · exact soundThen
      · exact replaceLoop soundThen found rfl named

/-- From the time when nothing is known of any subscription, every loop is sound all the time. -/
theorem Run.sound {outside : Outside} (run : Run context ⟨outside, {}, []⟩ system) :
    Sound context system.history system.outside system.outside system.controller := by
  induction run with
  | start => exact .initial context [] outside outside
  | step _ step ih => exact step.sound ih

/-- Whatever has happened before, and whatever happens during a tick of a loop: the generation that it
deploys is the one that the loop was started for, or a newer one. If it is the one that the loop was
started for, all jobs before its deployment have succeeded by the time the tick begins. -/
theorem deploys_gated {outside late : Outside} {loop : SyncLoop} {trigger : Trigger} {log : Log}
    {result : TickResult} {item : SyncItem} {batch : Batch} {reply : Except String Unit}
    (run : Run context ⟨outside, {}, []⟩ system)
    (found : Registry.find? key system.controller.loops = some loop)
    (plays : Plays system.outside log late)
    (ended : Ends (loop.item.run context trigger) log (result, item))
    (deployed : ⟨.deploy batch, reply⟩ ∈ log) :
    ∃ started generation, loop.generation = some started ∧
      batch.subscription.metadata.generation = some generation ∧ started ≤ generation ∧
      (started = generation →
        GateOpen context system.history system.controller.hooks system.outside key
          generation) := by
  have loopSound := run.sound.loops key loop found
  have read := SyncItem.run_mem_read ended deployed
  rw [loopSound.named] at read
  obtain ⟨between, before, _, there⟩ := plays.answered.subscription read
  obtain ⟨generation, numbered⟩ := between.generation key batch.subscription there
  obtain ⟨started, current, startedIs, stored, lower⟩ := loopSound.started
  obtain ⟨later, storedLater, above⟩ := stored.later before
  obtain rfl := storedLater.unique ⟨batch.subscription, there, numbered⟩
  refine ⟨started, later, startedIs, numbered, Int.le_trans lower above, ?_⟩
  rintro rfl
  have unchanged : current = started := by omega
  subst unchanged
  exact loopSound.gate current startedIs stored

end

/-! ### An edit after the loop was started -/

namespace EditedLater

open SyncItem.FailedManifest (channel classesOf classifyFile_configMap context directory good
  good_kind good_line good_means itemAfter itemOf options)

def key : ObjectKey := ⟨"apps", "web"⟩

def revision (generation : Int) : Subscription :=
  { SyncItem.FailedManifest.subscription with
    metadata := { SyncItem.FailedManifest.subscription.metadata with generation := some generation } }

def template : String :=
  "\x7b'apiVersion': 'tower.ansible.com/v1', 'kind': 'AnsibleJob', " ++
    "'metadata': \x7b'name': 'notify'\x7d, 'spec': \x7b\x7d\x7d"

def notify : HookJob :=
  { metadata := { name := some "notify" }, spec := ⟨none, none, none, []⟩, status := none }

def job (generation : Int) : HookJob :=
  .ofTemplate (revision generation) (context.hookSuffix (revision generation)) [] notify

def finished : HookJob :=
  { notify with status := some ⟨some ⟨some "successful", []⟩, []⟩ }

def repository : FileTree :=
  .directory [("app.yaml", .file (Bytes.ofText good)),
    ("prehook", .directory [("notify.yaml", .file (Bytes.ofText template))])]

def disk : FileTree :=
  let copies := ("apps", FileTree.directory [("web", .directory
    [("4af913d9b68cb32352e93ee75a3870e8", repository)])])
  .directory [("git", .directory [copies, ("hooks", .directory [copies])])]

def checkout : Checkout := ⟨"c0ffee", disk⟩

def outside (generation : Int) : Outside where
  subscription? name := if name = key then some (revision generation) else none
  channel? _ := some channel
  job? name := if name = (job 1).key then some finished else none
  checkout? _ := some checkout
  key := by
    intro name stored found
    split at found
    · cases found
      exact Eq.symm ‹name = key›
    · cases found
  generation := by
    intro name stored found
    split at found
    · cases found
      exact ⟨generation, rfl⟩
    · cases found

/-! The templates. -/

private theorem template_means : Yaml.parseJson template = .ok (.object
    [("apiVersion", .text "tower.ansible.com/v1"), ("kind", .text "AnsibleJob"),
      ("metadata", .object [("name", .text "notify")]), ("spec", .object [])]) := by
  have lexed : Yaml.tokens template = .ok (Yaml.braced [("apiVersion", Yaml.quoted "tower.ansible.com/v1"),
      ("kind", Yaml.quoted "AnsibleJob"), ("metadata", Yaml.braced [("name", Yaml.quoted "notify")]),
      ("spec", Yaml.braced [])]) := by
    decide +kernel
  unfold Yaml.parseJson Yaml.Document.ofText
  rw [lexed]
  rfl

set_option maxRecDepth 4000 in
theorem template_ofFile (file : String) :
    HookTemplate.ofFile file (Bytes.ofText template) = .ok [notify] := by
  have line : Manifest.OneLine template := by decide +kernel
  unfold HookTemplate.ofFile
  rw [line.text?_ofText]
  simp only [line.splitDocuments_eq, HookTemplate.ofDocuments, template_means]
  rfl

def hookDirectory : String := "git/hooks/apps/web/4af913d9b68cb32352e93ee75a3870e8"

theorem templateDirectory_eq : HookRecord.templateDirectory context key = hookDirectory := by
  decide +kernel

theorem discovered {tree : FileTree} {directory : String} (there : tree.find? directory =
    some (.directory [("notify.yaml", .file (Bytes.ofText template))])) :
    HookTemplate.discover tree directory = .ok [notify] := by
  have named : Manifest.isManifestName "notify.yaml" = true := by decide
  unfold HookTemplate.discover
  rw [there]
  change HookTemplate.ofChildren _ _ = _
  unfold HookTemplate.ofChildren HookTemplate.ofEntry
  rw [if_pos named, template_ofFile]
  rfl

set_option maxRecDepth 4000 in
private theorem templates_eq : HookTemplates.ofTree disk hookDirectory = ⟨[notify], []⟩ := by
  have before : HookTemplate.discover disk (FilePath.push hookDirectory HookSide.pre.directory) =
      .ok [notify] := discovered rfl
  have after : HookTemplate.discover disk (FilePath.push hookDirectory HookSide.post.directory) =
      .ok [] := rfl
  unfold HookTemplates.ofTree
  simp only [before, after]

def hookOptions : CloneOptions := { options with directory := hookDirectory }

def channelRead (generation : Int) : Log :=
  [⟨.channel (revision generation).channelKey, .ok (some channel)⟩]

def cloning (checkout : Checkout) : Log :=
  [⟨.clone hookOptions hookOptions.primary, .ok checkout⟩]

theorem fetched (generation : Int) (checkout : Checkout) :
    Ends (HookTemplates.download (revision generation)
      (HookRecord.templateDirectory context key)).run (channelRead generation ++ cloning checkout)
      (.ok (.ofTree checkout.tree hookDirectory)) := by
  have channels : Ends (ExceptT.adapt HookError.channel (Channels.load (revision generation))).run
      (channelRead generation) (.ok ⟨channel, none⟩) := .ask (.done _)
  have resolved : Ends (ExceptT.adapt HookError.remote
      (CloneOptions.ofSubscription (revision generation) ⟨channel, none⟩ hookDirectory)).run []
      (.ok hookOptions) := .done _
  have cloned : Ends (Work.attempt HookError.download hookOptions.fetch).run (cloning checkout)
      (.ok checkout) := .ask (.done _)
  rw [templateDirectory_eq]
  unfold HookTemplates.download
  refine (ends_run_bind_after_iff channels).mpr ?_
  change Ends _ ([] ++ (cloning checkout ++ [])) _
  refine (ends_run_bind_after_iff resolved).mpr ?_
  exact (ends_run_bind_after_iff cloned).mpr (.done _)

def cloned : Log := [⟨.clone hookOptions hookOptions.primary, .ok checkout⟩]

def downloading (generation : Int) : Log := channelRead generation ++ cloned

theorem downloaded (generation : Int) :
    Ends (HookTemplates.download (revision generation)
      (HookRecord.templateDirectory context key)).run (downloading generation)
      (.ok ⟨[notify], []⟩) := by
  rw [← templates_eq]
  exact fetched generation checkout

/-! The pass for the first generation. -/

def looked (generation : Int) : Log :=
  [⟨.subscription key, .ok (some (revision generation))⟩,
    ⟨.channel (revision generation).channelKey, .ok (some channel)⟩]

def renewed : HookRecord :=
  HookRecord.renew context (revision 1) ⟨[notify], []⟩ [] {}

def submitted : HookRecord :=
  renewed.setSide (renewed.pre.recordApplied context.settings.hookHistoryLimit (job 1).key) .pre

def registering : Log := looked 1 ++ downloading 1

theorem registered :
    Ends (HookRecords.register context key []) registering (.ok (), [(key, renewed)]) := by
  have found : Ends (HookRecords.gitSubscription? key).run (looked 1) (.ok (some (revision 1))) :=
    .ask (.ask (.done _))
  have refreshed : Ends (HookRecord.refresh context key (revision 1) {}) (downloading 1 ++ [])
      (.ok (), renewed) :=
    ends_bind (downloaded 1) (.done _)
  unfold registering
  rw [← List.append_nil (downloading 1), ← List.append_nil (downloading 1 ++ [])]
  exact ends_bind found (ends_bind refreshed (.done _))

theorem renewed_latest : renewed.pre.latest = [job 1] := by rfl

theorem submitted_latest : submitted.pre.latest = [job 1] := by rfl

def asked : Log := [⟨.job (job 1).key, .ok (some finished)⟩]

theorem submits :
    Ends (HookRecords.submit context key .pre [(key, renewed)]) asked
      (.ok (), [(key, submitted)]) := by
  have found : Registry.find? key [(key, renewed)] = some renewed := if_pos rfl
  have placed : Registry.set key submitted [(key, renewed)] = [(key, submitted)] := if_pos rfl
  unfold HookRecords.submit
  rw [found, ← placed]
  simp only [HookRecord.side, renewed_latest, HookRecord.submitAll]
  exact .ask (.done _)

theorem completed :
    Ends (HookRecords.areCompleted key .pre [(key, submitted)]) asked (.ok true) := by
  have found : Registry.find? key [(key, submitted)] = some submitted := if_pos rfl
  unfold HookRecords.areCompleted
  rw [found]
  simp only [HookRecord.side, submitted_latest]
  exact .ask (.done _)

private theorem preHooksCompleted :
    Pass.Runs (Pass.preHooksCompleted context key) ⟨[], [(key, renewed)], []⟩
      (asked ++ (asked ++ [])) (.ok true) ⟨[], [(key, submitted)], []⟩ := by
  have there : HookRecords.hasHooks key .pre [(key, renewed)] = true := by rfl
  refine Pass.runs_get_bind_iff.mpr ?_
  rw [if_pos there]
  refine Pass.runs_bind_iff.mpr (.inr ⟨_, (), ⟨[], [(key, submitted)], []⟩, _, ?_, ?_, rfl⟩)
  · exact Pass.runs_onHooks_iff.mpr ⟨.ok (), _, submits, rfl, rfl⟩
  · exact Pass.runs_onHooks_iff.mpr
      ⟨.ok true, [(key, submitted)], ends_bind completed (.done _), rfl, rfl⟩

def loop : SyncLoop :=
  ⟨some 1, .ofSubscription context.settings (revision 1), .initial 0 0⟩

def delivered : Controller := ⟨[(key, loop)], [(key, submitted)], []⟩

def told : Log := [⟨.writeStatus key { hooks := some submitted.status }, .ok ()⟩]

def passing : Log := channelRead 1 ++ (registering ++ (asked ++ (asked ++ []) ++ told))

theorem present (generation : Int) :
    (revision generation).metadata.deletionTimestamp.isSome = false := rfl

theorem git : channel.isGit = true := rfl

theorem passed :
    Ends (Controller.pass context (revision 1) 0 {}) passing
      (.ok (.afterSeconds context.settings.resyncSeconds), delivered) := by
  have hooksFound : Pass.Runs (Pass.onHooks (HookRecords.register context key)) {} registering
      (.ok ()) ⟨[], [(key, renewed)], []⟩ :=
    Pass.runs_onHooks_iff.mpr ⟨.ok (), _, registered, rfl, rfl⟩
  have gated : Pass.Runs (Pass.gate context key) {} (registering ++ (asked ++ (asked ++ [])))
      (.ok true) ⟨[], [(key, submitted)], []⟩ :=
    Pass.runs_bind_iff.mpr (.inr ⟨_, (), _, _, hooksFound, preHooksCompleted, rfl⟩)
  have proceeds : Pass.Runs (Pass.proceed context (revision 1) 0) ⟨[], [(key, submitted)], []⟩ told
      (.ok (.afterSeconds context.settings.resyncSeconds)) delivered :=
    .ask (.done _)
  have delivers := Pass.reconcile_of_gate (present 1) git gated proceeds
  rw [List.append_assoc] at delivers
  exact delivers

/-! A tick that reads any generation. -/

theorem loop_item : loop.item = itemAfter none false := by decide +kernel

set_option maxRecDepth 4000 in
private theorem classified :
    Manifest.classify disk directory Manifest.hookDirectories = some (classesOf good) := by
  have walked : Manifest.classify disk directory Manifest.hookDirectories =
      some ((Manifest.classifyFile (directory ++ "/app.yaml") (Bytes.ofText good)).append {}) := by
    have named : Manifest.isManifestName "app.yaml" = true := by decide
    have reached : Manifest.classify disk directory Manifest.hookDirectories =
        some (Manifest.classifyChildren disk Manifest.hookDirectories directory
          [("app.yaml", .file (Bytes.ofText good)),
            ("prehook", .directory [("notify.yaml", .file (Bytes.ofText template))])]) := by rfl
    rw [reached]
    simp only [Manifest.classifyChildren, Manifest.classifyEntry, named, if_true]
    rfl
  rw [walked, classifyFile_configMap _ good_line good_kind]
  rfl

def draft (generation : Int) : Assembly.Draft :=
  ⟨directory, Assembly.gather context (revision generation) options (classesOf good) [] [], []⟩

private theorem draft_items (generation : Int) : (draft generation).assembly.items = [itemOf] := by
  have assembled : (draft generation).assembly =
      ((Assembly.ofTransformed [Manifest.transformText context.isNamespaced (revision generation)
        .file good]).append {}).append {} := rfl
  have transformed : Manifest.transformText context.isNamespaced (revision generation) .file good =
      .ok (.deploy itemOf) := by
    unfold Manifest.transformText
    rw [good_means]
    rfl
  rw [assembled, transformed]
  rfl

def exploring (generation : Int) : Log :=
  [⟨.subscription key, .ok (some (revision generation))⟩, ⟨.time, ⟨0, 0⟩⟩,
    ⟨.channel (revision generation).channelKey, .ok (some channel)⟩,
    ⟨.clone options options.primary, .ok checkout⟩]

private theorem drafts (generation : Int) :
    SyncItem.Drafts context .initial loop.item (exploring generation) (revision generation) options
      ⟨0, 6⟩ checkout (draft generation) := by
  rw [loop_item]
  have opens : SyncItem.Opens .initial (itemAfter none false) ((exploring generation).take 2)
      (revision generation) :=
    ⟨(exploring generation).take 1, [⟨.time, ⟨0, 0⟩⟩], rfl, .ask (.done _), .ask (.done _)⟩
  have decides : SyncItem.Decides .initial (itemAfter none false) ((exploring generation).take 3)
      (revision generation) options (.resync .everyTick) ⟨0, 6⟩ :=
    ⟨(exploring generation).take 2, channelRead generation, [], rfl, opens, .ask (.done _),
      .done _⟩
  have path : Ends (Assembly.resourcePath (revision generation) options.directory).run []
      (.ok directory) := .done _
  exact ⟨exploring generation, [], rfl,
    ⟨(exploring generation).take 3, (exploring generation).drop 3, .everyTick, rfl, decides,
      .ask (.done _)⟩, Assembly.draft_of_plain path classified rfl rfl⟩

def batch (generation : Int) : Batch :=
  Assembly.ofSubscription (revision generation) (draft generation).assembly.items

def result (generation : Int) : TickResult :=
  .ok (.applied (draft generation).assembly.items.length "c0ffee")

def status (generation : Int) : SubscriptionStatus :=
  (SubscriptionStatus.afterTick context.settings.messageLimit ⟨0, 0⟩ (result generation)).getD {}

def ticking (generation : Int) : Log :=
  exploring generation ++ [⟨.deploy (batch generation), .ok ()⟩] ++
    [⟨.time, ⟨0, 0⟩⟩, ⟨.writeStatus key (status generation), .ok ()⟩]

theorem ticked (generation : Int) :
    Ends (loop.item.run context .initial) (ticking generation)
      (result generation, itemAfter (some "c0ffee") true) := by
  have free : (draft generation).isWithheld loop.item.successful = false := by
    unfold Assembly.Draft.isWithheld
    rw [draft_items]
    rfl
  have ended := SyncItem.tick_of_drafts (drafts generation) free rfl
  rw [loop_item] at ended ⊢
  exact SyncItem.run_of_tick ended rfl

/-! What the outside answers. -/

theorem subscription_stored (generation : Int) :
    (outside generation).subscription? key = some (revision generation) := by
  change (if key = key then some (revision generation) else none) = _
  exact if_pos rfl

theorem answers_subscription (generation : Int) :
    (outside generation).Answers (.subscription key) (.ok (some (revision generation))) := by
  intro found same
  cases same
  exact (subscription_stored generation).symm

theorem answers_channel (generation : Int) (name : ObjectKey) :
    (outside generation).Answers (.channel name) (.ok (some channel)) := by
  intro found same
  cases same
  rfl

theorem answers_clone (generation : Int) (options : CloneOptions) (remote : Remote) :
    (outside generation).Answers (.clone options remote) (.ok checkout) := by
  intro found same
  cases same
  rfl

private theorem answers_job (generation : Int) :
    (outside generation).Answers (.job (job 1).key) (.ok (some finished)) := by
  intro found same
  cases same
  change _ = if (job 1).key = (job 1).key then some finished else none
  exact (if_pos rfl).symm

private theorem plays_passing : Plays (outside 1) passing (outside 1) :=
  .next (answers_channel 1 _) <| .next (answers_subscription 1) <| .next (answers_channel 1 _) <|
    .next (answers_channel 1 _) <| .next (answers_clone 1 _ _) <| .next (answers_job 1) <|
    .next (answers_job 1) <| .next trivial (.quiet (.refl _))

theorem plays_ticking (generation : Int) :
    Plays (outside generation) (ticking generation) (outside generation) :=
  .next (answers_subscription generation) <| .next trivial <|
    .next (answers_channel generation _) <| .next (answers_clone generation _ _) <|
    .next trivial <| .next trivial <| .next trivial (.quiet (.refl _))

private theorem plays_downloading (generation : Int) :
    Plays (outside generation) (downloading generation) (outside generation) :=
  .next (answers_channel generation _) <| .next (answers_clone generation _ _)
    (.quiet (.refl _))

/-- The loop of the first generation was started after the job had succeeded. -/
theorem delivered_run : Run context ⟨outside 1, {}, []⟩ ⟨outside 1, delivered, passing⟩ := by
  have stored : Asked (outside 1) (revision 1) :=
    ⟨revision 1, subscription_stored 1, rfl, ⟨1, 1, rfl, rfl, Int.le_refl 1⟩, fun _ => rfl⟩
  exact .step .start (.pass stored plays_passing passed)

private theorem edited_run : Run context ⟨outside 1, {}, []⟩ ⟨outside 2, delivered, passing⟩ := by
  refine .step delivered_run (.elapse ⟨?_, fun _ succeeded => succeeded⟩)
  intro name stored found
  change (if name = key then some (revision 1) else none) = some stored at found
  split at found
  · rename_i same
    cases found
    exact ⟨revision 2, if_pos same, rfl, ⟨1, 2, rfl, rfl, by decide⟩, fun _ => rfl⟩
  · cases found

theorem deployed (generation : Int) : ⟨.deploy (batch generation), .ok ()⟩ ∈ ticking generation :=
  List.mem_append_left _ (List.mem_append_right _ List.mem_cons_self)

/-- The first deployment comes after the job before it has succeeded. -/
theorem first_deployment_gated :
    Run context ⟨outside 1, {}, []⟩ ⟨outside 1, delivered, passing⟩ ∧
      Registry.find? key delivered.loops = some loop ∧
      Plays (outside 1) (ticking 1) (outside 1) ∧
      Ends (loop.item.run context .initial) (ticking 1)
        (result 1, itemAfter (some "c0ffee") true) ∧
      ⟨.deploy (batch 1), .ok ()⟩ ∈ ticking 1 ∧
      GateOpen context passing delivered.hooks (outside 1) key 1 := by
  have found : Registry.find? key delivered.loops = some loop := if_pos rfl
  refine ⟨delivered_run, found, plays_ticking 1, ticked 1, deployed 1, ?_⟩
  obtain ⟨started, generation, startedIs, numbered, _, gate⟩ :=
    deploys_gated delivered_run found (plays_ticking 1) (ticked 1) (deployed 1)
  cases startedIs
  cases numbered
  exact gate rfl

/-- A tick of a loop that was started before an edit deploys what was edited, although the job that the
templates of the new generation demand has not run. -/
theorem not_always_gated :
    ¬ ∀ (context : Context) (first now late : Outside) (controller : Controller) (key : ObjectKey)
      (loop : SyncLoop) (trigger : Trigger) (history log download : Log) (result : TickResult)
      (item : SyncItem) (batch : Batch) (reply : Except String Unit) (templates : HookTemplates)
      (clusters : List String),
      Run context ⟨first, {}, []⟩ ⟨now, controller, history⟩ →
      Registry.find? key controller.loops = some loop →
      Plays now log late →
      Ends (loop.item.run context trigger) log (result, item) →
      ⟨.deploy batch, reply⟩ ∈ log →
      Plays now download now →
      Ends (HookTemplates.download batch.subscription
        (HookRecord.templateDirectory context key)).run download (.ok templates) →
      ∀ template job, (template, job) ∈
        HookRecord.instances context batch.subscription clusters templates.pre →
        now.Succeeded job.key := by
  intro always
  have demanded : ("notify", job 2) ∈
      HookRecord.instances context (revision 2) [] [notify] := List.mem_cons_self
  have succeeded := always context (outside 1) (outside 2) (outside 2) delivered key loop .initial
    passing (ticking 2) (downloading 2) (result 2) (itemAfter (some "c0ffee") true) (batch 2)
    (.ok ()) ⟨[notify], []⟩ [] edited_run (if_pos rfl) (plays_ticking 2) (ticked 2) (deployed 2)
    (plays_downloading 2) (downloaded 2) "notify" (job 2) demanded
  obtain ⟨found, there, _⟩ := succeeded
  have other : (job 2).key ≠ (job 1).key := by decide
  have missing : (outside 2).job? (job 2).key = none := by
    change (if (job 2).key = (job 1).key then some finished else none) = none
    exact if_neg other
  cases missing.symm.trans there

end EditedLater

end GitDelivery.Delivery
