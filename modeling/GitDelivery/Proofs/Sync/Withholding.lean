import GitDelivery.Proofs.Manifest.Document
import GitDelivery.Proofs.Sync.Tick
import GitDelivery.Proofs.Yaml.Document

set_option autoImplicit false

/-! Ticks that find nothing to deploy. What was deployed before is left alone by the first of them, but
an item that was successful before hands the empty list over, whatever went wrong with the manifests. -/

namespace GitDelivery.SyncItem

open Dialogue Work

section

variable {context : Context} {subscription : Subscription} {ticks : List Tick}
  {item after : SyncItem} {trigger : Trigger} {result : TickResult} {drafting rest : Log}
  {now : Subscription} {options : CloneOptions} {drift : DriftWindow} {checkout : Checkout}
  {draft : Assembly.Draft}

theorem deploys_drafted_iff
    (drafts : Drafts context trigger item drafting now options drift checkout draft)
    (ended : Ends (item.tick context trigger) (drafting ++ rest) (result, after)) :
    Deploys (drafting ++ rest) ↔ draft.isWithheld item.successful = false := by
  obtain ⟨between, synced, _⟩ := tick_ends_iff.mp ended
  obtain ⟨deployed, deployEnded, _⟩ := (sync_after_drafts_iff drafts).mp synced
  rw [deploys_append_iff, Assembly.Draft.deploys_iff deployEnded]
  exact or_iff_right drafts.not_deploys

private theorem withheld_result
    (drafts : Drafts context trigger item drafting now options drift checkout draft)
    (ended : Ends (item.tick context trigger) (drafting ++ rest) (result, after))
    (withheld : draft.isWithheld item.successful = true) :
    rest = [] ∧ result = .error (.nothingToDeploy
      (Assembly.joinCut context (draft.reasons options.directory))) := by
  obtain ⟨between, synced, _⟩ := tick_ends_iff.mp ended
  obtain ⟨deployed, deployEnded, concluded⟩ := (sync_after_drafts_iff drafts).mp synced
  have shape := Assembly.Draft.deploy_ends_iff.mp deployEnded
  rw [if_pos withheld] at shape
  obtain ⟨rfl, rfl⟩ := shape
  exact ⟨rfl, (Prod.mk.inj concluded).1⟩

/-- A tick of which every manifest failed hands the empty list over exactly if the last tick that
decided anything deployed something, and the charts could be indexed. Otherwise it deploys nothing,
and says what went wrong. -/
theorem deploys_nothing_iff
    (run : Ticks context (.ofSubscription context.settings subscription) ticks item)
    (ended : Ends (item.tick context trigger) (drafting ++ rest) (result, after))
    (drafts : Drafts context trigger item drafting now options drift checkout draft)
    (nothing : draft.assembly.items = []) (failed : draft.assembly.errors ≠ []) :
    (Deploys (drafting ++ rest) ↔
      (∃ count commit, standing? ticks = some (.ok (.applied count commit))) ∧
        draft.chartErrors = []) ∧
    (¬ Deploys (drafting ++ rest) → result = .error (.nothingToDeploy
      (Assembly.joinCut context (draft.chartErrors ++ draft.assembly.errors)))) := by
  have handed := deploys_drafted_iff drafts ended
  have reasons : draft.reasons options.directory = draft.chartErrors ++ draft.assembly.errors := by
    unfold Assembly.Draft.reasons
    refine if_neg ?_
    rw [List.isEmpty_iff, List.append_eq_nil_iff]
    exact fun both => failed both.2
  constructor
  · rw [handed, ← run.successful_iff, ← Bool.not_eq_true, Assembly.Draft.isWithheld_iff]
    simp only [nothing, true_and, Classical.not_not]
  · intro kept
    have withheld : draft.isWithheld item.successful = true := by
      rw [handed, Bool.not_eq_false] at kept
      exact kept
    rw [← reasons]
    exact (withheld_result drafts ended withheld).2

end

/-! ### A manifest that fails after one that was deployed -/

namespace FailedManifest

def good : String := "\x7b'apiVersion': 'v1', 'kind': 'ConfigMap'\x7d"

def bad : String := "\x7b'apiVersion': 'v1', 'kind': 'ConfigMap', 'metadata': ''\x7d"

def subscription : Subscription :=
  { metadata :=
      { name := some "web"
        space := some "apps"
        annotations := some [(Vocabulary.reconcileRate, "high")] }
    spec := ⟨"repo", none, none, none, [], none, none, none, [], []⟩
    status := none }

def channel : Channel :=
  { metadata := { name := some "repo", space := some "apps" }
    spec := ⟨"Git", "https://git.example.com/org/repo.git", none, none, false⟩ }

def context : Context :=
  { settings := { Settings.standard with gitRoot := "git" }, isNamespaced := fun _ => true }

def directory : String := "git/apps/web/4af913d9b68cb32352e93ee75a3870e8"

def options : CloneOptions :=
  { revision := .standard
    depth := 1
    directory := directory
    primary := ⟨"https://git.example.com/org/repo.git", {}⟩
    secondary := none }

def treeOf (content : Bytes) : FileTree :=
  .directory [("git", .directory [("apps", .directory [("web", .directory
    [("4af913d9b68cb32352e93ee75a3870e8", .directory [("app.yaml", .file content)])])])])]

def workingCopy (entries : List (String × FileTree)) : FileTree :=
  .directory [("git", .directory [("apps", .directory [("web", .directory
    [("4af913d9b68cb32352e93ee75a3870e8", .directory entries)])])])]

def itemAfter (commit : Option String) (successful : Bool) : SyncItem :=
  ⟨⟨"apps", "web"⟩, .high, directory, commit, ⟨0, 6⟩, successful⟩

theorem good_means : Yaml.parse good = .ok (.mapping [(.text "apiVersion", .text "v1"),
    (.text "kind", .text "ConfigMap")]) := by
  have lexed : Yaml.tokens good = .ok (Yaml.braced [("apiVersion", Yaml.quoted "v1"),
      ("kind", Yaml.quoted "ConfigMap")]) := by
    decide +kernel
  unfold Yaml.parse Yaml.Document.ofText
  rw [lexed]
  rfl

theorem bad_means : Yaml.parse bad = .ok (.mapping [(.text "apiVersion", .text "v1"),
    (.text "kind", .text "ConfigMap"), (.text "metadata", .text "")]) := by
  have lexed : Yaml.tokens bad = .ok (Yaml.braced [("apiVersion", Yaml.quoted "v1"),
      ("kind", Yaml.quoted "ConfigMap"), ("metadata", Yaml.quoted "")]) := by
    decide +kernel
  unfold Yaml.parse Yaml.Document.ofText
  rw [lexed]
  rfl

private theorem fresh_item : ofSubscription context.settings subscription = itemAfter none false := by
  decide +kernel

set_option maxRecDepth 4000 in
private theorem classify_treeOf (content : Bytes) :
    Manifest.classify (treeOf content) directory Manifest.hookDirectories =
      some ((Manifest.classifyFile (directory ++ "/app.yaml") content).append {}) := by
  have walked : Manifest.classify (treeOf content) directory Manifest.hookDirectories =
      some (Manifest.classifyChildren (treeOf content) Manifest.hookDirectories directory
        [("app.yaml", .file content)]) := by rfl
  have named : Manifest.isManifestName "app.yaml" = true := by decide
  rw [walked]
  simp only [Manifest.classifyChildren, Manifest.classifyEntry, named, if_true]
  rfl

def classesOf (manifest : String) : Manifest.Classification :=
  { other := [⟨directory ++ "/app.yaml", 0, manifest⟩] }

def draftOf (manifest : String) : Assembly.Draft :=
  ⟨directory, Assembly.gather context subscription options (classesOf manifest) [] [], []⟩

theorem classifyFile_configMap {manifest : String} (path : String)
    (line : Manifest.OneLine manifest) (kind : Manifest.declaredKind? manifest = some "ConfigMap") :
    Manifest.classifyFile path (Bytes.ofText manifest) = { other := [⟨path, 0, manifest⟩] } := by
  unfold Manifest.classifyFile
  rw [line.text?_ofText]
  simp only [line.splitDocuments_eq, Manifest.classifyDocuments, kind]
  rfl

theorem drafted {manifest : String} (line : Manifest.OneLine manifest)
    (kind : Manifest.declaredKind? manifest = some "ConfigMap") :
    Ends (Assembly.draft context subscription options (treeOf (Bytes.ofText manifest))).run []
      (.ok (draftOf manifest)) := by
  have classified : Manifest.classify (treeOf (Bytes.ofText manifest)) directory
      Manifest.hookDirectories = some (classesOf manifest) := by
    rw [classify_treeOf, classifyFile_configMap _ line kind]
    rfl
  have path : Ends (Assembly.resourcePath subscription directory).run [] (.ok directory) := .done _
  exact Assembly.draft_of_plain path classified rfl rfl

def itemOf : Deployable :=
  { kind := ⟨"", "v1", "ConfigMap"⟩
    object :=
      { declared := some ("v1", "ConfigMap")
        metadata :=
          { annotations := some [(Vocabulary.reconcileOption, "merge")]
            labels := some [(Vocabulary.partOfLabel, "web")] }
        others := [] } }

private theorem good_transform : Manifest.transformText context.isNamespaced subscription .file good =
    .ok (.deploy itemOf) := by
  unfold Manifest.transformText
  rw [good_means]
  rfl

theorem bad_transform : Manifest.transformText context.isNamespaced subscription .file bad =
    .error (.invalidObject "ConfigMap" "" (.expected "an object")) := by
  unfold Manifest.transformText
  rw [bad_means]
  rfl

theorem assembled (manifest : String) : (draftOf manifest).assembly =
    ((Assembly.ofTransformed [Manifest.transformText context.isNamespaced subscription .file
      manifest]).append {}).append {} :=
  rfl

theorem good_assembled : (draftOf good).assembly.items = [itemOf] := by
  rw [assembled, good_transform]
  rfl

theorem bad_assembled : (draftOf bad).assembly.items = [] := by
  rw [assembled, bad_transform]
  rfl

theorem bad_failed : (draftOf bad).assembly.errors ≠ [] := by
  rw [assembled, bad_transform]
  exact List.cons_ne_nil _ _

def checkoutOf (manifest : String) : Checkout := ⟨"c0ffee", treeOf (Bytes.ofText manifest)⟩

def exploring (manifest : String) : Log :=
  [⟨.subscription ⟨"apps", "web"⟩, .ok (some subscription)⟩, ⟨.time, ⟨0, 0⟩⟩,
    ⟨.channel ⟨"apps", "repo"⟩, .ok (some channel)⟩,
    ⟨.clone options options.primary, .ok (checkoutOf manifest)⟩]

def filtered (filter : Option PackageFilter) : Subscription :=
  { subscription with spec := { subscription.spec with filter := filter } }

def reaching (filter : Option PackageFilter) (checkout : Checkout) : Log :=
  [⟨.subscription ⟨"apps", "web"⟩, .ok (some (filtered filter))⟩, ⟨.time, ⟨0, 0⟩⟩,
    ⟨.channel ⟨"apps", "repo"⟩, .ok (some channel)⟩,
    ⟨.clone options options.primary, .ok checkout⟩]

theorem fetches (commit : Option String) (successful : Bool) (filter : Option PackageFilter)
    (checkout : Checkout) :
    Fetches .periodic (itemAfter commit successful) (reaching filter checkout) (filtered filter)
      options ⟨0, 6⟩ checkout := by
  have opens : Opens .periodic (itemAfter commit successful) ((reaching filter checkout).take 2)
      (filtered filter) :=
    ⟨(reaching filter checkout).take 1, [⟨.time, ⟨0, 0⟩⟩], rfl, .ask (.done _), .ask (.done _)⟩
  have resolved : Ends (cloneOptions (filtered filter) directory).run
      [⟨.channel ⟨"apps", "repo"⟩, .ok (some channel)⟩] (.ok options) := by
    have same : cloneOptions (filtered filter) directory = cloneOptions subscription directory := rfl
    rw [same]
    exact .ask (.done _)
  have decides : Decides .periodic (itemAfter commit successful) ((reaching filter checkout).take 3)
      (filtered filter) options (.resync .everyTick) ⟨0, 6⟩ :=
    ⟨(reaching filter checkout).take 2, [⟨.channel ⟨"apps", "repo"⟩, .ok (some channel)⟩], [], rfl,
      opens, resolved, .done _⟩
  exact ⟨(reaching filter checkout).take 3, (reaching filter checkout).drop 3, .everyTick, rfl,
    decides, .ask (.done _)⟩

theorem drafts {manifest : String} (commit : Option String) (successful : Bool)
    (draft : Ends (Assembly.draft context subscription options
      (treeOf (Bytes.ofText manifest))).run [] (.ok (draftOf manifest))) :
    Drafts context .periodic (itemAfter commit successful) (exploring manifest) subscription
      options ⟨0, 6⟩ (checkoutOf manifest) (draftOf manifest) :=
  ⟨exploring manifest, [], rfl, fetches commit successful none (checkoutOf manifest), draft⟩

def handedOver (manifest : String) : Log :=
  exploring manifest ++
    [⟨.deploy (Assembly.ofSubscription subscription (draftOf manifest).assembly.items), .ok ()⟩]

theorem tick_ends {manifest : String} {commit : Option String} {successful : Bool}
    (draft : Ends (Assembly.draft context subscription options
      (treeOf (Bytes.ofText manifest))).run [] (.ok (draftOf manifest)))
    (free : (draftOf manifest).isWithheld successful = false) :
    Ends ((itemAfter commit successful).tick context .periodic) (handedOver manifest)
      (.ok (.applied (draftOf manifest).assembly.items.length "c0ffee"),
        itemAfter (some "c0ffee") true) :=
  tick_of_drafts (drafts commit successful draft) free rfl

theorem good_line : Manifest.OneLine good := by decide +kernel

theorem good_kind : Manifest.declaredKind? good = some "ConfigMap" := by
  unfold Manifest.declaredKind?
  rw [good_means]
  rfl

theorem good_drafted : Ends (Assembly.draft context subscription options
    (treeOf (Bytes.ofText good))).run [] (.ok (draftOf good)) := by
  exact drafted good_line good_kind

theorem bad_drafted : Ends (Assembly.draft context subscription options
    (treeOf (Bytes.ofText bad))).run [] (.ok (draftOf bad)) := by
  have line : Manifest.OneLine bad := by decide +kernel
  have kind : Manifest.declaredKind? bad = some "ConfigMap" := by
    unfold Manifest.declaredKind?
    rw [bad_means]
    rfl
  exact drafted line kind

def firstTick : Tick :=
  ⟨.periodic, handedOver good, .ok (.applied (draftOf good).assembly.items.length "c0ffee")⟩

theorem ran : Ticks context (.ofSubscription context.settings subscription) [firstTick]
    (itemAfter (some "c0ffee") true) := by
  rw [fresh_item]
  have free : (draftOf good).isWithheld false = false := by
    unfold Assembly.Draft.isWithheld
    rw [good_assembled]
    rfl
  exact .cons (tick_ends good_drafted free) (.nil _)

theorem emptied : Ends ((itemAfter (some "c0ffee") true).tick context .periodic) (handedOver bad)
    (.ok (.applied (draftOf bad).assembly.items.length "c0ffee"),
      itemAfter (some "c0ffee") true) := by
  refine tick_ends bad_drafted ?_
  unfold Assembly.Draft.isWithheld
  rw [bad_assembled]
  rfl

/-- After the good manifest was deployed, the one that fails leads to an empty list. -/
theorem empty_list_deployed :
    Ticks context (.ofSubscription context.settings subscription) [firstTick]
        (itemAfter (some "c0ffee") true) ∧
      Ends ((itemAfter (some "c0ffee") true).tick context .periodic) (handedOver bad)
        (.ok (.applied (draftOf bad).assembly.items.length "c0ffee"),
          itemAfter (some "c0ffee") true) ∧
      Drafts context .periodic (itemAfter (some "c0ffee") true) (exploring bad) subscription
        options ⟨0, 6⟩ (checkoutOf bad) (draftOf bad) ∧
      (draftOf bad).assembly.items = [] ∧ (draftOf bad).assembly.errors ≠ [] ∧
      Deploys (handedOver bad) := by
  refine ⟨ran, emptied, drafts _ _ bad_drafted, bad_assembled, bad_failed, ?_⟩
  have exactly := deploys_nothing_iff ran emptied (drafts _ _ bad_drafted) bad_assembled bad_failed
  exact exactly.1.mpr ⟨⟨_, _, rfl⟩, rfl⟩

/-- An empty list is not always withheld when every manifest failed. -/
theorem not_always_withheld :
    ¬ ∀ (context : Context) (subscription now : Subscription) (ticks : List Tick)
      (item after : SyncItem) (trigger : Trigger) (drafting rest : Log) (result : TickResult)
      (options : CloneOptions) (drift : DriftWindow) (checkout : Checkout)
      (draft : Assembly.Draft),
      Ticks context (.ofSubscription context.settings subscription) ticks item →
      Ends (item.tick context trigger) (drafting ++ rest) (result, after) →
      Drafts context trigger item drafting now options drift checkout draft →
      draft.assembly.items = [] → draft.assembly.errors ≠ [] → ¬ Deploys (drafting ++ rest) := by
  intro never
  refine never context subscription subscription [firstTick] (itemAfter (some "c0ffee") true) _
    .periodic (exploring bad) _ _ options ⟨0, 6⟩ (checkoutOf bad) (draftOf bad) ran emptied
    (drafts _ _ bad_drafted) bad_assembled bad_failed ?_
  exact ⟨_, List.mem_append_right (exploring bad) (List.mem_singleton.mpr rfl), trivial⟩

end FailedManifest

end GitDelivery.SyncItem
