import GitDelivery.Proofs.Manifest.ChartIndex
import GitDelivery.Proofs.Manifest.Classification
import GitDelivery.Proofs.Sync.Rendering
import GitDelivery.Proofs.Sync.Turns

set_option autoImplicit false

/-! What a tick hands over. It is handed over once, as a whole, and every source of the checkout has its
place in it, whatever was skipped or failed in the others. -/

namespace GitDelivery

open Dialogue Work
open Manifest (Chart Classification)

def deployables (results : List (Except Manifest.TransformError Manifest.Transformed)) :
    List Deployable :=
  results.filterMap fun result =>
    match result with
    | .ok (.deploy item) => some item
    | _ => none

namespace Assembly

private theorem ofTransformed_items
    (results : List (Except Manifest.TransformError Manifest.Transformed)) :
    (ofTransformed results).items = deployables results := by
  induction results with
  | nil => rfl
  | cons result rest ih =>
      cases result with
      | error error => exact ih
      | ok transformed =>
          cases transformed with
          | deploy item => exact congrArg (item :: ·) ih
          | skip reason => exact ih

/-- What becomes of the documents of manifest files, of rendered documents and of charts, in this
order. -/
def outcomes (context : Context) (subscription : Subscription) (options : CloneOptions)
    (classes : Classification) (rendered : List String) (charts : List Chart) : List Deployable :=
  deployables ((classes.first ++ classes.access ++ classes.other).map fun source =>
      Manifest.transformText context.isNamespaced subscription .file source.content) ++
    deployables (rendered.map
      (Manifest.transformText context.isNamespaced subscription .kustomize)) ++
    deployables (charts.map fun chart =>
      Manifest.transform context.isNamespaced subscription .helm
        (chart.release subscription options))

theorem gather_items (context : Context) (subscription : Subscription) (options : CloneOptions)
    (classes : Classification) (rendered : List String) (charts : List Chart) :
    (gather context subscription options classes rendered charts).items =
      outcomes context subscription options classes rendered charts := by
  unfold gather append ofDocuments ofCharts fileDocuments outcomes
  rw [ofTransformed_items, ofTransformed_items, ofTransformed_items, List.map_map]
  rfl

private theorem releases_chartsOf (subscription : Subscription) (tree : FileTree) (root : String)
    (directories : List String) :
    Manifest.Releases subscription tree root directories
      (chartsOf (Manifest.ChartIndex.ofDirectories subscription tree root directories)).1 := by
  cases indexed : Manifest.ChartIndex.ofDirectories subscription tree root directories with
  | error error =>
      obtain ⟨directory, member, failed⟩ := Manifest.ChartIndex.addAll_error indexed
      exact .failed member failed
  | ok index =>
      obtain ⟨found, described, holds⟩ :=
        Manifest.ChartIndex.addAll_ok Manifest.ChartIndex.Holds.empty indexed
      exact .indexed described holds.lastCharts

end Assembly

namespace SyncItem

/-- A tick that deploys something deploys one list, for the subscription that it has read and with the
rights that this grants. The list comes from the whole checkout, with one release for each chart name,
and if all went well its length is reported. -/
theorem hands_over {context : Context} {item next : SyncItem} {tick : Tick}
    (made : Makes context item tick next) (deploys : Deploys tick.log) :
    ∃ (fetching resolving rendering reporting : Log) (subscription : Subscription)
      (options : CloneOptions) (drift : DriftWindow) (checkout : Checkout) (path : String)
      (classes : Classification) (sources : List Manifest.Source) (last : FileTree)
      (batches : List (List String)) (charts : List Chart) (batch : Batch)
      (reply : Except String Unit),
      Fetches tick.trigger item fetching subscription options drift checkout ∧
      Ends (Assembly.resourcePath subscription options.directory).run resolving (.ok path) ∧
      Manifest.classify checkout.tree path Manifest.hookDirectories = some classes ∧
      classes.Sorts sources ∧
      Assembly.Renders context subscription options.directory checkout.tree
        classes.kustomizations rendering last batches ∧
      Manifest.Releases subscription checkout.tree options.directory classes.charts charts ∧
      batch =
        { subscription := subscription
          items := Assembly.outcomes context subscription options classes batches.flatten charts
          allow := subscription.spec.allow
          deny := subscription.spec.deny
          clusterAdmin := subscription.isClusterAdmin
          dryRun := false } ∧
      tick.log = fetching ++ (resolving ++ rendering) ++ ⟨.deploy batch, reply⟩ :: reporting ∧
      carried deployment? tick.log = [batch] ∧
      ∀ count commit, tick.result = .ok (.applied count commit) →
        count = batch.items.length ∧ commit = checkout.commit := by
  -- A status that is written afterwards deploys nothing, so that all is deployed by the tick itself.
  obtain ⟨ticking, reporting, whole, ticked, silent⟩ : ∃ ticking reporting,
      tick.log = ticking ++ reporting ∧
        Ends (item.tick context tick.trigger) ticking (tick.result, next) ∧ ¬ Deploys reporting := by
    rcases made with ticked | ran
    · refine ⟨tick.log, [], (List.append_nil _).symm, ticked, ?_⟩
      rintro ⟨entry, member, _⟩
      cases member
    · exact run_parts ran
  rw [whole, deploys_append_iff] at deploys
  obtain ⟨between, synced, _⟩ := tick_ends_iff.mp ticked
  obtain ⟨_, subscription, options, drift, checkout, draft, reply, drafts, rfl, counted⟩ :=
    (sync_course synced).of_deploys (deploys.resolve_right silent)
  have before := drafts.not_deploys
  obtain ⟨fetching, _, rfl, fetches, drafted⟩ := drafts
  obtain ⟨resolving, rendering, path, classes, last, batches, rfl, resolved, classified, renders,
    rfl⟩ := Assembly.draft_ok drafted
  obtain ⟨sources, sorted⟩ := Manifest.classify_sorts _ _ _ classified
  refine ⟨fetching, resolving, rendering, reporting, subscription, options, drift, checkout, path,
    classes, sources, last, batches, _, _, reply, fetches, resolved, classified, sorted, renders,
    Assembly.releases_chartsOf subscription checkout.tree options.directory classes.charts, rfl,
    ?_, ?_, ?_⟩
  · rw [whole, List.append_assoc, ← Assembly.gather_items]
    rfl
  · rw [whole, carried_append, carried_append, carried_deployments_eq_nil before,
      carried_deployments_eq_nil silent, ← Assembly.gather_items]
    rfl
  · intro count commit applied
    rw [← Assembly.gather_items]
    exact counted count commit applied

/-! ### A chart that is there twice, of which the subscription wants the first -/

namespace FilteredChart

open FailedManifest (context options itemAfter workingCopy filtered reaching)

def root : String := FailedManifest.directory

def subscription : Subscription := filtered (some ⟨none, [], some "1.0.0", none⟩)

def chartDirectory (content : String) : FileTree :=
  .directory [("Chart.yaml", .file (Bytes.ofText content))]

def tree : FileTree :=
  workingCopy [("a", chartDirectory "\x7b'name': 'redis', 'version': '1.0.0'\x7d"),
    ("b", chartDirectory "\x7b'name': 'redis', 'version': '2.0.0'\x7d")]

def classes : Classification := { charts := [root ++ "/a", root ++ "/b"] }

def earlier : Chart := ⟨"redis", "1.0.0", "a"⟩

def later : Chart := ⟨"redis", "2.0.0", "b"⟩

set_option maxRecDepth 4000 in
theorem classified : Manifest.classify tree root Manifest.hookDirectories = some classes := by
  decide +kernel

theorem earlier_described : Manifest.Describes tree root (root ++ "/a") earlier := by
  constructor
  · decide +kernel
  · decide +kernel

theorem later_described : Manifest.Describes tree root (root ++ "/b") later := by
  constructor
  · decide +kernel
  · decide +kernel

private theorem indexed : Manifest.ChartIndex.ofDirectories subscription tree root classes.charts =
    .ok [("redis", [earlier])] := by
  unfold Manifest.ChartIndex.ofDirectories classes
  simp only [Manifest.ChartIndex.addAll, earlier_described.1, later_described.1]
  decide +kernel

theorem resolved : Ends (Assembly.resourcePath subscription options.directory).run [] (.ok root) :=
  .done _

def draft : Assembly.Draft :=
  ⟨root, Assembly.gather context subscription options classes [] [earlier], []⟩

private theorem drafted :
    Ends (Assembly.draft context subscription options tree).run [] (.ok draft) := by
  refine (Assembly.draft_after_classify_iff resolved classified).mpr ⟨[], .ok [], [], rfl, ?_, ?_⟩
  · exact ends_run_pure_iff.mpr ⟨rfl, rfl⟩
  · have index : Manifest.ChartIndex.ofDirectories subscription tree options.directory
        classes.charts = .ok [("redis", [earlier])] := indexed
    rw [index]
    exact ⟨rfl, rfl⟩

def checkout : Checkout := ⟨"c0ffee", tree⟩

def exploring : Log := reaching subscription.spec.filter checkout

theorem fetches : Fetches .periodic (itemAfter none false) exploring subscription options ⟨0, 6⟩
    checkout :=
  FailedManifest.fetches none false _ checkout

def itemsOf (chart : Chart) : List Deployable :=
  Assembly.outcomes context subscription options classes [] [chart]

def versions (items : List Deployable) : List (Option String) :=
  items.map fun item => (Table.get? "repo" item.object.others).bind (Json.textAt? "version")

private theorem items_differ : itemsOf earlier ≠ itemsOf later := by
  intro same
  have versionsSame : versions (itemsOf earlier) = versions (itemsOf later) := by rw [same]
  have different : versions (itemsOf earlier) ≠ versions (itemsOf later) := by decide +kernel
  exact different versionsSame

def tick : Tick :=
  ⟨.periodic, exploring ++
      [⟨.deploy (Assembly.ofSubscription subscription (itemsOf earlier)), .ok ()⟩],
    .ok (.applied (itemsOf earlier).length "c0ffee")⟩

theorem made : Makes context (itemAfter none false) tick (itemAfter (some "c0ffee") true) := by
  have drafts : Drafts context .periodic (itemAfter none false) exploring subscription options
      ⟨0, 6⟩ checkout draft := ⟨exploring, [], rfl, fetches, drafted⟩
  have free : draft.isWithheld false = false := by decide +kernel
  have ticked := tick_of_drafts drafts free rfl
  have items : draft.assembly.items = itemsOf earlier := Assembly.gather_items _ _ _ _ _ _
  rw [items] at ticked
  exact .inl ticked

/-- The one list of a tick holds one release. -/
theorem hands_over_release :
    Makes context (itemAfter none false) tick (itemAfter (some "c0ffee") true) ∧
      Deploys tick.log ∧
      ∃ batch, carried deployment? tick.log = [batch] ∧ batch.dryRun = false ∧
        ∀ count commit, tick.result = .ok (.applied count commit) → count = batch.items.length := by
  have deploys : Deploys tick.log := ⟨_, List.mem_append_right _ List.mem_cons_self, trivial⟩
  obtain ⟨_, _, _, _, _, _, _, _, _, _, _, _, _, _, batch, _, _, _, _, _, _, _, rfl, _, once,
    counted⟩ := hands_over made deploys
  exact ⟨made, deploys, _, once, rfl, fun count commit applied => (counted count commit applied).1⟩

/-- The chart that is found last is not always released: the subscription may not want it. -/
theorem not_always_last_chart :
    ¬ ∀ (context : Context) (item next : SyncItem) (tick : Tick)
      (fetching resolving rendering reporting : Log) (subscription : Subscription)
      (options : CloneOptions) (drift : DriftWindow) (checkout : Checkout) (path : String)
      (classes : Classification) (last : FileTree) (batches : List (List String))
      (found charts : List Chart) (batch : Batch) (reply : Except String Unit),
      Makes context item tick next →
      Fetches tick.trigger item fetching subscription options drift checkout →
      Ends (Assembly.resourcePath subscription options.directory).run resolving (.ok path) →
      Manifest.classify checkout.tree path Manifest.hookDirectories = some classes →
      Assembly.Renders context subscription options.directory checkout.tree
        classes.kustomizations rendering last batches →
      List.Forall₂ (Manifest.Describes checkout.tree options.directory) classes.charts found →
      Manifest.LastOfEach found charts →
      tick.log = fetching ++ (resolving ++ rendering) ++ ⟨.deploy batch, reply⟩ :: reporting →
      batch.items =
        Assembly.outcomes context subscription options classes batches.flatten charts := by
  intro always
  have last : Manifest.LastOfEach [earlier, later] [later] := by
    constructor
    · exact List.pairwise_singleton _ _
    · intro chart
      by_cases same : "redis" = chart.name
      · simp [earlier, later, ← same, eq_comm]
      · have other : ¬ chart = ⟨"redis", "2.0.0", "b"⟩ := by
          rintro rfl
          exact same rfl
        simp [earlier, later, same, other]
  have same := always context (itemAfter none false) (itemAfter (some "c0ffee") true) tick exploring
    [] [] [] subscription options ⟨0, 6⟩ checkout root classes tree [] [earlier, later] [later]
    (Assembly.ofSubscription subscription (itemsOf earlier)) (.ok ()) made fetches resolved
    classified (.nil tree) (.cons earlier_described (.cons later_described .nil)) last rfl
  exact items_differ same

end FilteredChart

end SyncItem

end GitDelivery
