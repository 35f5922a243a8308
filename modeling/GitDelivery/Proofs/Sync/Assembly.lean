import GitDelivery.Proofs.Work
import GitDelivery.Sync.Assembly

set_option autoImplicit false

/-! What is asked while a checkout is assembled, and when what was assembled is deployed. -/

namespace GitDelivery.Assembly

open Dialogue Work

variable {context : Context} {subscription : Subscription} {options : CloneOptions}

def Gathers : Request → Prop
  | .configMap _ | .build _ _ => True
  | _ => False

/-- Until everything is assembled, a failure among the kustomizations may be reported, too. -/
def Prepares : Request → Prop
  | .configMap _ | .build _ _ | .reportOverall _ _ _ => True
  | _ => False

private theorem Gathers.prepares (request : Request) (gathers : Gathers request) :
    Prepares request := by
  cases request <;> trivial

theorem only_resourcePath (root : String) :
    Only Gathers (resourcePath subscription root).run := by
  refine only_run_bind (only_run_lift ?_) (fun _ => only_known _)
  unfold filterConfig
  split
  · exact only_pure none
  · refine only_bind (only_ask trivial) ?_
    intro reply
    cases reply with
    | ok configMap => exact only_pure _
    | error reason => exact only_pure _

theorem only_render (root : String) (tree : FileTree) (directories : List String) :
    Only Gathers (render context subscription root tree directories).run := by
  induction directories generalizing tree with
  | nil => exact only_run_pure _
  | cons directory rest ih =>
      refine only_run_bind (only_known _) ?_
      intro overridden
      refine only_run_bind (only_run_lift (only_ask trivial)) ?_
      intro build
      refine only_run_bind (only_known _) ?_
      intro documents
      refine only_run_bind (ih _) ?_
      intro others
      exact only_run_pure _

private theorem only_abandon (failure : Manifest.Kustomization.Failure) (others : List String) :
    Only Prepares (abandon context subscription failure others) :=
  only_bind (only_ask trivial) fun _ => only_pure _

theorem only_draft (tree : FileTree) :
    Only Prepares (draft context subscription options tree).run := by
  unfold draft
  refine only_run_bind ((only_resourcePath _).weaken Gathers.prepares) ?_
  intro path
  split
  · refine only_run_bind (only_run_lift ((only_render _ _ _).weaken Gathers.prepares)) ?_
    intro rendered
    cases rendered with
    | ok documents => exact only_run_pure _
    | error failure =>
        refine only_run_bind (only_run_lift (only_abandon failure _)) ?_
        intro error
        exact only_run_throw error
  · exact only_run_throw _

theorem not_deploys_of_draft {tree : FileTree} {log : Log} {result : Except SyncError Draft}
    (ended : Ends (draft context subscription options tree).run log result) : ¬ Deploys log := by
  refine not_deploys_of_only ((only_draft tree).weaken ?_) ended
  intro request prepares deployment
  cases request <;> first | exact deployment | exact prepares

private theorem failsFor_resourcePath (root : String) :
    FailsFor (fun error : SyncError => error.isNotFound = false) (resourcePath subscription root) := by
  refine failsFor_bind (failsFor_lift _) ?_
  intro before configMap _
  refine failsFor_known ?_
  intro error failed
  cases joined : FilePath.joinWithin root
      ((PathSource.first? subscription configMap PathSource.forResources).map Prod.snd) with
  | ok path =>
      rw [joined] at failed
      cases failed
  | error reason =>
      rw [joined] at failed
      cases failed
      rfl

/-- What is missing in a checkout is no missing object of the cluster. -/
theorem failsFor_draft (tree : FileTree) :
    FailsFor (fun error : SyncError => error.isNotFound = false)
      (draft context subscription options tree) := by
  unfold draft
  refine failsFor_bind (failsFor_resourcePath _) ?_
  intro before path _
  split
  · refine failsFor_bind (failsFor_lift _) ?_
    intro before rendered _
    cases rendered with
    | ok documents => exact failsFor_pure _
    | error failure =>
        refine failsFor_bind (failsFor_lift _) ?_
        intro before error abandoned
        refine failsFor_throw ?_
        obtain ⟨given, ended, same⟩ := ends_run_lift_iff.mp abandoned
        cases same
        obtain ⟨_, _, _, _, last, _⟩ := ends_bind_iff.mp ended
        rw [(ends_pure_iff.mp last).2]
        rfl
  · exact failsFor_throw rfl

/-- Plain manifests are assembled without asking anything. -/
theorem draft_of_plain {tree : FileTree} {path : String} {classes : Manifest.Classification}
    (resolved : Ends (resourcePath subscription options.directory).run [] (.ok path))
    (classified : Manifest.classify tree path Manifest.hookDirectories = some classes)
    (charts : classes.charts = []) (kustomizations : classes.kustomizations = []) :
    Ends (draft context subscription options tree).run []
      (.ok ⟨path, gather context subscription options classes [] [], []⟩) := by
  unfold draft
  refine (ends_run_bind_after_iff resolved).mpr ?_
  simp only [classified, charts, kustomizations]
  exact .done _

namespace Draft

variable {draft : Draft} {wentWell : Bool} {root : String} {log : Log}

theorem isWithheld_iff : draft.isWithheld wentWell = true ↔
    draft.assembly.items = [] ∧ ¬ (wentWell = true ∧ draft.chartErrors = []) := by
  unfold isWithheld
  rw [Bool.and_eq_true, List.isEmpty_iff]
  refine and_congr_right fun _ => ?_
  cases wentWell with
  | false => simp
  | true => simp

def verdict (context : Context) (draft : Draft) : Except String Unit → Except SyncError Nat
  | .error reason => .error (.deployment reason)
  | .ok () =>
    if draft.chartErrors = [] then .ok draft.assembly.items.length
    else .error (.classification (joinCut context draft.chartErrors))

private theorem deploy_run (free : draft.isWithheld wentWell = false) :
    (draft.deploy context subscription wentWell root).run = (do
      let reply ← Work.ask (.deploy (ofSubscription subscription draft.assembly.items))
      return draft.verdict context reply) := by
  unfold deploy
  rw [free]
  change Dialogue.ask _ _ = Dialogue.ask _ _
  congr 1
  funext reply
  cases reply with
  | error reason => rfl
  | ok value =>
      unfold verdict
      cases errors : draft.chartErrors with
      | nil => rfl
      | cons first rest => rfl

/-- A draft that is withheld is not deployed, and everything else is deployed in one go. -/
theorem deploy_ends_iff {result : Except SyncError Nat} :
    Ends (draft.deploy context subscription wentWell root).run log result ↔
      if draft.isWithheld wentWell then
        log = [] ∧ result = .error (.nothingToDeploy (joinCut context (draft.reasons root)))
      else
        ∃ reply : Except String Unit,
          log = [⟨.deploy (ofSubscription subscription draft.assembly.items), reply⟩] ∧
          result = draft.verdict context reply := by
  cases withheld : draft.isWithheld wentWell with
  | true =>
      unfold deploy
      rw [if_pos withheld, if_pos rfl]
      exact ends_run_throw_iff
  | false =>
      rw [deploy_run withheld, if_neg Bool.false_ne_true, ends_bind_iff]
      constructor
      · rintro ⟨before, reply, after, asked, rest, rfl⟩
        obtain rfl := ends_ask_iff.mp asked
        obtain ⟨rfl, rfl⟩ := ends_pure_iff.mp rest
        exact ⟨reply, rfl, rfl⟩
      · rintro ⟨reply, rfl, rfl⟩
        exact ⟨_, reply, [], ends_ask_iff.mpr rfl, ends_pure_iff.mpr ⟨rfl, rfl⟩, rfl⟩

theorem failsFor_deploy :
    FailsFor (fun error : SyncError => error.isNotFound = false)
      (draft.deploy context subscription wentWell root) := by
  intro log error failed
  have shape := deploy_ends_iff.mp failed
  split at shape
  · cases shape.2
    rfl
  · obtain ⟨reply, _, same⟩ := shape
    unfold verdict at same
    split at same
    · cases same
      rfl
    · split at same
      · cases same
      · cases same
        rfl

theorem deploys_iff {result : Except SyncError Nat}
    (ended : Ends (draft.deploy context subscription wentWell root).run log result) :
    Deploys log ↔ draft.isWithheld wentWell = false := by
  have shape := deploy_ends_iff.mp ended
  cases withheld : draft.isWithheld wentWell with
  | true =>
      rw [if_pos withheld] at shape
      obtain ⟨rfl, _⟩ := shape
      simp [Deploys]
  | false =>
      rw [withheld, if_neg Bool.false_ne_true] at shape
      obtain ⟨reply, rfl, _⟩ := shape
      exact iff_of_true ⟨_, List.mem_singleton.mpr rfl, trivial⟩ rfl

end Draft

end GitDelivery.Assembly
