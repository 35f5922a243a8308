import GitDelivery.Proofs.Sync.Rendering
import GitDelivery.Proofs.Sync.Turns

set_option autoImplicit false

/-! Ticks that give up because a kustomization cannot be rendered. Whatever was rendered before is
dropped, nothing is deployed, and the subscription as a whole and its status are told the same. -/

namespace GitDelivery.SyncItem

open Dialogue Work
open Assembly (Breaks abandonment abandonmentReport)
open Manifest (Kustomization.Failure)

section

variable {context : Context} {trigger : Trigger} {item after : SyncItem}
  {subscription : Subscription} {options : CloneOptions} {checkout : Checkout} {drift : DriftWindow}
  {fetching assembling rest : Log} {failure : Kustomization.Failure} {wrong : List String}
  {result : TickResult}

theorem tick_after_failure_iff
    (fetches : Fetches trigger item fetching subscription options drift checkout)
    (breaks : Breaks context subscription options checkout.tree assembling failure wrong) :
    Ends (item.tick context trigger) (fetching ++ assembling ++ rest) (result, after) ↔
      (∃ told : Except String Unit, rest =
        [⟨.reportOverall subscription true (abandonmentReport context failure wrong), told⟩]) ∧
      result = .error (abandonment failure wrong) ∧
      after = { item with drift := drift, successful := false } := by
  rw [List.append_assoc, tick_ends_iff]
  constructor
  · rintro ⟨between, synced, rfl⟩
    obtain ⟨deployed, deploys, same⟩ := (sync_after_fetches_iff fetches).mp synced
    obtain ⟨reported, rfl⟩ := (Assembly.deploy_after_failure_iff breaks).mp deploys
    cases same
    exact ⟨reported, rfl, rfl⟩
  · rintro ⟨reported, rfl, rfl⟩
    refine ⟨{ item with drift := drift }, (sync_after_fetches_iff fetches).mpr
      ⟨.error (abandonment failure wrong), ?_, rfl⟩, rfl⟩
    exact (Assembly.deploy_after_failure_iff breaks).mpr ⟨reported, rfl⟩

private theorem quiet {request : Request}
    (asks : Explores request ∨ isFetch request = true ∨ Assembly.Gathers request) :
    deployment? request = none ∧ overallReport? request = none ∧ ¬ IsStatusWrite request := by
  cases request <;> simp_all [Explores, isFetch, Assembly.Gathers, deployment?, overallReport?,
    IsStatusWrite]

theorem silent_until_failure
    (fetches : Fetches trigger item fetching subscription options drift checkout)
    (breaks : Breaks context subscription options checkout.tree assembling failure wrong) :
    carried deployment? (fetching ++ assembling) = [] ∧
      carried overallReport? (fetching ++ assembling) = [] ∧
      statusWrites (fetching ++ assembling) = [] := by
  have asks : ∀ entry ∈ fetching ++ assembling,
      Explores entry.1 ∨ isFetch entry.1 = true ∨ Assembly.Gathers entry.1 := by
    obtain ⟨deciding, cloning, reason, rfl, decides, fetched⟩ := fetches
    have clones (remote : Remote) : isFetch (.clone options remote) = true := rfl
    have only : Only (fun request => isFetch request = true) options.fetch :=
      only_firstAnswer (fun remote => only_ask (clones remote)) _ _
    intro entry member
    rcases List.mem_append.mp member with early | late
    · rcases List.mem_append.mp early with first | second
      · exact .inl (decides.explored entry first)
      · exact .inr (.inl (only_history only fetched entry second))
    · exact .inr (.inr (breaks.gathers entry late))
  refine ⟨?_, ?_, ?_⟩
  · exact carried_eq_nil fun entry member => (quiet (asks entry member)).1
  · exact carried_eq_nil fun entry member => (quiet (asks entry member)).2.1
  · exact statusWrites_eq_nil fun entry member => (quiet (asks entry member)).2.2

end

/-! ### The second of two kustomizations, without the program that builds it -/

namespace SecondKustomization

open FailedManifest (context options itemAfter workingCopy filtered reaching good)

def root : String := FailedManifest.directory

def tree : FileTree :=
  workingCopy [("a", .directory [("kustomization.yaml", .file [])]),
    ("b", .directory [("kustomization.yaml", .file [])])]

def checkout : Checkout := ⟨"c0ffee", tree⟩

def classes : Manifest.Classification := { kustomizations := [root ++ "/a", root ++ "/b"] }

def assembling : Log :=
  [⟨.build tree (root ++ "/a"), .finished 0 (Bytes.ofText good) []⟩,
    ⟨.build tree (root ++ "/b"), .missingBinary⟩]

def failure : Kustomization.Failure := .missingBinary context.settings.kustomizeBinary

set_option maxRecDepth 4000 in
private theorem classified : Manifest.classify tree root Manifest.hookDirectories = some classes := by
  decide +kernel

private theorem breaks : Breaks context (filtered none) options tree assembling failure [] := by
  have first : Manifest.Kustomization.documents context.settings.kustomizeBinary (root ++ "/a")
      (.finished 0 (Bytes.ofText good) []) = .ok [good] := by
    simp [Manifest.Kustomization.documents, FailedManifest.good_line.text?_ofText,
      FailedManifest.good_line.splitDocuments_eq]
  have resolved : Ends (Assembly.resourcePath (filtered none) options.directory).run []
      (.ok root) := .done _
  have renders : Assembly.Renders context (filtered none) options.directory tree [root ++ "/a"]
      (assembling.take 1) tree [[good]] := .cons rfl first (.nil tree)
  have fails : Assembly.FailsToRender context (filtered none) options.directory tree (root ++ "/b")
      (assembling.drop 1) failure := .build rfl rfl
  exact .intro resolved classified rfl renders fails

end SecondKustomization

end GitDelivery.SyncItem
