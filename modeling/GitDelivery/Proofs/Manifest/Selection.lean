import GitDelivery.Proofs.Json.Paths
import GitDelivery.Proofs.Manifest.Transform

set_option autoImplicit false

/-! What a package name leaves out. An object of another name is skipped, whatever the rest of the filter
and the overrides are, since the name is looked at first. Only one thing is looked at before it: whether a
rendered subscription asks for cluster admin rights. -/

namespace GitDelivery.Manifest

/-- An object asks for cluster admin rights where it must not: it is a subscription that a kustomization
was rendered to. -/
structure Escalates (origin : Origin) (kind : ResourceKind) (object : Json) : Prop where
  rendered : origin = .kustomize
  nested : kind.isSubscription = true
  claims : ∃ text,
    object.at? ["metadata", "annotations", Vocabulary.clusterAdmin] = some (.text text) ∧
      Text.sameIgnoringCase text "true" = true

section

variable {isNamespaced : ResourceKind → Bool} {subscription : Subscription} {origin : Origin}
  {object : Json} {kind : ResourceKind} {package name : String}

/-! ### Reading a manifest -/

theorem bind_text?_iff {found : Option Json} {text : String} :
    found.bind Json.text? = some text ↔ found = some (.text text) := by
  cases found with
  | none => simp
  | some value => cases value <;> simp [Json.text?]

private theorem nameOf_eq_at? (object : Json) :
    nameOf object = ((object.at? ["metadata", "name"]).bind Json.text?).getD "" := by
  simp only [Json.at?, Option.bind_assoc]
  rfl

private theorem annotationOf?_eq_at? (key : String) (object : Json) :
    annotationOf? key object =
      (object.at? ["metadata", "annotations", key]).bind Json.text? := by
  unfold annotationOf?
  simp only [Json.at?, Option.bind_assoc]
  rfl

private theorem nameOf_ne (filled : package ≠ "")
    (other : object.at? ["metadata", "name"] ≠ some (.text package)) : nameOf object ≠ package := by
  intro same
  rw [nameOf_eq_at?] at same
  cases named : (object.at? ["metadata", "name"]).bind Json.text? with
  | none =>
      rw [named] at same
      exact filled same.symm
  | some text =>
      rw [named] at same
      obtain rfl : text = package := same
      exact other (bind_text?_iff.mp named)

theorem escalates_iff :
    Escalates origin kind object ↔
      (origin = .kustomize && kind.isSubscription && claimsClusterAdmin object) = true := by
  have claims : claimsClusterAdmin object = true ↔ ∃ text,
      object.at? ["metadata", "annotations", Vocabulary.clusterAdmin] = some (.text text) ∧
        Text.sameIgnoringCase text "true" = true := by
    unfold claimsClusterAdmin
    rw [annotationOf?_eq_at?]
    simp only [Option.any_eq_true, bind_text?_iff]
  simp only [Bool.and_eq_true, decide_eq_true_eq, claims]
  constructor
  · rintro ⟨rendered, nested, asks⟩
    exact ⟨⟨rendered, nested⟩, asks⟩
  · rintro ⟨⟨rendered, nested⟩, asks⟩
    exact ⟨rendered, nested, asks⟩

/-! ### The order of the steps -/

/-- The name is looked at before labels and annotations. -/
theorem filterReason?_of_other (own : origin ≠ .helm) (given : subscription.spec.package = some package)
    (filled : package ≠ "") (other : package ≠ name) (object : Json) :
    filterReason? subscription origin name object = .ok (some (.otherPackage package)) := by
  have present : Text.nonEmpty? package = some package := by
    unfold Text.nonEmpty?
    simp [filled]
  unfold filterReason?
  simp [own, given, present, other]
  rfl

theorem transform_of_escalation (declared : ResourceKind.declared? object = some kind)
    (escalates : Escalates origin kind object) :
    transform isNamespaced subscription origin object =
      .error (.claimsClusterAdmin kind (nameOf object)) := by
  have refused := escalates_iff.mp escalates
  unfold transform
  simp only [declared, refused]
  rfl

private theorem transform_of_filtered {reason : SkipReason}
    (declared : ResourceKind.declared? object = some kind)
    (harmless : ¬ Escalates origin kind object)
    (filtered : filterReason? subscription origin (nameOf object)
      (placed isNamespaced subscription kind object) = .ok (some reason)) :
    transform isNamespaced subscription origin object = .ok (.skip reason) := by
  have accepted := mt escalates_iff.mpr harmless
  unfold placed at filtered
  unfold transform
  simp only [declared, accepted, filtered]
  rfl

/-- An object of another name than the package's is skipped and says which package was asked for. It is
refused if it is a rendered subscription that asks for cluster admin rights, and only then. -/
theorem other_package_left_out (declared : ResourceKind.declared? object = some kind)
    (own : origin ≠ .helm) (given : subscription.spec.package = some package) (filled : package ≠ "")
    (other : object.at? ["metadata", "name"] ≠ some (.text package)) :
    (¬ Escalates origin kind object →
        transform isNamespaced subscription origin object = .ok (.skip (.otherPackage package))) ∧
      (Escalates origin kind object →
        transform isNamespaced subscription origin object =
          .error (.claimsClusterAdmin kind (nameOf object))) := by
  refine ⟨fun harmless => ?_, transform_of_escalation declared⟩
  refine transform_of_filtered declared harmless ?_
  exact filterReason?_of_other own given filled (nameOf_ne filled other).symm _

end

/-! A subscription for one package, and the manifest of another subscription. -/

namespace RenderedChild

def parent : Subscription :=
  { metadata := { name := some "web", space := some "apps" }
    spec :=
      { channel := "repo"
        secondaryChannel := none
        package := some "web"
        filter := some
          { selector := some ⟨[], [⟨"tier", "Near", ["web"]⟩]⟩
            annotations := [("team", "blue")]
            version := none
            pathSource := none }
        overrides := [⟨"child", none, [.null]⟩]
        placement := none
        timeWindow := none
        hookSecret := none
        allow := []
        deny := [] }
    status := none }

def manifest (claim : String) : Json :=
  .object [
    ("apiVersion", .text "apps.open-cluster-management.io/v1"),
    ("kind", .text "Subscription"),
    ("metadata", .object [
      ("annotations", .object [(Vocabulary.clusterAdmin, .text claim)]),
      ("name", .text "child")])]

def kind : ResourceKind := ⟨"apps.open-cluster-management.io", "v1", "Subscription"⟩

theorem declared (claim : String) : ResourceKind.declared? (manifest claim) = some kind := rfl

theorem named (claim : String) :
    (manifest claim).at? ["metadata", "name"] ≠ some (.text "web") := by
  intro same
  have texts : "child" = "web" := Json.text.inj (Option.some.inj same)
  exact absurd texts (by decide)

private theorem escalates_of_claim {claim : String}
    (asks : Text.sameIgnoringCase claim "true" = true) :
    Escalates .kustomize kind (manifest claim) :=
  ⟨rfl, by decide, claim, rfl, asks⟩

private theorem harmless : ¬ Escalates .kustomize kind (manifest "false") := by
  rintro ⟨_, _, text, found, asks⟩
  cases found
  exact absurd asks (by decide)

/-- The selector's operator is unknown and the override has no path, but neither is looked at. -/
theorem harmless_child_left_out :
    ResourceKind.declared? (manifest "false") = some kind ∧ Origin.kustomize ≠ .helm ∧
      parent.spec.package = some "web" ∧ "web" ≠ "" ∧
      (manifest "false").at? ["metadata", "name"] ≠ some (.text "web") ∧
      transform (fun _ => true) parent .kustomize (manifest "false") =
        .ok (.skip (.otherPackage "web")) := by
  have own : Origin.kustomize ≠ .helm := by decide
  have filled : "web" ≠ "" := by decide
  refine ⟨declared "false", own, rfl, filled, named "false", ?_⟩
  exact (other_package_left_out (declared "false") own rfl filled (named "false")).1 harmless

/-- A child that asks for cluster admin rights is refused, of whatever name it is. -/
theorem not_always_left_out :
    ¬ ∀ (isNamespaced : ResourceKind → Bool) (subscription : Subscription) (origin : Origin)
      (object : Json) (kind : ResourceKind) (package : String),
      ResourceKind.declared? object = some kind → origin ≠ .helm →
      subscription.spec.package = some package → package ≠ "" →
      object.at? ["metadata", "name"] ≠ some (.text package) →
      ∃ reason, transform isNamespaced subscription origin object = .ok (.skip reason) := by
  intro always
  obtain ⟨reason, skipped⟩ := always (fun _ => true) parent .kustomize (manifest "true") kind "web"
    (declared "true") (by decide) rfl (by decide) (named "true")
  rw [transform_of_escalation (declared "true") (escalates_of_claim (by decide))] at skipped
  cases skipped

end RenderedChild

end GitDelivery.Manifest
