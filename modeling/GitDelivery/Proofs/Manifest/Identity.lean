import GitDelivery.Proofs.Manifest.Difference
import GitDelivery.Proofs.Manifest.Emission
import GitDelivery.Proofs.Manifest.Namespace
import GitDelivery.Proofs.Resource.Difference

set_option autoImplicit false

/-! The acting user on subscriptions that are deployed. Two manifests that differ only in the user and
the group that they name themselves go through the same steps, and what the subscription carries itself
goes before what they name. -/

namespace GitDelivery.Manifest

open Json (Alike)

section

variable {first second : Json} {subscription : Subscription} {origin : Origin}

/-! ### Two runs -/

def filterAnnotations (subscription : Subscription) : Table String :=
  (subscription.spec.filter.map PackageFilter.annotations).getD []

private theorem unmetAnnotations?_congr {wanted left right : Table String}
    (same : ∀ key ∈ wanted.map Prod.fst, Table.get? key left = Table.get? key right) :
    unmetAnnotations? wanted left = unmetAnnotations? wanted right := by
  unfold unmetAnnotations?
  induction wanted with
  | nil => rfl
  | cons pair rest ih =>
      obtain ⟨key, value⟩ := pair
      have later := ih fun other member => same other (List.mem_cons_of_mem key member)
      simp only [List.find?_cons, same key List.mem_cons_self]
      cases decide (Table.get? key right ≠ some value) with
      | true => rfl
      | false => exact later

private theorem filterReason?_eq (origin : Origin) (differ : DifferInIdentity first second)
    (unasked : ∀ key ∈ identityKeys, key ∉ (filterAnnotations subscription).map Prod.fst)
    (name : String) :
    filterReason? subscription origin name first = filterReason? subscription origin name second := by
  have labels : metadataTexts "labels" first = metadataTexts "labels" second :=
    differ.metadataTexts_eq (by decide)
  unfold filterReason?
  rw [labels]
  cases filtered : subscription.spec.filter with
  | none => rfl
  | some filter =>
      have unmet : unmetAnnotations? filter.annotations (metadataTexts "annotations" first) =
          unmetAnnotations? filter.annotations (metadataTexts "annotations" second) := by
        refine unmetAnnotations?_congr fun key member => differ.get?_metadataTexts_eq fun listed => ?_
        refine unasked key listed ?_
        rw [filterAnnotations, filtered]
        exact member
      dsimp only
      rw [unmet]

theorem applyOverrides_alike (origin : Origin) (differ : DifferInIdentity first second)
    (ordered : ∀ override ∈ subscription.spec.overrides, ∀ entry ∈ override.entries,
      Json.InOrder entry) (name : String) :
    Alike DifferInIdentity (applyOverrides subscription origin name first)
      (applyOverrides subscription origin name second) := by
  unfold applyOverrides
  split
  · exact .ok differ
  · have entriesOrdered : ∀ entry ∈ PackageOverride.entriesFor name subscription.spec.overrides,
        Json.InOrder entry := by
      intro entry member
      obtain ⟨override, listed, inside⟩ := PackageOverride.exists_of_mem_entriesFor member
      exact ordered override listed entry inside
    obtain ⟨written, result⟩ :=
      PackageOverride.applyEntries_alike differ (by decide) entriesOrdered
    unfold PackageOverride.apply
    revert written result
    generalize PackageOverride.applyEntries _ first = left
    generalize PackageOverride.applyEntries _ second = right
    intro written result
    dsimp only
    rw [result]
    split
    · exact .ok written
    · exact .error _

/-- What two runs have in common: both leave the manifest out for the same reason, or what they deploy
differs in the identity annotations only. -/
inductive SameOutcome : Transformed → Transformed → Prop where
  | skip (reason : SkipReason) : SameOutcome (.skip reason) (.skip reason)
  | deploy {left right : Deployable} : left.kind = right.kind →
      DynamicObject.SameBut identityKeys left.object right.object →
      SameOutcome (.deploy left) (.deploy right)

private theorem SameOutcome.refl (result : Transformed) : SameOutcome result result := by
  cases result with
  | skip reason => exact .skip reason
  | deploy item => exact .deploy rfl (.refl _ _)

theorem transform_alike (isNamespaced : ResourceKind → Bool) (origin : Origin)
    (differ : DifferInIdentity first second)
    (unasked : ∀ key ∈ identityKeys, key ∉ (filterAnnotations subscription).map Prod.fst)
    (ordered : ∀ override ∈ subscription.spec.overrides, ∀ entry ∈ override.entries,
      Json.InOrder entry) :
    Alike SameOutcome (transform isNamespaced subscription origin first)
      (transform isNamespaced subscription origin second) := by
  have claims : claimsClusterAdmin first = claimsClusterAdmin second := by
    unfold claimsClusterAdmin
    rw [differ.annotationOf?_eq (by decide)]
  unfold transform
  rw [differ.declared?_eq, differ.nameOf_eq, claims]
  cases ResourceKind.declared? second with
  | none => exact Alike.refl SameOutcome.refl _
  | some kind =>
      have placed := differ.placed isNamespaced subscription kind
      have filtered := filterReason?_eq origin placed unasked (nameOf second)
      have overridden := applyOverrides_alike origin placed ordered (nameOf second)
      dsimp only
      cases origin = .kustomize && kind.isSubscription && claimsClusterAdmin second with
      | true => exact .error _
      | false =>
          rw [if_neg Bool.false_ne_true, if_neg Bool.false_ne_true]
          have same : Alike Eq
              ((filterReason? subscription origin (nameOf second)
                (Manifest.placed isNamespaced subscription kind first)).mapError .selector)
              ((filterReason? subscription origin (nameOf second)
                (Manifest.placed isNamespaced subscription kind second)).mapError
                  TransformError.selector) := by
            rw [filtered]
            exact Alike.refl (fun _ => rfl) _
          refine same.bind ?_
          rintro (_ | reason) _ rfl
          · refine overridden.bind fun left right written => ?_
            have decoded := DynamicObject.decode_alike (written.mark subscription kind.isSubscription)
            revert decoded
            generalize DynamicObject.decode (mark subscription kind.isSubscription left) = leftRead
            generalize DynamicObject.decode (mark subscription kind.isSubscription right) = rightRead
            intro decoded
            cases decoded with
            | error failure => exact .error _
            | ok object => exact .ok (.deploy rfl object)
          · exact .ok (.skip reason)

/-! ### One run -/

def carried? (subscription : Subscription) (key : String) : Option String :=
  (subscription.annotation? key).bind Text.nonEmpty?

def annotationPath (key : String) : List String := ["metadata", "annotations", key]

theorem annotationOf?_eq_some_iff {object : Json} {key found : String} :
    annotationOf? key object = some found ↔
      Json.at? (annotationPath key) object = some (.text found) := by
  have path : Json.at? (annotationPath key) object =
      ((object.get? "metadata").bind (Json.get? "annotations")).bind (Json.get? key) := by
    unfold annotationPath
    rw [Json.at?_cons, Option.bind_assoc]
    refine Option.bind_congr fun metadata _ => ?_
    rw [Json.at?_cons]
    refine Option.bind_congr fun annotations _ => ?_
    rw [Json.at?_cons]
    exact Option.bind_fun_some _
  have text : annotationOf? key object = (Json.at? (annotationPath key) object).bind Json.text? := by
    rw [path, Option.bind_assoc]
    rfl
  rw [text]
  cases Json.at? (annotationPath key) object with
  | none => simp
  | some value => cases value <;> simp [Json.text?]

theorem annotationOf?_overridden {object written : Json} {entries : List Json} {count : Nat}
    {key : String} (applied : PackageOverride.applyEntries entries object = (written, .ok count))
    (untouched : ∀ entry ∈ entries, ¬ PackageOverride.Touches (annotationPath key) entry) :
    annotationOf? key written = annotationOf? key object := by
  refine Option.ext fun found => ?_
  rw [annotationOf?_eq_some_iff, annotationOf?_eq_some_iff]
  constructor
  · intro present
    rcases PackageOverride.text_at_applyEntries applied present with kept | ⟨entry, member, puts⟩
    · exact kept
    · exact absurd (PackageOverride.touches_of_puts puts) (untouched entry member)
  · exact PackageOverride.at?_applyEntries_of_untouched applied untouched

private theorem annotationOf?_placed_of_ne {isNamespaced : ResourceKind → Bool} {kind : ResourceKind}
    {object : Json} {key : String} (other : key ≠ Vocabulary.clusterAdmin) :
    annotationOf? key (placed isNamespaced subscription kind object) = annotationOf? key object := by
  cases shaped : (metadataOf? object).isSome with
  | true => exact annotationOf?_placed isNamespaced subscription kind shaped (.inl other)
  | false =>
      have unshaped := (edits_placed isNamespaced subscription kind object).shaped
      rw [shaped] at unshaped
      rw [annotationOf?_eq, annotationOf?_eq, entryAt, entryAt, metadataAt, metadataAt,
        Option.isNone_iff_eq_none.mp (Option.isSome_eq_false_iff.mp unshaped),
        Option.isNone_iff_eq_none.mp (Option.isSome_eq_false_iff.mp shaped)]

private theorem stamped_identity {own : String → Option String} {key : String}
    (identity : key ∈ identityKeys) :
    stamped subscription true own key = (carried? subscription key).or (own key) := by
  have distinct : [Vocabulary.clusterAdmin, Vocabulary.reconcileOption, Vocabulary.userIdentity,
      Vocabulary.userGroup].Nodup := by decide
  simp only [List.nodup_cons, List.mem_cons, not_or] at distinct
  simp only [identityKeys, List.mem_cons, List.not_mem_nil, or_false] at identity
  unfold stamped carried? Subscription.userIdentity? Subscription.userGroup?
  grind

/-- A subscription that is deployed acts for whom the subscription that deploys it acts, or else for
whom its manifest says. -/
theorem transform_identity {object : Json} {item : Deployable} {key : String}
    {isNamespaced : ResourceKind → Bool} (identity : key ∈ identityKeys)
    (emitted : transform isNamespaced subscription origin object = .ok (.deploy item))
    (nested : item.kind.isSubscription = true)
    (untouched : ∀ entry ∈ applicable subscription origin object,
      ¬ PackageOverride.Touches (annotationPath key) entry) :
    item.object.metadata.annotation? key =
      (carried? subscription key).or (annotationOf? key object) := by
  obtain ⟨written, declared, overridden, decoded⟩ := transform_deploy emitted
  obtain ⟨count, applied⟩ := applyOverrides_ok overridden
  obtain ⟨fields, shaped, read⟩ := decode_metadata decoded
  have shapedWritten : (metadataOf? written).isSome = true := by
    rw [← (edits_mark subscription item.kind.isSubscription written).shaped, shaped]
    rfl
  have own : annotationOf? key written = annotationOf? key object := by
    rw [annotationOf?_overridden applied untouched]
    exact annotationOf?_placed_of_ne (fun same => by subst same; revert identity; decide)
  rw [annotation?_eq shaped read, annotationOf?_mark shapedWritten, nested,
    stamped_identity identity, own]

/-! ### Both together -/

namespace Given

def annotation? (key : String) (given : Given) : Option String :=
  given.object?.bind (annotationOf? key)

/-- Is a manifest one of a subscription, if it is one of anything? -/
def IsNested (given : Given) : Prop :=
  ∀ object kind, given.object? = some object → ResourceKind.declared? object = some kind →
    kind.isSubscription = true

inductive DifferInIdentity : Given → Given → Prop where
  | text {left right : String} {first second : Yaml.Value} :
      Yaml.parse left = .ok first → Yaml.parse right = .ok second →
      Yaml.Value.DifferAt identityKeys ["metadata", "annotations"] (some first) (some second) →
      DifferInIdentity (.text left) (.text right)
  | value {first second : Json} : Manifest.DifferInIdentity first second →
      DifferInIdentity (.value first) (.value second)

/-- Either both come to nothing for the same reason, or their structured forms differ as they do. -/
theorem DifferInIdentity.structures {left right : Given} (differ : left.DifferInIdentity right)
    (isNamespaced : ResourceKind → Bool) (subscription : Subscription) (origin : Origin) :
    (left.transform isNamespaced subscription origin =
        right.transform isNamespaced subscription origin ∧
      ∀ item, left.transform isNamespaced subscription origin ≠ .ok (.deploy item)) ∨
    ∃ first second, left.object? = some first ∧ right.object? = some second ∧
      Manifest.DifferInIdentity first second ∧
      left.transform isNamespaced subscription origin =
        Manifest.transform isNamespaced subscription origin first ∧
      right.transform isNamespaced subscription origin =
        Manifest.transform isNamespaced subscription origin second := by
  cases differ with
  | value differ => exact .inr ⟨_, _, rfl, rfl, differ, rfl, rfl⟩
  | @text left right first second parsedLeft parsedRight differ =>
      have declares : declaresKind first = declaresKind second := by
        unfold declaresKind
        dsimp only
        rw [differ.get?_eq (by decide), differ.get?_eq (by decide)]
      have alike := structured_alike differ
      simp only [transform, object?, transformText, parsedLeft, parsedRight, declares]
      cases declaresKind second with
      | false => exact .inl ⟨rfl, fun item impossible => by cases impossible⟩
      | true =>
          generalize structured first = leftForm at alike ⊢
          generalize structured second = rightForm at alike ⊢
          cases alike with
          | error failure => exact .inl ⟨rfl, fun item impossible => by cases impossible⟩
          | ok apart => exact .inr ⟨_, _, rfl, rfl, apart, rfl, rfl⟩

end Given

/-- Two manifests are left out for the same reason, or deployed as objects that differ at most in
identity annotations that the subscription does not carry. These are each manifest's own. -/
inductive ActsAlike (subscription : Subscription) (first second : Given) :
    Transformed → Transformed → Prop where
  | skip (reason : SkipReason) : ActsAlike subscription first second (.skip reason) (.skip reason)
  | deploy {left right : Deployable} : left.kind = right.kind →
      DynamicObject.SameBut identityKeys left.object right.object →
      (∀ key ∈ identityKeys, left.object.metadata.annotation? key =
        (carried? subscription key).or (first.annotation? key)) →
      (∀ key ∈ identityKeys, right.object.metadata.annotation? key =
        (carried? subscription key).or (second.annotation? key)) →
      ActsAlike subscription first second (.deploy left) (.deploy right)

/-- What a manifest says of the acting user and group decides nothing but what it says itself, and that
only where the subscription carries no such annotation. The values of overrides have their fields in
order, as all that are read. -/
theorem identity_decides_nothing {left right : Given} {isNamespaced : ResourceKind → Bool}
    (differ : left.DifferInIdentity right) (nested : left.IsNested)
    (unasked : ∀ key ∈ identityKeys, key ∉ (filterAnnotations subscription).map Prod.fst)
    (ordered : ∀ override ∈ subscription.spec.overrides, ∀ entry ∈ override.entries,
      Json.InOrder entry)
    (untouched : ∀ key ∈ identityKeys, ∀ override ∈ subscription.spec.overrides,
      ∀ entry ∈ override.entries, ¬ PackageOverride.Touches (annotationPath key) entry) :
    Alike (ActsAlike subscription left right)
      (left.transform isNamespaced subscription origin)
      (right.transform isNamespaced subscription origin) := by
  rcases differ.structures isNamespaced subscription origin with
    ⟨same, nothing⟩ | ⟨first, second, leftObject, rightObject, apart, leftRuns, rightRuns⟩
  · rw [← same]
    generalize left.transform isNamespaced subscription origin = outcome at nothing ⊢
    cases outcome with
    | error failure => exact .error failure
    | ok result =>
        cases result with
        | skip reason => exact .ok (.skip reason)
        | deploy item => exact absurd rfl (nothing item)
  · rw [leftRuns, rightRuns]
    have alike := transform_alike isNamespaced origin apart unasked ordered
    generalize leftRun : transform isNamespaced subscription origin first = leftOutcome at alike ⊢
    generalize rightRun : transform isNamespaced subscription origin second = rightOutcome at alike ⊢
    cases alike with
    | error failure => exact .error failure
    | ok outcomes =>
        cases outcomes with
        | skip reason => exact .ok (.skip reason)
        | @deploy leftItem rightItem sameKind sameBut =>
            obtain ⟨_, declared, _⟩ := transform_deploy leftRun
            have isNested : leftItem.kind.isSubscription = true :=
              nested first leftItem.kind leftObject declared
            have own {given : Given} {object : Json} (known : given.object? = some object)
                (key : String) : given.annotation? key = annotationOf? key object := by
              unfold Given.annotation?
              rw [known, Option.bind_some]
            have clear {object : Json} (key : String) (identity : key ∈ identityKeys) :
                ∀ entry ∈ applicable subscription origin object,
                  ¬ PackageOverride.Touches (annotationPath key) entry := by
              intro entry member
              unfold applicable at member
              split at member
              · cases member
              · obtain ⟨override, listed, inside⟩ := PackageOverride.exists_of_mem_entriesFor member
                exact untouched key identity override listed entry inside
            refine .ok (.deploy sameKind sameBut ?_ ?_)
            · intro key identity
              rw [own leftObject]
              exact transform_identity identity leftRun isNested (clear key identity)
            · intro key identity
              rw [own rightObject]
              exact transform_identity identity rightRun (sameKind ▸ isNested) (clear key identity)

end

namespace Impostor

/-! A subscription whose manifest names a user and a group, deployed by one that may name none. -/

def subscription (annotations : Table String) : Subscription :=
  { metadata := { annotations := some annotations, name := some "web", space := some "apps" }
    spec := ⟨"repo", none, none, none, [], none, none, none, [], []⟩
    status := none }

def forAlice : Table String := [(Vocabulary.userIdentity, "alice")]

def object (annotations : Table Json) : Json :=
  .object [("apiVersion", .text "apps.open-cluster-management.io/v1"), ("kind", .text "Subscription"),
    ("metadata", .object [("annotations", .object annotations), ("name", .text "child")])]

def forged : Given :=
  .value (object [(Vocabulary.userGroup, .text "admins"), (Vocabulary.userIdentity, .text "mallory")])

def plain : Given := .value (object [])

def child (annotations : Table String) : Deployable :=
  { kind := ⟨"apps.open-cluster-management.io", "v1", "Subscription"⟩
    object :=
      { declared := some ("apps.open-cluster-management.io/v1", "Subscription")
        metadata :=
          { annotations := some ((Vocabulary.reconcileOption, "merge") :: annotations)
            labels := some [(Vocabulary.partOfLabel, "web")]
            name := some "child"
            space := some "apps" }
        others := [] } }

theorem forged_nested : forged.IsNested := by
  intro object kind structured declared
  cases structured
  cases declared
  decide

theorem forged_differs : forged.DifferInIdentity plain := by
  refine .value (.inside ?_ (.inside ?_ (.entries rfl rfl ?_ ?_ ?_ ?_)))
  · intro key other
    simp [Table.get?, Ne.symm other]
  · intro key other
    simp [Table.get?, Ne.symm other]
  · decide
  · decide
  · intro key free
    have others : Vocabulary.userGroup ≠ key ∧ Vocabulary.userIdentity ≠ key := by
      constructor <;> rintro rfl <;> exact absurd (by decide) free
    simp [Table.get?, others]
  · intro key identity
    simp only [identityKeys, List.mem_cons, List.not_mem_nil, or_false] at identity
    rcases identity with rfl | rfl <;> exact .inr ⟨trivial, trivial⟩

set_option maxRecDepth 4000 in
private theorem forged_deployed :
    forged.transform (fun _ => true) (subscription forAlice) .file =
      .ok (.deploy (child
        [(Vocabulary.userGroup, "admins"), (Vocabulary.userIdentity, "alice")])) :=
  (rfl)

set_option maxRecDepth 4000 in
private theorem plain_deployed :
    plain.transform (fun _ => true) (subscription forAlice) .file =
      .ok (.deploy (child [(Vocabulary.userIdentity, "alice")])) :=
  (rfl)

/-- Whoever the manifest names, the child acts for alice; its group stays its own. -/
theorem child_acts_for_alice :
    ∃ left right,
      forged.transform (fun _ => true) (subscription forAlice) .file = .ok (.deploy left) ∧
      plain.transform (fun _ => true) (subscription forAlice) .file = .ok (.deploy right) ∧
      left.object.metadata.annotation? Vocabulary.userIdentity = some "alice" ∧
      right.object.metadata.annotation? Vocabulary.userIdentity = some "alice" ∧
      left.object.metadata.annotation? Vocabulary.userGroup = some "admins" ∧
      right.object.metadata.annotation? Vocabulary.userGroup = none := by
  have alike : Json.Alike (ActsAlike (subscription forAlice) forged plain)
      (forged.transform (fun _ => true) (subscription forAlice) .file)
      (plain.transform (fun _ => true) (subscription forAlice) .file) :=
    identity_decides_nothing forged_differs forged_nested (by decide)
      (fun override member => by cases member) (fun key identity override member => by cases member)
  rw [forged_deployed, plain_deployed] at alike
  cases alike with
  | ok outcome =>
      cases outcome with
      | deploy _ _ left right =>
          exact ⟨_, _, forged_deployed, plain_deployed, left _ (by decide), right _ (by decide),
            left _ (by decide), right _ (by decide)⟩

set_option maxRecDepth 4000 in
/-- Where the subscription carries no user, the one that the manifest names itself is deployed. -/
theorem mallory_deployed :
    forged.transform (fun _ => true) (subscription []) .file =
      .ok (.deploy (child
        [(Vocabulary.userGroup, "admins"), (Vocabulary.userIdentity, "mallory")])) :=
  (rfl)

set_option maxRecDepth 4000 in
private theorem nobody_deployed :
    plain.transform (fun _ => true) (subscription []) .file = .ok (.deploy (child [])) :=
  (rfl)

/-- Not every subscription keeps its manifests from naming a user. -/
theorem not_always_unforged :
    ¬ ∀ (left right : Given) (isNamespaced : ResourceKind → Bool) (subscription : Subscription)
      (origin : Origin), left.DifferInIdentity right → left.IsNested →
      (∀ key ∈ identityKeys, key ∉ (filterAnnotations subscription).map Prod.fst) →
      (∀ override ∈ subscription.spec.overrides, ∀ entry ∈ override.entries, Json.InOrder entry) →
      (∀ key ∈ identityKeys, ∀ override ∈ subscription.spec.overrides, ∀ entry ∈ override.entries,
        ¬ PackageOverride.Touches (annotationPath key) entry) →
      ∀ leftItem rightItem,
        left.transform isNamespaced subscription origin = .ok (.deploy leftItem) →
        right.transform isNamespaced subscription origin = .ok (.deploy rightItem) →
        ∀ key ∈ identityKeys, leftItem.object.metadata.annotation? key =
          rightItem.object.metadata.annotation? key := by
  intro always
  have impossible := always forged plain (fun _ => true) (subscription []) .file forged_differs
    forged_nested (by decide) (fun override member => by cases member)
    (fun key identity override member => by cases member) _ _ mallory_deployed nobody_deployed
    Vocabulary.userIdentity (by decide)
  have different : (some "mallory" : Option String) ≠ none := by decide
  exact different impossible

end Impostor

end GitDelivery.Manifest
