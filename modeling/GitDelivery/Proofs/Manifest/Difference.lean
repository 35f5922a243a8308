import GitDelivery.Proofs.Json.Difference
import GitDelivery.Proofs.Manifest.Structured
import GitDelivery.Proofs.Manifest.Transform
import GitDelivery.Proofs.Yaml.Difference

set_option autoImplicit false

/-! Two manifests that differ only in the user and the group that they name themselves: what they agree
on, and the steps after which they still do. -/

namespace GitDelivery.Manifest

open Json (Alike DifferAt)
open Yaml.Value (ApartIn)

def identityKeys : List String := [Vocabulary.userIdentity, Vocabulary.userGroup]

/-- Two structured manifests agree but for the user and the group that they name themselves. -/
def DifferInIdentity (first second : Json) : Prop :=
  DifferAt identityKeys ["metadata", "annotations"] (some first) (some second)

section

variable {first second : Json} {subscription : Subscription} {origin : Origin}

/-! ### What the two agree on -/

theorem get?_onlyTexts {fields : Table Json} (ascends : Table.Ascending fields) (key : String) :
    Table.get? key (onlyTexts fields) = (Table.get? key fields).bind Json.text? := by
  induction fields with
  | nil => rfl
  | cons field rest ih =>
      obtain ⟨name, value⟩ := field
      obtain ⟨before, others⟩ := List.pairwise_cons.mp ascends
      have later := ih others
      by_cases same : name = key
      · subst same
        have absent : Table.get? name rest = none := by
          apply Classical.byContradiction
          intro present
          exact String.lt_irrefl name (before name (Table.mem_keys_iff.mpr present))
        rw [absent] at later
        cases value <;> simp [onlyTexts, Table.get?, Json.text?, later]
      · cases value <;> simp [onlyTexts, Table.get?, same, later]

private theorem metadataTexts_eq_onlyTexts {object : Json} {field : String} {entries : Table Json}
    (known : Json.entriesOf? (metadataAt field object) = some entries) :
    metadataTexts field object = onlyTexts entries := by
  unfold metadataTexts
  rw [bind_get?_metadata]
  cases present : metadataAt field object with
  | none =>
      rw [present] at known
      cases known
      rfl
  | some value =>
      rw [present] at known
      cases value with
      | object fields =>
          cases known
          rfl
      | _ => cases known

namespace DifferInIdentity

theorem refl (object : Json) : DifferInIdentity object object :=
  .same _ _

theorem forms (differ : DifferInIdentity first second) :
    first = second ∨ ∃ left right, first = .object left ∧ second = .object right ∧
      (∀ key, key ≠ "metadata" → Table.get? key left = Table.get? key right) ∧
      (Table.get? "metadata" left = Table.get? "metadata" right ∨
        ∃ leftMetadata rightMetadata,
          Table.get? "metadata" left = some (.object leftMetadata) ∧
          Table.get? "metadata" right = some (.object rightMetadata) ∧
          (∀ field, field ≠ "annotations" →
            Table.get? field leftMetadata = Table.get? field rightMetadata) ∧
          DifferAt identityKeys [] (Table.get? "annotations" leftMetadata)
            (Table.get? "annotations" rightMetadata)) := by
  cases differ with
  | same => exact .inl rfl
  | @inside _ _ left right agree deeper =>
      refine .inr ⟨left, right, rfl, rfl, agree, ?_⟩
      revert deeper
      generalize Table.get? "metadata" left = metadata
      generalize Table.get? "metadata" right = other
      intro deeper
      cases deeper with
      | same => exact .inl rfl
      | inside agree deepest => exact .inr ⟨_, _, rfl, rfl, agree, deepest⟩

private theorem get?_eq (differ : DifferInIdentity first second) {key : String}
    (other : key ≠ "metadata") :
    first.get? key = second.get? key := by
  obtain rfl | ⟨left, right, rfl, rfl, agree, _⟩ := differ.forms
  · rfl
  · exact agree key other

theorem metadataAt_eq (differ : DifferInIdentity first second) {field : String}
    (other : field ≠ "annotations") : metadataAt field first = metadataAt field second := by
  obtain rfl | ⟨left, right, rfl, rfl, _, same | ⟨_, _, foundLeft, foundRight, agree, _⟩⟩ :=
    differ.forms
  · rfl
  · simp only [metadataAt, metadataOf?, same]
  · simp only [metadataAt, metadataOf?, foundLeft, foundRight]
    exact agree field other

theorem annotations (differ : DifferInIdentity first second) :
    DifferAt identityKeys [] (metadataAt "annotations" first) (metadataAt "annotations" second) := by
  obtain rfl | ⟨left, right, rfl, rfl, _, same | ⟨_, _, foundLeft, foundRight, _, deeper⟩⟩ :=
    differ.forms
  · exact .same _ _
  · simp only [metadataAt, metadataOf?, same]
    exact .same _ _
  · simp only [metadataAt, metadataOf?, foundLeft, foundRight]
    exact deeper

theorem annotationOf?_eq (differ : DifferInIdentity first second) {key : String}
    (free : key ∉ identityKeys) : annotationOf? key first = annotationOf? key second := by
  rw [Manifest.annotationOf?_eq, Manifest.annotationOf?_eq, entryAt, entryAt,
    differ.annotations.bind_get?_eq free]

theorem get?_metadataTexts_eq (differ : DifferInIdentity first second) {key : String}
    (free : key ∉ identityKeys) :
    Table.get? key (metadataTexts "annotations" first) =
      Table.get? key (metadataTexts "annotations" second) := by
  have known := differ.annotations
  generalize foundFirst : metadataAt "annotations" first = left at known
  generalize foundSecond : metadataAt "annotations" second = right at known
  cases known with
  | same =>
      unfold metadataTexts
      rw [bind_get?_metadata, bind_get?_metadata, foundFirst, foundSecond]
  | entries knownLeft knownRight ascendsLeft ascendsRight agree _ =>
      rw [← foundFirst] at knownLeft
      rw [← foundSecond] at knownRight
      rw [metadataTexts_eq_onlyTexts knownLeft, metadataTexts_eq_onlyTexts knownRight,
        get?_onlyTexts ascendsLeft, get?_onlyTexts ascendsRight, agree key free]

theorem metadataTexts_eq (differ : DifferInIdentity first second) {field : String}
    (other : field ≠ "annotations") : metadataTexts field first = metadataTexts field second := by
  unfold metadataTexts
  rw [bind_get?_metadata, bind_get?_metadata, differ.metadataAt_eq other]

theorem nameOf_eq (differ : DifferInIdentity first second) : nameOf first = nameOf second := by
  rw [Manifest.nameOf_eq, Manifest.nameOf_eq, differ.metadataAt_eq (by decide)]

theorem declared?_eq (differ : DifferInIdentity first second) :
    ResourceKind.declared? first = ResourceKind.declared? second := by
  unfold ResourceKind.declared? Json.textAt?
  rw [differ.get?_eq (by decide), differ.get?_eq (by decide)]

/-! ### Steps that keep the agreement -/

private theorem setMetadataField (differ : DifferInIdentity first second) {field : String}
    (other : "annotations" ≠ field) (value : Json) :
    DifferInIdentity (setMetadataField field value first) (setMetadataField field value second) := by
  obtain rfl | ⟨left, right, rfl, rfl, agree, same | ⟨_, _, foundLeft, foundRight, within, deeper⟩⟩ :=
    differ.forms
  · exact .refl _
  · unfold Manifest.setMetadataField
    dsimp only
    rw [same]
    split
    · exact Json.differAt_insert_inside agree (.same _ _)
    · exact differ
  · simp only [Manifest.setMetadataField, foundLeft, foundRight]
    exact Json.differAt_insert_inside agree (Json.differAt_insert_beside within deeper other value)

theorem setMetadataEntry (differ : DifferInIdentity first second) (field key value : String) :
    DifferInIdentity (setMetadataEntry field key value first)
      (setMetadataEntry field key value second) := by
  obtain rfl | ⟨left, right, rfl, rfl, agree, same |
      ⟨leftMetadata, rightMetadata, foundLeft, foundRight, within, deeper⟩⟩ := differ.forms
  · exact .refl _
  · unfold Manifest.setMetadataEntry
    dsimp only
    rw [same]
    split
    · exact Json.differAt_insert_inside agree (.same _ _)
    · exact differ
  · simp only [Manifest.setMetadataEntry, foundLeft, foundRight, Option.getD_some]
    refine Json.differAt_insert_inside agree ?_
    by_cases isAnnotations : field = "annotations"
    · subst isAnnotations
      refine Json.differAt_insert_inside within ?_
      generalize Table.get? "annotations" leftMetadata = leftEntries at deeper ⊢
      generalize Table.get? "annotations" rightMetadata = rightEntries at deeper ⊢
      cases deeper with
      | same => exact .same _ _
      | entries knownLeft knownRight ascendsLeft ascendsRight agree differ =>
          rw [Json.getD_fields?_of_entries knownLeft, Json.getD_fields?_of_entries knownRight]
          exact Json.differAt_insert_entry ascendsLeft ascendsRight agree differ key _
    · rw [within field isAnnotations]
      exact Json.differAt_insert_beside within deeper (Ne.symm isAnnotations) _

theorem annotate (differ : DifferInIdentity first second) (key value : String) :
    DifferInIdentity (annotate key value first) (annotate key value second) :=
  differ.setMetadataEntry "annotations" key value

theorem placed (differ : DifferInIdentity first second) (isNamespaced : ResourceKind → Bool)
    (subscription : Subscription) (kind : ResourceKind) :
    DifferInIdentity (placed isNamespaced subscription kind first)
      (placed isNamespaced subscription kind second) := by
  have moved : DifferInIdentity (setNamespace subscription.space first)
      (setNamespace subscription.space second) :=
    differ.setMetadataField (by decide) _
  have declared : metadataText? "namespace" first = metadataText? "namespace" second := by
    unfold metadataText? Json.textAt?
    rw [← Option.bind_assoc, ← Option.bind_assoc, bind_get?_metadata, bind_get?_metadata,
      differ.metadataAt_eq (by decide)]
  unfold Manifest.placed placeInNamespace
  rw [declared]
  cases isNamespaced kind with
  | false => exact differ
  | true =>
      cases subscription.isClusterAdmin with
      | false => exact moved
      | true =>
          have put (stay : Prop) [Decidable stay] : DifferInIdentity
              (if stay then setNamespace subscription.space first else first)
              (if stay then setNamespace subscription.space second else second) := by
            split
            · exact moved
            · exact differ
          cases kind.isSubscription with
          | false => exact put _
          | true => exact (put _).annotate _ _

private theorem markDeployment (differ : DifferInIdentity first second) (subscription : Subscription) :
    DifferInIdentity (markDeployment subscription first) (markDeployment subscription second) := by
  have marked : DifferInIdentity (markAdmin subscription first) (markAdmin subscription second) := by
    unfold markAdmin
    split
    · exact differ.annotate _ _
    · exact differ
  rw [markDeployment_eq, markDeployment_eq, marked.annotationOf?_eq (by decide)]
  split
  · exact marked
  · exact marked.annotate _ _

private theorem markApplication (differ : DifferInIdentity first second)
    (subscription : Subscription) :
    DifferInIdentity (markApplication subscription first)
      (markApplication subscription second) := by
  unfold Manifest.markApplication
  rw [differ.metadataTexts_eq (by decide)]
  dsimp only
  split
  · exact differ
  · exact differ.setMetadataEntry "labels" _ _

private theorem markIdentity (differ : DifferInIdentity first second) (subscription : Subscription) :
    DifferInIdentity (markIdentity subscription first) (markIdentity subscription second) := by
  unfold Manifest.markIdentity
  cases subscription.userIdentity? with
  | none =>
      cases subscription.userGroup? with
      | none => exact differ
      | some group => exact differ.annotate _ _
  | some user =>
      cases subscription.userGroup? with
      | none => exact differ.annotate _ _
      | some group => exact (differ.annotate _ _).annotate _ _

theorem mark (differ : DifferInIdentity first second) (subscription : Subscription) (nested : Bool) :
    DifferInIdentity (mark subscription nested first) (mark subscription nested second) := by
  have marked := (differ.markDeployment subscription).markApplication subscription
  unfold Manifest.mark
  cases nested with
  | false => exact marked
  | true => exact marked.markIdentity subscription

end DifferInIdentity

/-! ### Structured forms -/

def textsOf (entries : List (Yaml.Value × Yaml.Value)) : Table String :=
  .ofList (entries.filterMap fun (key, value) =>
    key.scalarText?.map fun name => (name, value.scalarText?.getD ""))

private theorem get?_textsOf (entries : List (Yaml.Value × Yaml.Value)) (key : String) :
    Table.get? key (textsOf entries) =
      (entries.reverse.find? fun entry => entry.1.scalarText? = some key).map fun entry =>
        entry.2.scalarText?.getD "" := by
  unfold textsOf
  rw [Table.get?_ofList, ← List.filterMap_reverse]
  exact find?_rendered entries.reverse key

theorem get?_textsOf_eq {left right : List (Yaml.Value × Yaml.Value)} {keys : List String}
    (agree : left.filter (fun entry => !Yaml.Value.isUnder keys entry) =
      right.filter (fun entry => !Yaml.Value.isUnder keys entry))
    {key : String} (free : key ∉ keys) :
    Table.get? key (textsOf left) = Table.get? key (textsOf right) := by
  have kept (entries : List (Yaml.Value × Yaml.Value)) :
      (entries.reverse.find? fun entry => entry.1.scalarText? = some key) =
        (entries.filter fun entry => !Yaml.Value.isUnder keys entry).reverse.find? fun entry =>
          entry.1.scalarText? = some key := by
    rw [← List.filter_reverse, List.find?_filter]
    congr 1
    funext entry
    by_cases named : entry.1.scalarText? = some key
    · have apart : Yaml.Value.isUnder keys entry = false := by
        refine List.any_eq_false.mpr fun other member isOther => ?_
        obtain ⟨written, value⟩ := entry
        cases written with
        | text written =>
            obtain rfl : written = other := of_decide_eq_true isOther
            cases named
            exact free member
        | _ => cases isOther
      simp [named, apart]
    · simp [named]
  rw [get?_textsOf, get?_textsOf, kept left, kept right, agree]

/-- Annotations that are written over the structured form are those of the document, and nothing else
changes. -/
theorem restamp_annotations {document : Option Yaml.Value} {entries : List (Yaml.Value × Yaml.Value)}
    {fields metadata : Table Json} (known : Yaml.Value.entriesOf? document = some entries)
    (found : Table.get? "metadata" fields = some (.object metadata))
    (structured : Yaml.Value.toJson? document = .ok (Table.get? "annotations" metadata)) :
    ∃ written below,
      restamp "annotations" (renderedTexts document) (.object fields) = .object written ∧
      (∀ key, key ≠ "metadata" → Table.get? key written = Table.get? key fields) ∧
      Table.get? "metadata" written = some (.object below) ∧
      (∀ field, field ≠ "annotations" → Table.get? field below = Table.get? field metadata) ∧
      Json.entriesOf? (Table.get? "annotations" below) =
        some ((textsOf entries).map fun pair => (pair.1, Json.text pair.2)) := by
  cases document with
  | none =>
      cases known
      refine ⟨fields, metadata, rfl, fun _ _ => rfl, found, fun _ _ => rfl, ?_⟩
      rw [← Except.ok.inj structured]
      rfl
  | some value =>
      cases value with
      | mapping given =>
          cases known
          let stamped := Table.insert "annotations" (Json.ofTable .text (textsOf entries)) metadata
          refine ⟨Table.insert "metadata" (.object stamped) fields, stamped, ?_,
            fun key other => Table.get?_insert_of_ne other _ fields, Table.get?_insert_self _ _ _,
            fun field other => Table.get?_insert_of_ne other _ metadata, ?_⟩
          · have rendered : renderedTexts (some (.mapping entries)) = some (textsOf entries) := rfl
            simp only [rendered, restamp, setMetadataField, found]
            rfl
          · rw [Table.get?_insert_self]
            rfl
      | _ => cases known

/-- A stamp on another field than the annotations leaves two manifests as far apart as they were. -/
theorem apartIn_restamp {field : String} {texts : Option (Table String)}
    {related : Option Json → Option Json → Prop} (beside : field ≠ "annotations")
    (apart : ApartIn "metadata" (ApartIn "annotations" related) (some first) (some second)) :
    ApartIn "metadata" (ApartIn "annotations" related) (some (restamp field texts first))
      (some (restamp field texts second)) := by
  obtain ⟨left, right, sameLeft, sameRight, agree, leftMetadata, rightMetadata, foundLeft, foundRight,
    within, holds⟩ := apart
  cases sameLeft
  cases sameRight
  cases texts with
  | none =>
      exact ⟨left, right, rfl, rfl, agree, leftMetadata, rightMetadata, foundLeft, foundRight, within,
        holds⟩
  | some texts =>
      simp only [restamp, setMetadataField, foundLeft, foundRight]
      refine ⟨_, _, rfl, rfl, ?_, _, _, Table.get?_insert_self _ _ _, Table.get?_insert_self _ _ _, ?_, ?_⟩
      · intro key other
        rw [Table.get?_insert_of_ne other, Table.get?_insert_of_ne other, agree key other]
      · intro key other
        rw [Table.get?_insert, Table.get?_insert, within key other]
      · rw [Table.get?_insert_of_ne (Ne.symm beside), Table.get?_insert_of_ne (Ne.symm beside)]
        exact holds

private theorem ascending_texts {texts : Table String} (ascends : Table.Ascending texts) :
    Table.Ascending (texts.map fun pair => (pair.1, Json.text pair.2)) := by
  unfold Table.Ascending Table.keys
  rw [List.map_map]
  exact ascends

/-- With the annotations of their documents, two manifests differ only in the user and the group that
these name. -/
theorem differInIdentity_restamp {leftOwn rightOwn : Option Yaml.Value}
    {left right : List (Yaml.Value × Yaml.Value)}
    (knownLeft : Yaml.Value.entriesOf? leftOwn = some left)
    (knownRight : Yaml.Value.entriesOf? rightOwn = some right)
    (agree : left.filter (fun entry => !Yaml.Value.isUnder identityKeys entry) =
      right.filter (fun entry => !Yaml.Value.isUnder identityKeys entry))
    (apart : ApartIn "metadata" (ApartIn "annotations" fun leftForm rightForm =>
      Yaml.Value.toJson? leftOwn = .ok leftForm ∧ Yaml.Value.toJson? rightOwn = .ok rightForm)
      (some first) (some second)) :
    DifferInIdentity (restamp "annotations" (renderedTexts leftOwn) first)
      (restamp "annotations" (renderedTexts rightOwn) second) := by
  obtain ⟨leftFields, rightFields, sameLeft, sameRight, outside, leftMetadata, rightMetadata, foundLeft,
    foundRight, within, structuredLeft, structuredRight⟩ := apart
  cases sameLeft
  cases sameRight
  obtain ⟨leftWritten, leftBelow, leftSame, leftOutside, leftFound, leftWithin, leftEntries⟩ :=
    restamp_annotations knownLeft foundLeft structuredLeft
  obtain ⟨rightWritten, rightBelow, rightSame, rightOutside, rightFound, rightWithin, rightEntries⟩ :=
    restamp_annotations knownRight foundRight structuredRight
  have lookup (entries : List (Yaml.Value × Yaml.Value)) (key : String) :
      Table.get? key ((textsOf entries).map fun pair => (pair.1, Json.text pair.2)) =
        (Table.get? key (textsOf entries)).map .text :=
    get?_ofTable key (textsOf entries)
  have isText (entries : List (Yaml.Value × Yaml.Value)) (key : String) : Json.IsTextOrNothing
      (Table.get? key ((textsOf entries).map fun pair => (pair.1, Json.text pair.2))) := by
    rw [lookup]
    cases Table.get? key (textsOf entries) <;> trivial
  rw [leftSame, rightSame]
  refine .inside ?_ ?_
  · intro key other
    rw [leftOutside key other, rightOutside key other, outside key other]
  · rw [leftFound, rightFound]
    refine .inside ?_ (.entries leftEntries rightEntries (ascending_texts (Table.ascending_ofList _))
      (ascending_texts (Table.ascending_ofList _)) ?_ ?_)
    · intro key other
      rw [leftWithin key other, rightWithin key other, within key other]
    · intro key free
      rw [lookup, lookup, get?_textsOf_eq agree free]
    · exact fun key _ => .inr ⟨isText left key, isText right key⟩

private theorem structured_eq (document : Yaml.Value) :
    structured document = document.toJson.map fun object =>
      restamp "annotations"
        (renderedTexts ((document.get? "metadata").bind (Yaml.Value.get? "annotations")))
        (restamp "labels"
          (renderedTexts ((document.get? "metadata").bind (Yaml.Value.get? "labels"))) object) := by
  unfold structured
  cases document.toJson <;> rfl

/-- Two documents that differ only in the user and the group that they name are structured alike. -/
theorem structured_alike {left right : Yaml.Value}
    (differ : Yaml.Value.DifferAt identityKeys ["metadata", "annotations"] (some left) (some right)) :
    Alike DifferInIdentity (structured left) (structured right) := by
  cases differ with
  | same => exact Alike.refl DifferInIdentity.refl _
  | @inside _ _ before after leftMetadata rightMetadata fresh deeper =>
      cases deeper with
      | same => exact Alike.refl DifferInIdentity.refl _
      | @inside _ _ early late leftOwn rightOwn only deepest =>
          cases deepest with
          | same => exact Alike.refl DifferInIdentity.refl _
          | entries knownLeft knownRight agree represented =>
              -- labels are read from both alike, annotations are what differs
              have alike := Yaml.Value.toJson?_inside_alike ⟨by decide, by decide, by decide⟩ fresh
                (Yaml.Value.toJson?_inside_alike ⟨by decide, by decide, by decide⟩ only
                  (Yaml.Value.toJson?_entries_alike knownLeft knownRight agree represented))
              generalize leftDocument : Yaml.Value.mapping (before ++ _) = leftWhole at alike ⊢
              generalize rightDocument : Yaml.Value.mapping (before ++ _) = rightWhole at alike ⊢
              have leftHas : (leftWhole.get? "metadata").bind (Yaml.Value.get? "annotations") =
                  leftOwn := by
                rw [← leftDocument, Yaml.Value.get?_inside_self fresh, Option.bind_some,
                  Yaml.Value.get?_inside_self only]
              have rightHas : (rightWhole.get? "metadata").bind (Yaml.Value.get? "annotations") =
                  rightOwn := by
                rw [← rightDocument, Yaml.Value.get?_inside_self fresh, Option.bind_some,
                  Yaml.Value.get?_inside_self only]
              have labels : (leftWhole.get? "metadata").bind (Yaml.Value.get? "labels") =
                  (rightWhole.get? "metadata").bind (Yaml.Value.get? "labels") := by
                rw [← leftDocument, ← rightDocument, Yaml.Value.get?_inside_self fresh,
                  Yaml.Value.get?_inside_self fresh, Option.bind_some, Option.bind_some]
                exact Yaml.Value.get?_inside_of_ne (by decide)
              rw [structured_eq, structured_eq, leftHas, rightHas, labels]
              exact (Yaml.Value.toJson_alike alike).map fun _ _ apart =>
                differInIdentity_restamp knownLeft knownRight agree (apartIn_restamp (by decide) apart)

end

end GitDelivery.Manifest
