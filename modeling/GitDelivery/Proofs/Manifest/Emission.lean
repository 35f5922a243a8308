import GitDelivery.Proofs.Manifest.Structured
import GitDelivery.Proofs.Resource.Decode
import GitDelivery.Proofs.Text

set_option autoImplicit false

/-! What becomes of a manifest that no override names: it is deployed as it is, besides its namespace and
the marks of the subscription. -/

namespace GitDelivery

/-- Group and version are what stands around the first slash; without a slash there is no group. -/
def ResourceKind.IsSplitOf (apiVersion kind : String) (resource : ResourceKind) : Prop :=
  resource.kind = kind ∧
    ((apiVersion = resource.group ++ "/" ++ resource.version ∧ '/' ∉ resource.group.toList) ∨
      ('/' ∉ apiVersion.toList ∧ resource.group = "" ∧ resource.version = apiVersion))

private theorem ResourceKind.ofTexts_isSplitOf (apiVersion kind : String) :
    (ofTexts apiVersion kind).IsSplitOf apiVersion kind := by
  unfold ofTexts Text.splitOnce
  cases cut : Text.cutAt '/' apiVersion.toList with
  | none => exact ⟨rfl, .inr ⟨Text.cutAt_none cut, rfl, rfl⟩⟩
  | some parts =>
      obtain ⟨shape, absent⟩ := Text.cutAt_some cut
      refine ⟨rfl, .inl ⟨?_, by simpa using absent⟩⟩
      apply String.toList_injective
      rw [shape]
      simp

namespace Manifest

section

variable {isNamespaced : ResourceKind → Bool} {subscription : Subscription} {origin : Origin}
  {item : Deployable} {object value : Json}

private theorem get?_of_textAt {field text : String}
    (found : (object.textAt? field).bind Text.nonEmpty? = some text) :
    object.get? field = some (.text text) := by
  obtain ⟨written, read, full⟩ := Option.bind_eq_some_iff.mp found
  obtain ⟨value, there, isText⟩ := Option.bind_eq_some_iff.mp read
  rw [there, nonEmpty_eq full]
  cases value <;> cases isText
  rfl

private theorem declared?_ok {kind : ResourceKind}
    (declared : ResourceKind.declared? object = some kind) :
    ∃ apiVersion name, object.get? "apiVersion" = some (.text apiVersion) ∧
      object.get? "kind" = some (.text name) ∧ kind.IsSplitOf apiVersion name := by
  obtain ⟨apiVersion, version, declared⟩ := Option.bind_eq_some_iff.mp declared
  obtain ⟨name, named, declared⟩ := Option.bind_eq_some_iff.mp declared
  cases declared
  exact ⟨apiVersion, name, get?_of_textAt version, get?_of_textAt named,
    ResourceKind.ofTexts_isSplitOf apiVersion name⟩

/-- The metadata of what is decoded are decoded from the metadata, which are there or empty. -/
theorem decode_metadata {decoded : DynamicObject}
    (read : DynamicObject.decode value = .ok decoded) :
    ∃ metadata, metadataOf? value = some metadata ∧
      Decoder.metadata (.object metadata) = .ok decoded.metadata := by
  obtain ⟨fields, rfl, within, _⟩ := DynamicObject.decode_ok read
  unfold Decoder.defaulted at within
  cases present : Table.get? "metadata" fields with
  | none =>
      rw [present] at within
      rw [← Except.ok.inj within]
      exact ⟨[], by rw [metadataOf?, present]; rfl, rfl⟩
  | some metadata =>
      rw [present] at within
      cases metadata with
      | object entries => exact ⟨entries, by rw [metadataOf?, present]; rfl, within⟩
      | _ => cases within

/-- Rendered subscriptions that ask for cluster admin rights are not deployed. -/
theorem transform_unclaimed
    (emitted : transform isNamespaced subscription .kustomize object = .ok (.deploy item))
    (nested : item.kind.isSubscription = true) : claimsClusterAdmin object = false := by
  have declared := (transform_deploy emitted).choose_spec.1
  unfold transform at emitted
  simp only [declared, nested, bind, Except.bind] at emitted
  cases claimed : claimsClusterAdmin object with
  | false => rfl
  | true =>
      rw [claimed] at emitted
      cases emitted

theorem transform_unnamed
    (emitted : transform isNamespaced subscription origin object = .ok (.deploy item))
    (unnamed : ∀ override ∈ subscription.spec.overrides, override.name ≠ nameOf object) :
    ResourceKind.declared? object = some item.kind ∧
      DynamicObject.decode (mark subscription item.kind.isSubscription
        (placed isNamespaced subscription item.kind object)) = .ok item.object := by
  obtain ⟨written, declared, overridden, decoded⟩ := transform_deploy emitted
  obtain ⟨count, applied⟩ := applyOverrides_ok overridden
  have none : applicable subscription origin object = [] := by
    unfold applicable
    split
    · rfl
    · simpa [PackageOverride.entriesFor] using fun override member same =>
        absurd same (unnamed override member)
  rw [none] at applied
  cases applied
  exact ⟨declared, decoded⟩

/-- What an item is that was made of a document: its kind, its fields and its typed metadata are the
document's, and so are its annotations, its labels and its namespace, up to the marks and the place that
the subscription gave it. -/
structure MadeOf (subscription : Subscription) (origin : Origin) (document : Yaml.Value) (written : Json)
    (item : Deployable) : Prop where
  kind : ∃ apiVersion name, document.get? "apiVersion" = some (.text apiVersion) ∧
    document.get? "kind" = some (.text name) ∧ item.kind.IsSplitOf apiVersion name
  fields : ∀ key, key ≠ "metadata" → item.object.toJson.get? key = written.get? key
  metadata : ∃ own, metadataOf? written = some own ∧
    Decoder.metadata (.object (Table.without ["annotations", "labels", "namespace"] own)) =
      .ok { item.object.metadata with annotations := none, labels := none, space := none }
  annotations : ∀ key, item.object.metadata.annotation? key =
    stamped subscription item.kind.isSubscription (writtenText? "annotations" document) key
  labels : ∀ key, item.object.metadata.label? key =
    labelled subscription (writtenText? "labels" document) key
  unclaimed : origin = .kustomize → item.kind.isSubscription = true →
    subscription.isClusterAdmin = false →
    ∀ text, item.object.metadata.annotation? Vocabulary.clusterAdmin = some text →
      Text.sameIgnoringCase text "true" = false

theorem get?_of_text {document : Yaml.Value} {written : Json} {field text : String}
    (free : document.TagFree) (distinct : document.Distinct)
    (converted : document.toJson = .ok written) (word : Yaml.IsWord field)
    (found : written.get? field = some (.text text)) : document.get? field = some (.text text) := by
  obtain ⟨value, there, below⟩ := (Yaml.Value.get?_toJson_iff word free distinct converted).mp found
  rw [there, (free.field there).eq_text below]

theorem fieldsAscend_toJson {document : Yaml.Value} {written : Json}
    (converted : document.toJson = .ok written) : FieldsAscend written := by
  cases document with
  | mapping entries =>
      obtain ⟨pairs, _, rfl⟩ := Yaml.Value.toJson_mapping converted
      exact Table.ascending_ofList pairs
  | tagged tag value =>
      rw [Yaml.Value.toJson] at converted
      cases below : value.toJson with
      | error failure =>
          rw [below] at converted
          cases converted
      | ok inner =>
          rw [below] at converted
          cases converted
          exact Table.ascending_ofList _
  | sequence items =>
      rw [Yaml.Value.toJson] at converted
      cases below : Yaml.Value.itemsToJson items <;> rw [below] at converted <;> cases converted
      trivial
  | float value =>
      rw [Yaml.Value.toJson, Yaml.Document.jsonOfFloat] at converted
      split at converted <;> cases converted <;> trivial
  | _ =>
      rw [Yaml.Value.toJson] at converted
      cases converted
      trivial

theorem annotation?_eq {metadata : Metadata} {fields : Table Json}
    (shaped : metadataOf? value = some fields)
    (read : Decoder.metadata (.object fields) = .ok metadata) (key : String) :
    metadata.annotation? key = annotationOf? key value := by
  unfold Metadata.annotation?
  rw [annotationOf?_eq, entryAt, metadataAt, shaped, Option.bind_some]
  exact Decoder.get?_optional_table (Decoder.metadata_ok_iff.mp read).1 key

private theorem label?_eq {metadata : Metadata} {fields : Table Json}
    (shaped : metadataOf? value = some fields)
    (read : Decoder.metadata (.object fields) = .ok metadata) (key : String) :
    metadata.label? key = (entryAt "labels" key value).bind Json.text? := by
  obtain ⟨_, _, _, _, _, _, _, labels, _⟩ := Decoder.metadata_ok_iff.mp read
  unfold Metadata.label?
  rw [entryAt, metadataAt, shaped, Option.bind_some]
  exact Decoder.get?_optional_table labels key

/-- Typed metadata other than annotations, labels and the namespace stay when only these are edited. -/
theorem decode_edited {metadata : Metadata} {own fields : Table Json} {before after : Json}
    (edits : EditsMetadata ["annotations", "labels", "namespace"] before after)
    (shapedBefore : metadataOf? before = some own) (shapedAfter : metadataOf? after = some fields)
    (read : Decoder.metadata (.object fields) = .ok metadata) :
    Decoder.metadata (.object (Table.without ["annotations", "labels", "namespace"] own)) =
      .ok { metadata with annotations := none, labels := none, space := none } := by
  have kept (name : String) (other : name ∉ ["annotations", "labels", "namespace"]) :
      Table.get? name (Table.without ["annotations", "labels", "namespace"] own) =
        Table.get? name fields := by
    have same := edits.metadata name other
    rw [metadataAt, metadataAt, shapedBefore, shapedAfter] at same
    rw [Table.get?_without, if_neg other]
    exact same.symm
  have absent (name : String) (edited : name ∈ ["annotations", "labels", "namespace"]) :
      Table.get? name (Table.without ["annotations", "labels", "namespace"] own) = none := by
    rw [Table.get?_without, if_pos edited]
  have untouched {α : Type} (decode : Decoder α) (name : String)
      (other : name ∉ ["annotations", "labels", "namespace"]) {result : Option α}
      (was : Decoder.optional decode name fields = .ok result) :
      Decoder.optional decode name (Table.without ["annotations", "labels", "namespace"] own) =
        .ok result :=
    (Decoder.optional_congr decode (kept name other)).trans was
  have missing {α : Type} (decode : Decoder α) (name : String)
      (edited : name ∈ ["annotations", "labels", "namespace"]) :
      Decoder.optional decode name (Table.without ["annotations", "labels", "namespace"] own) =
        .ok none := by
    rw [Decoder.optional, absent name edited]
  obtain ⟨_, created, grace, deleted, finalizers, generateName, generation, _, managed, name, _,
    owners, version, link, uid⟩ := Decoder.metadata_ok_iff.mp read
  exact Decoder.metadata_ok_iff.mpr ⟨missing _ _ (by decide), untouched _ _ (by decide) created,
    untouched _ _ (by decide) grace, untouched _ _ (by decide) deleted,
    untouched _ _ (by decide) finalizers, untouched _ _ (by decide) generateName,
    untouched _ _ (by decide) generation, missing _ _ (by decide), untouched _ _ (by decide) managed,
    untouched _ _ (by decide) name, missing _ _ (by decide), untouched _ _ (by decide) owners,
    untouched _ _ (by decide) version, untouched _ _ (by decide) link,
    untouched _ _ (by decide) uid⟩

theorem emitted_madeOf {manifest : String} {document : Yaml.Value}
    (parsed : Yaml.parse manifest = .ok document) (free : document.TagFree)
    (unnamed : ∀ override ∈ subscription.spec.overrides, override.name ≠ writtenName document)
    (emitted : transformText isNamespaced subscription origin manifest = .ok (.deploy item)) :
    ∃ written, document.toJson = .ok written ∧
      MadeOf subscription origin document written item := by
  obtain ⟨_, object, again, represented, transformed⟩ := transformText_deploy emitted
  rw [parsed] at again
  cases again
  have distinct := Yaml.distinct_of_parse parsed
  obtain ⟨written, converted, _⟩ := structured_ok represented
  have unnamedObject : ∀ override ∈ subscription.spec.overrides, override.name ≠ nameOf object := by
    rw [nameOf_structured free distinct converted represented]
    exact unnamed
  obtain ⟨declared, decoded⟩ := transform_unnamed transformed unnamedObject
  obtain ⟨fields, shapedFinal, read⟩ := decode_metadata decoded
  -- what is decoded differs from the document's structured form in three fields of the metadata only
  have structuredEdits := edits_structured represented converted
  have placedEdits := edits_placed isNamespaced subscription item.kind object
  have markEdits := edits_mark subscription item.kind.isSubscription
    (placed isNamespaced subscription item.kind object)
  have shapedPlaced : (metadataOf? (placed isNamespaced subscription item.kind object)).isSome =
      true := by
    rw [← markEdits.shaped, shapedFinal]
    rfl
  have shapedObject : (metadataOf? object).isSome = true := placedEdits.shaped.symm.trans shapedPlaced
  obtain ⟨saysAnnotations, saysLabels⟩ :=
    says_structured free distinct converted represented shapedObject
  have edits : EditsMetadata ["annotations", "labels", "namespace"] written
      (mark subscription item.kind.isSubscription
        (placed isNamespaced subscription item.kind object)) :=
    ((structuredEdits.weaken (by simp)).trans (placedEdits.weaken (by simp))).trans
      (markEdits.weaken (by simp))
  have own (key : String) : annotationOf? key object = writtenText? "annotations" document key := by
    rw [annotationOf?_eq]
    exact saysAnnotations.text key
  have annotations (key : String) : item.object.metadata.annotation? key =
      stamped subscription item.kind.isSubscription (writtenText? "annotations" document) key := by
    rw [annotation?_eq shapedFinal read, annotationOf?_mark shapedPlaced]
    refine stamped_congr (fun name other => ?_) key
    rw [annotationOf?_placed isNamespaced subscription item.kind shapedObject other]
    exact own name
  obtain ⟨apiVersion, name, version, named, split⟩ := declared?_ok declared
  refine ⟨written, converted, ⟨apiVersion, name, ?_, ?_, split⟩, ?_, ?_, annotations, ?_, ?_⟩
  · rw [structuredEdits.fields "apiVersion" (by decide)] at version
    exact get?_of_text free distinct converted ⟨by decide, by decide, by decide⟩ version
  · rw [structuredEdits.fields "kind" (by decide)] at named
    exact get?_of_text free distinct converted ⟨by decide, by decide, by decide⟩ named
  · intro key other
    rw [← edits.fields key other]
    have moved : ∀ key, key ≠ "metadata" → (mark subscription item.kind.isSubscription
        (placed isNamespaced subscription item.kind object)).get? key = object.get? key :=
      fun key other => (markEdits.fields key other).trans (placedEdits.fields key other)
    have ordered := edits.ascends (fieldsAscend_toJson converted)
    obtain ⟨fields, isObject, _⟩ := DynamicObject.decode_ok decoded
    rw [isObject] at decoded ordered moved ⊢
    exact DynamicObject.get?_toJson decoded ordered ((moved _ (by decide)).trans version)
      ((moved _ (by decide)).trans named) other
  · obtain ⟨own, shapedOwn⟩ := Option.isSome_iff_exists.mp (edits.shaped.symm.trans
      (by rw [shapedFinal]; rfl))
    exact ⟨own, shapedOwn, decode_edited edits shapedOwn shapedFinal read⟩
  · intro key
    have saysPlaced : Says (writtenText? "labels" document)
        (metadataAt "labels" (placed isNamespaced subscription item.kind object)) := by
      rw [placedEdits.metadata "labels" (by decide)]
      exact saysLabels
    rw [label?_eq shapedFinal read, entryAt_mark shapedPlaced saysPlaced]
    cases labelled subscription (writtenText? "labels" document) key <;> rfl
  · rintro rfl nested plain text present
    have unclaimed := transform_unclaimed transformed nested
    rw [annotations, stamped, if_pos rfl, plain, if_neg Bool.false_ne_true, ← own] at present
    rw [claimsClusterAdmin, present] at unclaimed
    exact unclaimed

end

namespace ReadyMap

/-! A configuration map with an annotation that is no text. -/

def manifest : String :=
  "\x7b'apiVersion': 'v1', 'kind': 'ConfigMap', 'metadata': \x7b'annotations': \x7b'ready': true\x7d\x7d\x7d"

def document : Yaml.Value :=
  .mapping [(.text "apiVersion", .text "v1"), (.text "kind", .text "ConfigMap"),
    (.text "metadata", .mapping [(.text "annotations", .mapping [(.text "ready", .bool true)])])]

def subscription : Subscription :=
  { metadata := { name := some "web", space := some "apps" }
    spec := ⟨"repo", none, none, none, [⟨"settings", none, [.null]⟩], none, none, none, [], []⟩
    status := none }

def item : Deployable :=
  { kind := ⟨"", "v1", "ConfigMap"⟩
    object :=
      { declared := some ("v1", "ConfigMap")
        metadata :=
          { annotations := some [(Vocabulary.reconcileOption, "merge"), ("ready", "true")]
            labels := some [(Vocabulary.partOfLabel, "web")]
            space := some "apps" }
        others := [] } }

set_option maxRecDepth 16000 in
theorem parsed : Yaml.parse manifest = .ok document := by
  have lexed : Yaml.tokens manifest = .ok (Yaml.braced [("apiVersion", Yaml.quoted "v1"),
      ("kind", Yaml.quoted "ConfigMap"),
      ("metadata", Yaml.braced [("annotations", Yaml.braced [("ready", [.scalar "true" true])])])]) := by
    decide +kernel
  unfold Yaml.parse Yaml.Document.ofText
  rw [lexed]
  rfl

private theorem unnamed :
    ∀ override ∈ subscription.spec.overrides, override.name ≠ writtenName document := by
  intro override member
  obtain rfl : override = ⟨"settings", none, [.null]⟩ := List.mem_singleton.mp member
  decide

set_option maxRecDepth 4000 in
private theorem emitted : transformText (fun _ => true) subscription .kustomize manifest =
    .ok (.deploy item) := by
  unfold transformText
  rw [parsed]
  rfl

theorem item_madeOf : Yaml.parse manifest = .ok document ∧ document.TagFree ∧
    (∀ override ∈ subscription.spec.overrides, override.name ≠ writtenName document) ∧
    transformText (fun _ => true) subscription .kustomize manifest = .ok (.deploy item) ∧
    ∃ written, document.toJson = .ok written ∧
      MadeOf subscription .kustomize document written item := by
  have free : document.TagFree := by decide
  exact ⟨parsed, free, unnamed, emitted, emitted_madeOf parsed free unnamed emitted⟩

end ReadyMap

end Manifest

end GitDelivery
