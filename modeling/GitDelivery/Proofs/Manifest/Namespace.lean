import GitDelivery.Proofs.Manifest.Transform
import GitDelivery.Proofs.PackageOverride
import GitDelivery.Proofs.Resource.Decode

set_option autoImplicit false

/-! The namespace of what a subscription deploys. The subscription's own is written in the middle of
the work, and overrides may write another one after that. -/

namespace GitDelivery.Manifest

open Json (at?)

def namespacePath : List String := ["metadata", "namespace"]

section

variable {object : Json} {found : String}

theorem at?_namespacePath (fields : Table Json) :
    at? namespacePath (.object fields) =
      (Table.get? "metadata" fields).bind (Json.get? "namespace") := by
  change (Table.get? "metadata" fields).bind (at? ["namespace"]) = _
  congr 1
  funext metadata
  exact Option.bind_fun_some (metadata.get? "namespace")

/-! ### Marks -/

theorem namespace_setMetadataEntry {field : String} (other : "namespace" ≠ field)
    (key value : String) (object : Json) :
    at? namespacePath (setMetadataEntry field key value object) = at? namespacePath object := by
  cases object with
  | object fields =>
      cases present : Table.get? "metadata" fields with
      | none =>
          simp only [setMetadataEntry, present, Option.getD_none]
          rw [at?_namespacePath, at?_namespacePath, Table.get?_insert_self, present]
          exact Table.get?_insert_of_ne other _ []
      | some metadata =>
          cases metadata with
          | object entries =>
              simp only [setMetadataEntry, present, Option.getD_some]
              rw [at?_namespacePath, at?_namespacePath, Table.get?_insert_self, present]
              exact Table.get?_insert_of_ne other _ entries
          | _ => simp only [setMetadataEntry, present, Option.getD_some]
  | _ => rfl

theorem namespace_annotate (key value : String) (object : Json) :
    at? namespacePath (annotate key value object) = at? namespacePath object :=
  namespace_setMetadataEntry (by decide) key value object

private theorem namespace_mark (subscription : Subscription) (nested : Bool) (object : Json) :
    at? namespacePath (mark subscription nested object) = at? namespacePath object := by
  have deployment : at? namespacePath (markDeployment subscription object) =
      at? namespacePath object := by
    unfold markDeployment
    simp only
    split <;> split <;> simp only [namespace_annotate]
  have application : at? namespacePath
      (markApplication subscription (markDeployment subscription object)) =
        at? namespacePath object := by
    unfold markApplication
    simp only
    split
    · exact deployment
    · rw [namespace_setMetadataEntry (by decide), deployment]
  unfold mark
  cases nested with
  | false => exact application
  | true =>
      simp only [if_true, markIdentity]
      split <;> split <;> simp only [namespace_annotate, application]

/-! ### Placing -/

private theorem namespace_setNamespace (space : String) (object : Json) :
    at? namespacePath (setNamespace space object) =
      if (object.get? "metadata").any Json.isObject then some (.text space) else none := by
  cases object with
  | object fields =>
      change _ = if (Table.get? "metadata" fields).any Json.isObject then some (Json.text space)
        else none
      cases present : Table.get? "metadata" fields with
      | none =>
          simp only [setNamespace, setMetadataField, present]
          rw [at?_namespacePath, present]
          rfl
      | some metadata =>
          cases metadata with
          | object entries =>
              simp only [setNamespace, setMetadataField, present]
              rw [at?_namespacePath, Table.get?_insert_self]
              exact Table.get?_insert_self "namespace" _ entries
          | _ =>
              simp only [setNamespace, setMetadataField, present]
              rw [at?_namespacePath, present]
              rfl
  | _ => rfl

/-- A subscription that may not choose namespaces places everything in its own. -/
theorem namespace_placeInNamespace {subscription : Subscription} {nested : Bool}
    (confined : subscription.isClusterAdmin = true → subscription.isConfined = true) :
    at? namespacePath (placeInNamespace subscription nested object) =
      if (object.get? "metadata").any Json.isObject then some (.text subscription.space)
      else none := by
  rw [← namespace_setNamespace]
  unfold placeInNamespace
  cases admin : subscription.isClusterAdmin with
  | false => rfl
  | true =>
      simp only [confined admin, Bool.or_true, if_true]
      cases nested with
      | false => rfl
      | true => exact namespace_annotate _ _ _

end

/-! ### Reading the object back -/

/-- A namespace that is decoded is the text that is written; nothing is decoded if nothing or null
is. -/
theorem text_of_optional {name : String} {fields : Table Json} {read : Option String}
    (decoded : Decoder.optional Decoder.text name fields = .ok read) :
    read = (Table.get? name fields).bind Json.text? := by
  unfold Decoder.optional at decoded
  cases present : Table.get? name fields with
  | none =>
      rw [present] at decoded
      cases decoded
      rfl
  | some value =>
      rw [present] at decoded
      cases value <;> cases decoded <;> rfl

private theorem metadata_space {value : Json} {metadata : Metadata}
    (decoded : Decoder.metadata value = .ok metadata) :
    metadata.space = (value.get? "namespace").bind Json.text? := by
  unfold Decoder.metadata at decoded
  obtain ⟨fields, shaped, decoded⟩ := except_bind_ok_iff.mp decoded
  have same : value = .object fields := by
    cases value <;> cases shaped
    rfl
  -- The ten fields before the namespace.
  iterate 10 obtain ⟨_, _, decoded⟩ := except_bind_ok_iff.mp decoded
  obtain ⟨space, read, decoded⟩ := except_bind_ok_iff.mp decoded
  iterate 4 obtain ⟨_, _, decoded⟩ := except_bind_ok_iff.mp decoded
  cases decoded
  rw [same]
  exact text_of_optional read

private theorem decoded_space {value : Json} {object : DynamicObject}
    (decoded : DynamicObject.decode value = .ok object) :
    object.metadata.space = (at? namespacePath value).bind Json.text? := by
  unfold DynamicObject.decode at decoded
  obtain ⟨fields, shaped, decoded⟩ := except_bind_ok_iff.mp decoded
  have same : value = .object fields := by
    cases value <;> cases shaped
    rfl
  obtain ⟨metadata, read, decoded⟩ := except_bind_ok_iff.mp decoded
  cases decoded
  rw [same, at?_namespacePath]
  unfold Decoder.defaulted at read
  cases present : Table.get? "metadata" fields with
  | none =>
      rw [present] at read
      cases read
      rfl
  | some inside =>
      rw [present] at read
      exact metadata_space read

/-! ### What is deployed -/

/-- Without the right to choose namespaces, everything that lives in one and is deployed goes to the
subscription's own, unless an override that applies to it puts another one in its place. Metadata
that are missing are not made. -/
theorem deployed_space {given : Given} {isNamespaced : ResourceKind → Bool}
    {subscription : Subscription} {origin : Origin} {item : Deployable}
    (confined : subscription.isClusterAdmin = true → subscription.isConfined = true)
    (emitted : given.transform isNamespaced subscription origin = .ok (.deploy item))
    (namespaced : isNamespaced item.kind = true) :
    ∃ object, given.object? = some object ∧
      (∀ space, item.object.metadata.space = some space → space = subscription.space ∨
        ∃ entry ∈ applicable subscription origin object,
          PackageOverride.Puts namespacePath space entry) ∧
      ((object.get? "metadata").any Json.isObject = true →
        (∀ entry ∈ applicable subscription origin object,
          ¬ PackageOverride.Touches namespacePath entry) →
        item.object.metadata.space = some subscription.space) := by
  obtain ⟨object, shaped, transformed⟩ := given.transform_deploy emitted
  obtain ⟨written, _, overridden, decoded⟩ := transform_deploy transformed
  obtain ⟨count, applied⟩ := applyOverrides_ok overridden
  have placedAt : at? namespacePath (placed isNamespaced subscription item.kind object) =
      if (object.get? "metadata").any Json.isObject then some (.text subscription.space)
      else none := by
    unfold placed
    rw [if_pos namespaced]
    exact namespace_placeInNamespace confined
  have read : item.object.metadata.space = (at? namespacePath written).bind Json.text? := by
    rw [decoded_space decoded, namespace_mark]
  refine ⟨object, shaped, ?_, ?_⟩
  · intro space emittedSpace
    rw [read] at emittedSpace
    have present : at? namespacePath written = some (.text space) := by
      obtain ⟨value, there, isText⟩ := Option.bind_eq_some_iff.mp emittedSpace
      cases value <;> cases isText
      exact there
    rcases PackageOverride.text_at_applyEntries applied present with kept | puts
    · rw [placedAt] at kept
      split at kept
      · cases kept
        exact .inl rfl
      · cases kept
    · exact .inr puts
  · intro isObject untouched
    rw [if_pos isObject] at placedAt
    have kept := PackageOverride.at?_applyEntries_of_untouched applied untouched placedAt
    rw [read, kept]
    rfl

namespace Overridden

/-! A configuration map that an override puts elsewhere, and one that an override only labels. -/

def subscription (overrides : List PackageOverride) : Subscription :=
  { metadata := { name := some "web", space := some "apps" }
    spec := ⟨"repo", none, none, none, overrides, none, none, none, [], []⟩
    status := none }

def toSystem : PackageOverride :=
  { name := "settings"
    displayName := none
    entries := [.object [("path", .text "metadata.namespace"), ("value", .text "kube-system")]] }

def labelled : Json :=
  .object [("path", .text "metadata"),
    ("value", .object [("labels", .object [("tier", .text "front")])])]

def toFront : PackageOverride :=
  { name := "settings", displayName := none, entries := [labelled] }

def manifest : Json :=
  .object [("apiVersion", .text "v1"), ("kind", .text "ConfigMap"),
    ("metadata", .object [("name", .text "settings")])]

def settings (space : String) (labels : List (String × String)) : Deployable :=
  { kind := ⟨"", "v1", "ConfigMap"⟩
    object :=
      { declared := some ("v1", "ConfigMap")
        metadata :=
          { annotations := some [(Vocabulary.reconcileOption, "merge")]
            labels := some ((Vocabulary.partOfLabel, "web") :: labels)
            name := some "settings"
            space := some space }
        others := [] } }

theorem not_clusterAdmin (overrides : List PackageOverride) :
    (subscription overrides).isClusterAdmin = true → (subscription overrides).isConfined = true := by
  intro admin
  cases admin

set_option maxRecDepth 4000 in
private theorem settings_labelled :
    (Given.value manifest).transform (fun _ => true) (subscription [toFront]) .file =
      .ok (.deploy (settings "apps" [("tier", "front")])) :=
  rfl

set_option maxRecDepth 4000 in
private theorem settings_moved :
    (Given.value manifest).transform (fun _ => true) (subscription [toSystem]) .file =
      .ok (.deploy (settings "kube-system" [])) :=
  rfl

private theorem applicable_manifest :
    applicable (subscription [toFront]) .file manifest = [labelled] :=
  rfl

theorem labelled_spares : ¬ PackageOverride.Touches namespacePath labelled := by
  rintro ⟨path, rest, value, ⟨text, given, rfl, assigned⟩, shape, touches⟩
  obtain rfl : "metadata" = text := Option.some.inj given
  obtain rfl : ["namespace"] = rest := List.cons.inj shape |>.2
  obtain rfl := Option.some.inj assigned
  exact touches ⟨rfl, nofun⟩

theorem settings_confined :
    ((subscription [toFront]).isClusterAdmin = true → (subscription [toFront]).isConfined = true) ∧
      applicable (subscription [toFront]) .file manifest = [labelled] ∧
      (Given.value manifest).transform (fun _ => true) (subscription [toFront]) .file =
        .ok (.deploy (settings "apps" [("tier", "front")])) ∧
      (settings "apps" [("tier", "front")]).object.metadata.space =
        some (subscription [toFront]).space := by
  refine ⟨not_clusterAdmin [toFront], applicable_manifest, settings_labelled, ?_⟩
  obtain ⟨object, shaped, _, untouched⟩ :=
    deployed_space (not_clusterAdmin [toFront]) settings_labelled rfl
  obtain rfl : manifest = object := Option.some.inj shaped
  refine untouched rfl ?_
  rw [applicable_manifest]
  intro entry member
  obtain rfl := List.mem_singleton.mp member
  exact labelled_spares

/-- Overrides are laid over what is already in its namespace, so that they can take it out again. -/
theorem not_always_confined :
    ¬ ∀ (given : Given) (isNamespaced : ResourceKind → Bool) (subscription : Subscription)
      (origin : Origin) (item : Deployable),
      (subscription.isClusterAdmin = true → subscription.isConfined = true) →
      given.transform isNamespaced subscription origin = .ok (.deploy item) →
      isNamespaced item.kind = true →
      item.object.metadata.space = some subscription.space := by
  intro always
  have impossible := always (.value manifest) (fun _ => true) (subscription [toSystem]) .file
    (settings "kube-system" []) (not_clusterAdmin [toSystem]) settings_moved rfl
  have different : some "kube-system" ≠ some "apps" := by decide
  exact different impossible

end Overridden

end GitDelivery.Manifest
