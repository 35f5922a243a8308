import GitDelivery.Proofs.Manifest.Marks
import GitDelivery.Proofs.Yaml.Fields

set_option autoImplicit false

/-! The structured form of a document without tags: its labels and annotations say what the document
says, and everything else is as the document has it. -/

namespace GitDelivery.Manifest

variable {document : Yaml.Value} {object written : Json} {field key : String}

/-- What labels or annotations of a document say under a key: of the entries with that key the last one,
scalars as text and other values as an empty one. -/
def writtenText? (field : String) (document : Yaml.Value) (key : String) : Option String :=
  let entries := (((document.get? "metadata").bind (Yaml.Value.get? field)).bind
    Yaml.Value.entries?).getD []
  (entries.reverse.find? fun entry => entry.1.scalarText? = some key).map fun entry =>
    entry.2.scalarText?.getD ""

def writtenName (document : Yaml.Value) : String :=
  (((document.get? "metadata").bind (Yaml.Value.get? "name")).bind Yaml.Value.text?).getD ""

theorem find?_rendered (entries : List (Yaml.Value × Yaml.Value)) (key : String) :
    ((entries.filterMap fun entry => entry.1.scalarText?.map fun name =>
        (name, entry.2.scalarText?.getD "")).find? fun pair => pair.1 = key).map Prod.snd =
      (entries.find? fun entry => entry.1.scalarText? = some key).map fun entry =>
        entry.2.scalarText?.getD "" := by
  induction entries with
  | nil => rfl
  | cons entry rest ih =>
      cases scalar : entry.1.scalarText? with
      | none => simpa [scalar] using ih
      | some name =>
          by_cases same : name = key
          · simp [scalar, same]
          · simpa [scalar, same] using ih

private theorem get?_renderedTexts {texts : Table String}
    (rendered : renderedTexts ((document.get? "metadata").bind (Yaml.Value.get? field)) = some texts)
    (key : String) : Table.get? key texts = writtenText? field document key := by
  obtain ⟨entries, known, same⟩ := Option.map_eq_some_iff.mp rendered
  subst same
  unfold writtenText?
  rw [known, Table.get?_ofList, ← List.filterMap_reverse]
  exact find?_rendered entries.reverse key

theorem structured_ok (represented : structured document = .ok object) :
    ∃ written, document.toJson = .ok written ∧
      object = restamp "annotations"
        (renderedTexts ((document.get? "metadata").bind (Yaml.Value.get? "annotations")))
        (restamp "labels"
          (renderedTexts ((document.get? "metadata").bind (Yaml.Value.get? "labels"))) written) := by
  unfold structured at represented
  cases converted : document.toJson with
  | error failure =>
      rw [converted] at represented
      cases represented
  | ok written =>
      rw [converted] at represented
      cases represented
      exact ⟨written, rfl, rfl⟩

theorem edits_restamp (field : String) (texts : Option (Table String)) (object : Json) :
    EditsMetadata [field] object (restamp field texts object) := by
  cases texts with
  | none => exact .refl _ object
  | some texts => exact edits_setMetadataField field _ object

theorem edits_structured (represented : structured document = .ok object)
    (converted : document.toJson = .ok written) :
    EditsMetadata ["annotations", "labels"] written object := by
  obtain ⟨_, same, rfl⟩ := structured_ok represented
  rw [converted] at same
  cases same
  exact ((edits_restamp "labels" _ written).weaken (by simp)).trans
    ((edits_restamp "annotations" _ _).weaken (by simp))

section

variable (free : document.TagFree) (distinct : document.Distinct)
  (converted : document.toJson = .ok written)

include free distinct converted

theorem metadataAt_toJson (word : Yaml.IsWord field) :
    metadataAt field written =
      ((document.get? "metadata").bind (Yaml.Value.get? field)).bind fun found =>
        found.toJson.toOption := by
  have isWord : Yaml.IsWord "metadata" := ⟨by decide, by decide, by decide⟩
  rw [← bind_get?_metadata, Yaml.Value.get?_toJson isWord free distinct converted,
    Option.bind_assoc, Option.bind_assoc]
  refine Option.bind_congr fun metadata present => ?_
  obtain ⟨inner, below⟩ := free.toJson_field converted present
  rw [below]
  exact Yaml.Value.get?_toJson word (free.field present) (distinct.field free present) below

/-- Where a document has no entries, its structured form has none. -/
theorem fields?_metadataAt_toJson (word : Yaml.IsWord field)
    (none : ((document.get? "metadata").bind (Yaml.Value.get? field)).bind Yaml.Value.entries? =
      .none) :
    (metadataAt field written).bind Json.fields? = .none := by
  rw [metadataAt_toJson free distinct converted word]
  cases present : (document.get? "metadata").bind (Yaml.Value.get? field) with
  | none => rfl
  | some found =>
      obtain ⟨metadata, above, there⟩ := Option.bind_eq_some_iff.mp present
      have foundFree := (free.field above).field there
      rw [Option.bind_some]
      cases below : found.toJson with
      | error failure => rfl
      | ok inner =>
          cases inner with
          | object fields =>
              obtain ⟨entries, rfl⟩ := foundFree.mapping_of_object below
              rw [present] at none
              cases none
          | _ => rfl

theorem says_restamp {value : Json} (word : Yaml.IsWord field)
    (shaped : (metadataOf? value).isSome = true)
    (present : (document.get? "metadata").isSome = true → (value.get? "metadata").isSome = true)
    (same : metadataAt field value = metadataAt field written) :
    Says (writtenText? field document) (metadataAt field (restamp field
      (renderedTexts ((document.get? "metadata").bind (Yaml.Value.get? field))) value)) := by
  cases rendered : renderedTexts ((document.get? "metadata").bind (Yaml.Value.get? field)) with
  | none =>
      have noEntries : ((document.get? "metadata").bind (Yaml.Value.get? field)).bind
          Yaml.Value.entries? = none := Option.map_eq_none_iff.mp rendered
      refine .nothing ?_ ?_
      · change (metadataAt field value).bind Json.fields? = none
        rw [same]
        exact fields?_metadataAt_toJson free distinct converted word noEntries
      · intro key
        unfold writtenText?
        rw [noEntries]
        rfl
  | some texts =>
      obtain ⟨entries, known, _⟩ := Option.map_eq_some_iff.mp rendered
      obtain ⟨found, there, _⟩ := Option.bind_eq_some_iff.mp known
      obtain ⟨metadata, above, _⟩ := Option.bind_eq_some_iff.mp there
      obtain ⟨table, tables⟩ := Option.isSome_iff_exists.mp shaped
      have stamped : metadataAt field (restamp field (some texts) value) =
          some (Json.ofTable .text texts) := by
        unfold metadataAt restamp
        rw [metadataOf?_setMetadataField, if_pos (present (by rw [above]; rfl)), tables]
        exact Table.get?_insert_self field _ table
      rw [stamped]
      exact .texts fun key => get?_renderedTexts rendered key

/-- Labels and annotations of the structured form say what the document says. -/
theorem says_structured (represented : structured document = .ok object)
    (shaped : (metadataOf? object).isSome = true) :
    Says (writtenText? "annotations" document) (metadataAt "annotations" object) ∧
      Says (writtenText? "labels" document) (metadataAt "labels" object) := by
  have edits := edits_structured represented converted
  obtain ⟨_, again, same⟩ := structured_ok represented
  rw [converted] at again
  cases again
  have isWord : Yaml.IsWord "metadata" := ⟨by decide, by decide, by decide⟩
  have labelled := edits_restamp "labels"
    (renderedTexts ((document.get? "metadata").bind (Yaml.Value.get? "labels"))) written
  have annotated := edits_restamp "annotations"
    (renderedTexts ((document.get? "metadata").bind (Yaml.Value.get? "annotations")))
    (restamp "labels"
      (renderedTexts ((document.get? "metadata").bind (Yaml.Value.get? "labels"))) written)
  have shapedWritten : (metadataOf? written).isSome = true := edits.shaped.symm.trans shaped
  have present : (document.get? "metadata").isSome = true → (written.get? "metadata").isSome = true := by
    intro given
    obtain ⟨metadata, above⟩ := Option.isSome_iff_exists.mp given
    obtain ⟨inner, below⟩ := free.toJson_field converted above
    rw [Yaml.Value.get?_toJson isWord free distinct converted, above, Option.bind_some, below]
    rfl
  rw [same]
  constructor
  · exact says_restamp free distinct converted ⟨by decide, by decide, by decide⟩
      (labelled.shaped.trans shapedWritten) (fun given => labelled.kept (present given))
      (labelled.metadata "annotations" (by decide))
  · rw [annotated.metadata "labels" (by decide)]
    exact says_restamp free distinct converted ⟨by decide, by decide, by decide⟩ shapedWritten
      present rfl

theorem nameOf_structured (represented : structured document = .ok object) :
    nameOf object = writtenName document := by
  have edits := edits_structured represented converted
  rw [nameOf_eq, edits.metadata "name" (by decide),
    metadataAt_toJson free distinct converted ⟨by decide, by decide, by decide⟩]
  unfold writtenName
  congr 1
  rw [Option.bind_assoc]
  refine Option.bind_congr fun found present => ?_
  obtain ⟨metadata, above, there⟩ := Option.bind_eq_some_iff.mp present
  obtain ⟨inner, within⟩ := free.toJson_field converted above
  obtain ⟨name, below⟩ := (free.field above).toJson_field within there
  rw [below]
  exact ((free.field above).field there).text?_toJson below

end

end GitDelivery.Manifest
