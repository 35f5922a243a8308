import GitDelivery.Manifest.Transform
import GitDelivery.Proofs.Table

set_option autoImplicit false

/-! The metadata of a value while it is worked on. Every step that marks a value writes single entries
of labels or annotations, or the namespace, and leaves everything else alone. -/

namespace GitDelivery.Manifest

/-- The metadata of an object. Metadata that are missing are empty, and there are none if something
else stands in their place. -/
def metadataOf? : Json → Option (Table Json)
  | .object fields => ((Table.get? "metadata" fields).getD (.object [])).fields?
  | _ => none

def metadataAt (field : String) (object : Json) : Option Json :=
  (metadataOf? object).bind (Table.get? field)

def entryAt (field key : String) (object : Json) : Option Json :=
  (metadataAt field object).bind (Json.get? key)

def FieldsAscend : Json → Prop
  | .object fields => Table.Ascending fields
  | _ => True

variable {object : Json} {field key value : String}

theorem bind_get?_metadata (field : String) (object : Json) :
    (object.get? "metadata").bind (Json.get? field) = metadataAt field object := by
  unfold metadataAt
  cases object with
  | object fields =>
      change (Table.get? "metadata" fields).bind (Json.get? field) =
        ((Table.get? "metadata" fields).getD (.object [])).fields?.bind (Table.get? field)
      cases Table.get? "metadata" fields with
      | none => rfl
      | some metadata => cases metadata <;> rfl
  | _ => rfl

theorem annotationOf?_eq (key : String) (object : Json) :
    annotationOf? key object = (entryAt "annotations" key object).bind Json.text? := by
  unfold annotationOf? entryAt
  rw [bind_get?_metadata, Option.bind_assoc]
  rfl

theorem nameOf_eq (object : Json) :
    nameOf object = ((metadataAt "name" object).bind Json.text?).getD "" := by
  unfold nameOf metadataText?
  rw [← bind_get?_metadata, Option.bind_assoc]
  rfl

/-! ### Writing an entry -/

theorem metadataOf?_setMetadataEntry (field key value : String) (object : Json) :
    metadataOf? (setMetadataEntry field key value object) =
      (metadataOf? object).map fun metadata => Table.insert field
        (.object (Table.insert key (.text value)
          (((Table.get? field metadata).bind Json.fields?).getD []))) metadata := by
  cases object with
  | object fields =>
      unfold setMetadataEntry metadataOf?
      dsimp only
      cases known : (Table.get? "metadata" fields).getD (.object []) with
      | object metadata =>
          dsimp only
          rw [Table.get?_insert_self]
          rfl
      | _ =>
          dsimp only
          rw [known]
          rfl
  | _ => rfl

theorem metadataAt_setMetadataEntry {other : String} (different : other ≠ field) :
    metadataAt other (setMetadataEntry field key value object) = metadataAt other object := by
  unfold metadataAt
  rw [metadataOf?_setMetadataEntry]
  cases metadataOf? object with
  | none => rfl
  | some metadata => exact Table.get?_insert_of_ne different _ metadata

/-- An entry that is written is there if the object has metadata, and all other entries stay. -/
theorem entryAt_setMetadataEntry (shaped : (metadataOf? object).isSome = true) (other name : String) :
    entryAt other name (setMetadataEntry field key value object) =
      if other = field ∧ name = key then some (.text value) else entryAt other name object := by
  unfold entryAt
  by_cases sameField : other = field
  · subst sameField
    unfold metadataAt
    rw [metadataOf?_setMetadataEntry]
    cases known : metadataOf? object with
    | none => simp [known] at shaped
    | some metadata =>
        simp only [Option.map_some, Option.bind_some, Table.get?_insert_self, Json.get?,
          Table.get?_insert, true_and]
        split
        · rfl
        · cases Table.get? other metadata with
          | none => rfl
          | some entries => cases entries <;> rfl
  · rw [metadataAt_setMetadataEntry sameField]
    simp [sameField]

private theorem isSome_setMetadataEntry :
    (metadataOf? (setMetadataEntry field key value object)).isSome = (metadataOf? object).isSome := by
  rw [metadataOf?_setMetadataEntry, Option.isSome_map]

private theorem get?_setMetadataEntry {other : String} (different : other ≠ "metadata") :
    (setMetadataEntry field key value object).get? other = object.get? other := by
  cases object with
  | object fields =>
      unfold setMetadataEntry
      dsimp only
      split
      · exact Table.get?_insert_of_ne different _ fields
      · rfl
  | _ => rfl

private theorem isSome_get?_setMetadataEntry (present : (object.get? "metadata").isSome = true) :
    ((setMetadataEntry field key value object).get? "metadata").isSome = true := by
  cases object with
  | object fields =>
      unfold setMetadataEntry
      dsimp only
      split
      · change (Table.get? "metadata" (Table.insert _ _ _)).isSome = true
        rw [Table.get?_insert_self]
        rfl
      · exact present
  | _ => cases present

private theorem ascending_setMetadataEntry (ascends : FieldsAscend object) :
    FieldsAscend (setMetadataEntry field key value object) := by
  cases object with
  | object fields =>
      unfold setMetadataEntry
      dsimp only
      split
      · exact Table.Ascending.insert ascends
      · exact ascends
  | _ => trivial

/-! ### Writing a field -/

theorem metadataOf?_setMetadataField (field : String) (value object : Json) :
    metadataOf? (setMetadataField field value object) =
      if (object.get? "metadata").isSome then (metadataOf? object).map (Table.insert field value)
      else metadataOf? object := by
  cases object with
  | object fields =>
      unfold setMetadataField metadataOf?
      change _ = if (Table.get? "metadata" fields).isSome then _ else _
      dsimp only
      cases known : Table.get? "metadata" fields with
      | none => simp [known]
      | some metadata =>
          cases metadata with
          | object entries =>
              simp [Table.get?_insert_self]
              rfl
          | _ =>
              dsimp only
              rw [known]
              rfl
  | _ => rfl

private theorem metadataAt_setMetadataField {other : String} {value : Json}
    (different : other ≠ field) :
    metadataAt other (setMetadataField field value object) = metadataAt other object := by
  unfold metadataAt
  rw [metadataOf?_setMetadataField]
  split
  · cases metadataOf? object with
    | none => rfl
    | some metadata => exact Table.get?_insert_of_ne different _ metadata
  · rfl

private theorem isSome_setMetadataField {value : Json} :
    (metadataOf? (setMetadataField field value object)).isSome = (metadataOf? object).isSome := by
  rw [metadataOf?_setMetadataField]
  split
  · rw [Option.isSome_map]
  · rfl

private theorem get?_setMetadataField {other : String} {value : Json}
    (different : other ≠ "metadata") :
    (setMetadataField field value object).get? other = object.get? other := by
  cases object with
  | object fields =>
      unfold setMetadataField
      dsimp only
      split
      · exact Table.get?_insert_of_ne different _ fields
      · rfl
  | _ => rfl

private theorem isSome_get?_setMetadataField {value : Json}
    (present : (object.get? "metadata").isSome = true) :
    ((setMetadataField field value object).get? "metadata").isSome = true := by
  cases object with
  | object fields =>
      unfold setMetadataField
      dsimp only
      split
      · change (Table.get? "metadata" (Table.insert _ _ _)).isSome = true
        rw [Table.get?_insert_self]
        rfl
      · exact present
  | _ => cases present

private theorem ascending_setMetadataField {value : Json} (ascends : FieldsAscend object) :
    FieldsAscend (setMetadataField field value object) := by
  cases object with
  | object fields =>
      unfold setMetadataField
      dsimp only
      split
      · exact Table.Ascending.insert ascends
      · exact ascends
  | _ => trivial

/-! ### Edits of metadata -/

/-- From one value to another only the metadata change, and of these only some fields. Metadata are not
taken away, do not become something else, and nothing else becomes metadata. -/
structure EditsMetadata (edited : List String) (before after : Json) : Prop where
  shaped : (metadataOf? after).isSome = (metadataOf? before).isSome
  kept : (before.get? "metadata").isSome = true → (after.get? "metadata").isSome = true
  ascends : FieldsAscend before → FieldsAscend after
  fields : ∀ key, key ≠ "metadata" → after.get? key = before.get? key
  metadata : ∀ field, field ∉ edited → metadataAt field after = metadataAt field before

namespace EditsMetadata

variable {edited first second : List String} {before middle after : Json}

theorem refl (edited : List String) (object : Json) : EditsMetadata edited object object :=
  ⟨rfl, id, id, fun _ _ => rfl, fun _ _ => rfl⟩

theorem trans (earlier : EditsMetadata edited before middle)
    (later : EditsMetadata edited middle after) : EditsMetadata edited before after where
  shaped := later.shaped.trans earlier.shaped
  kept := fun present => later.kept (earlier.kept present)
  ascends := fun ordered => later.ascends (earlier.ascends ordered)
  fields := fun key other => (later.fields key other).trans (earlier.fields key other)
  metadata := fun field other => (later.metadata field other).trans (earlier.metadata field other)

theorem weaken (edits : EditsMetadata first before after) (wider : ∀ field ∈ first, field ∈ second) :
    EditsMetadata second before after where
  shaped := edits.shaped
  kept := edits.kept
  ascends := edits.ascends
  fields := edits.fields
  metadata := fun field other => edits.metadata field fun member => other (wider field member)

theorem entryAt_eq (edits : EditsMetadata edited before after) {field : String}
    (other : field ∉ edited) (key : String) : entryAt field key after = entryAt field key before := by
  unfold entryAt
  rw [edits.metadata field other]

end EditsMetadata

theorem edits_setMetadataEntry (field key value : String) (object : Json) :
    EditsMetadata [field] object (setMetadataEntry field key value object) where
  shaped := isSome_setMetadataEntry
  kept := isSome_get?_setMetadataEntry
  ascends := ascending_setMetadataEntry
  fields := fun _ other => get?_setMetadataEntry other
  metadata := fun _ other => metadataAt_setMetadataEntry fun same => other (by simp [same])

theorem edits_setMetadataField (field : String) (value object : Json) :
    EditsMetadata [field] object (setMetadataField field value object) where
  shaped := isSome_setMetadataField
  kept := isSome_get?_setMetadataField
  ascends := ascending_setMetadataField
  fields := fun _ other => get?_setMetadataField other
  metadata := fun _ other => metadataAt_setMetadataField fun same => other (by simp [same])

end GitDelivery.Manifest
