import GitDelivery.Proofs.Json.Difference
import GitDelivery.Proofs.Resource.Decode

set_option autoImplicit false

/-! Reading two objects that differ in some annotations only: either both are read or both fail in the
same way, and what is read differs in these annotations only. -/

namespace GitDelivery

open Json (Alike DifferAt IsTextOrNothing)

structure DynamicObject.SameBut (keys : List String) (first second : DynamicObject) : Prop where
  declared : first.declared = second.declared
  others : ∀ key, Table.get? key first.others = Table.get? key second.others
  metadata : { first.metadata with annotations := none } = { second.metadata with annotations := none }
  annotations : ∀ key, key ∉ keys →
    first.metadata.annotation? key = second.metadata.annotation? key

theorem DynamicObject.SameBut.refl (keys : List String) (object : DynamicObject) :
    SameBut keys object object :=
  ⟨rfl, fun _ => rfl, rfl, fun _ _ => rfl⟩

namespace Decoder

variable {keys : List String} {left right fields : Table Json}

def AllTexts (fields : Table Json) : Prop :=
  ∀ field ∈ fields, ∃ text, field.2 = .text text

private theorem eachField_ok_of_texts (texts : AllTexts fields) :
    ∃ table, eachField text fields = .ok table := by
  induction fields with
  | nil => exact ⟨[], rfl⟩
  | cons field rest ih =>
      obtain ⟨key, value⟩ := field
      obtain ⟨written, isText⟩ := texts _ List.mem_cons_self
      obtain ⟨table, others⟩ := ih fun other member => texts other (List.mem_cons_of_mem _ member)
      cases isText
      exact ⟨(key, written) :: table, by rw [eachField, others]; rfl⟩

private theorem eachField_error_of_not_texts (broken : ¬ AllTexts fields) :
    eachField text fields = .error (.expected "text") := by
  induction fields with
  | nil => exact absurd (fun field member => by cases member) broken
  | cons field rest ih =>
      obtain ⟨key, value⟩ := field
      cases value with
      | text written =>
          have later : ¬ AllTexts rest := by
            intro texts
            refine broken fun other member => ?_
            rcases List.mem_cons.mp member with rfl | member
            · exact ⟨written, rfl⟩
            · exact texts other member
          rw [eachField, ih later]
          rfl
      | _ => rfl

theorem allTexts_of_differ (ascendsRight : Table.Ascending right) (ascendsLeft : Table.Ascending left)
    (agree : ∀ key, key ∉ keys → Table.get? key left = Table.get? key right)
    (differ : ∀ key ∈ keys, Table.get? key left = Table.get? key right ∨
      (IsTextOrNothing (Table.get? key left) ∧ IsTextOrNothing (Table.get? key right)))
    (texts : AllTexts left) : AllTexts right := by
  intro field member
  obtain ⟨key, value⟩ := field
  have found := ascendsRight.mem_iff_get?.mp member
  have fromLeft (same : Table.get? key left = Table.get? key right) : ∃ text, value = .text text := by
    rw [found] at same
    exact texts _ (ascendsLeft.mem_iff_get?.mpr same)
  by_cases listed : key ∈ keys
  · rcases differ key listed with same | ⟨_, plain⟩
    · exact fromLeft same
    · rw [found] at plain
      cases value with
      | text text => exact ⟨text, rfl⟩
      | _ => cases plain
  · exact fromLeft (agree key listed)

theorem optional_entries {name : String} {entries : Table Json}
    (known : Json.entriesOf? (Table.get? name fields) = some entries) :
    (AllTexts entries → ∃ read, optional (table text) name fields = .ok read ∧
      ∀ key, read.bind (Table.get? key) = (Table.get? key entries).bind Json.text?) ∧
    (¬ AllTexts entries → optional (table text) name fields = .error (.expected "text")) := by
  unfold optional
  cases present : Table.get? name fields with
  | none =>
      rw [present] at known
      cases known
      exact ⟨fun _ => ⟨none, rfl, fun _ => rfl⟩, fun broken =>
        absurd (fun field member => by cases member) broken⟩
  | some value =>
      rw [present] at known
      cases value with
      | object inner =>
          obtain rfl : inner = entries := Option.some.inj known
          constructor
          · intro texts
            obtain ⟨read, each⟩ := eachField_ok_of_texts texts
            exact ⟨some read, by simp [table, each, Except.map], fun key => get?_eachField each key⟩
          · intro broken
            simp [table, eachField_error_of_not_texts broken, Except.map]
      | _ => cases known

theorem optional_annotations_alike
    (differ : DifferAt keys [] (Table.get? "annotations" left) (Table.get? "annotations" right)) :
    Alike (fun first second => ∀ key, key ∉ keys →
        first.bind (Table.get? key) = second.bind (Table.get? key))
      (optional (table text) "annotations" left) (optional (table text) "annotations" right) := by
  generalize foundLeft : Table.get? "annotations" left = first at differ
  generalize foundRight : Table.get? "annotations" right = second at differ
  cases differ with
  | same path value =>
      rw [optional_congr (table text) (foundLeft.trans foundRight.symm)]
      exact Alike.refl (fun _ _ _ => rfl) _
  | @entries _ _ leftEntries rightEntries knownLeft knownRight ascendsLeft ascendsRight agree differ =>
      rw [← foundLeft] at knownLeft
      rw [← foundRight] at knownRight
      obtain ⟨leftReads, leftFails⟩ := optional_entries knownLeft
      obtain ⟨rightReads, rightFails⟩ := optional_entries knownRight
      by_cases texts : AllTexts leftEntries
      · obtain ⟨read, ok, readAt⟩ := leftReads texts
        obtain ⟨other, otherOk, otherAt⟩ :=
          rightReads (allTexts_of_differ ascendsRight ascendsLeft agree differ texts)
        rw [ok, otherOk]
        refine .ok fun key free => ?_
        rw [readAt, otherAt, agree key free]
      · have broken : ¬ AllTexts rightEntries := by
          intro rightTexts
          refine texts (allTexts_of_differ ascendsLeft ascendsRight
            (fun key free => (agree key free).symm) (fun key member => ?_) rightTexts)
          rcases differ key member with same | ⟨leftPlain, rightPlain⟩
          · exact .inl same.symm
          · exact .inr ⟨rightPlain, leftPlain⟩
        rw [leftFails texts, rightFails broken]
        exact .error _

/-- Annotations are read first, and nothing else that is read depends on them. -/
theorem metadata_annotations {annotations : Option (Table String)}
    (read : optional (table text) "annotations" fields = .ok annotations) :
    Decoder.metadata (.object fields) =
      (Decoder.metadata (.object (Table.without ["annotations"] fields))).map fun metadata =>
        { metadata with annotations := annotations } := by
  have others {α : Type} (decode : Decoder α) (name : String) (other : name ∉ ["annotations"]) :
      optional decode name (Table.without ["annotations"] fields) = optional decode name fields := by
    refine optional_congr decode ?_
    rw [Table.get?_without, if_neg other]
  have none : optional (table text) "annotations" (Table.without ["annotations"] fields) =
      .ok none := by
    rw [optional, Table.get?_without, if_pos List.mem_cons_self]
  unfold Decoder.metadata
  simp only [Decoder.fields, except_ok_bind, except_map_bind, read, none,
    others _ "creationTimestamp" (by decide),
    others _ "deletionGracePeriodSeconds" (by decide), others _ "deletionTimestamp" (by decide),
    others _ "finalizers" (by decide), others _ "generateName" (by decide),
    others _ "generation" (by decide), others _ "labels" (by decide),
    others _ "managedFields" (by decide), others _ "name" (by decide),
    others _ "namespace" (by decide), others _ "ownerReferences" (by decide),
    others _ "resourceVersion" (by decide), others _ "selfLink" (by decide),
    others _ "uid" (by decide)]
  rfl

private theorem metadata_error {failure : DecodeError}
    (failed : optional (table text) "annotations" fields = .error failure) :
    Decoder.metadata (.object fields) = .error failure := by
  simp only [Decoder.metadata, Decoder.fields, failed, bind, Except.bind]

private theorem metadata_congr (same : ∀ name, Table.get? name left = Table.get? name right) :
    Decoder.metadata (.object left) = Decoder.metadata (.object right) := by
  have reads {α : Type} (decode : Decoder α) (name : String) :
      optional decode name left = optional decode name right :=
    optional_congr decode (same name)
  unfold Decoder.metadata
  simp only [Decoder.fields, except_ok_bind, reads]

theorem metadata_alike
    (agree : ∀ name, name ≠ "annotations" → Table.get? name left = Table.get? name right)
    (differ : DifferAt keys [] (Table.get? "annotations" left) (Table.get? "annotations" right)) :
    Alike (fun first second : Metadata =>
        { first with annotations := none } = { second with annotations := none } ∧
          ∀ key, key ∉ keys → first.annotation? key = second.annotation? key)
      (Decoder.metadata (.object left)) (Decoder.metadata (.object right)) := by
  have others : Decoder.metadata (.object (Table.without ["annotations"] left)) =
      Decoder.metadata (.object (Table.without ["annotations"] right)) := by
    refine metadata_congr fun name => ?_
    rw [Table.get?_without, Table.get?_without]
    split
    · rfl
    · next other => exact agree name fun same => other (by simp [same])
  have annotations := optional_annotations_alike differ
  revert annotations
  generalize first : optional (table text) "annotations" left = readLeft
  generalize second : optional (table text) "annotations" right = readRight
  intro annotations
  cases annotations with
  | error failure =>
      rw [metadata_error first, metadata_error second]
      exact .error failure
  | ok known =>
      rw [metadata_annotations first, metadata_annotations second, others]
      refine (Alike.refl (fun _ => rfl) _).map ?_
      rintro metadata _ rfl
      exact ⟨rfl, known⟩

end Decoder

namespace DynamicObject

variable {keys : List String} {left right : Table Json}

private theorem decode_object (fields : Table Json) :
    decode (.object fields) =
      (Decoder.defaulted {} .metadata "metadata" fields).map fun metadata =>
        { declared := (declaration (Table.without ["metadata"] fields)).1
          metadata := metadata
          others := (declaration (Table.without ["metadata"] fields)).2 } := by
  unfold decode
  rw [Decoder.fields, except_ok_bind]
  cases Decoder.defaulted {} .metadata "metadata" fields <;> rfl

private theorem declaration_congr (same : ∀ key, Table.get? key left = Table.get? key right) :
    (declaration left).1 = (declaration right).1 ∧
      ∀ key, Table.get? key (declaration left).2 = Table.get? key (declaration right).2 := by
  have without (names : List String) (key : String) : Table.get? key (Table.without names left) =
      Table.get? key (Table.without names right) := by
    rw [Table.get?_without, Table.get?_without, same]
  unfold declaration
  rw [same "apiVersion", same "kind"]
  split
  · exact ⟨rfl, without _⟩
  · exact ⟨rfl, without _⟩
  · exact ⟨rfl, without _⟩
  · exact ⟨rfl, without _⟩
  · exact ⟨rfl, without _⟩
  · exact ⟨rfl, same⟩

/-- Objects that differ in some annotations are read alike. -/
theorem decode_alike {first second : Json}
    (differ : DifferAt keys ["metadata", "annotations"] (some first) (some second)) :
    Alike (SameBut keys) (decode first) (decode second) := by
  cases differ with
  | same => exact Alike.refl (SameBut.refl keys) _
  | @inside _ _ left right agree deeper =>
      have others : ∀ key, Table.get? key (Table.without ["metadata"] left) =
          Table.get? key (Table.without ["metadata"] right) := by
        intro key
        rw [Table.get?_without, Table.get?_without]
        split
        · rfl
        · next other => exact agree key fun same => other (by simp [same])
      obtain ⟨declared, rest⟩ := declaration_congr others
      have metadata : Alike (fun first second : Metadata =>
          { first with annotations := none } = { second with annotations := none } ∧
            ∀ key, key ∉ keys → first.annotation? key = second.annotation? key)
          (Decoder.defaulted {} .metadata "metadata" left)
          (Decoder.defaulted {} .metadata "metadata" right) := by
        unfold Decoder.defaulted
        revert deeper
        generalize Table.get? "metadata" left = first
        generalize Table.get? "metadata" right = second
        intro deeper
        cases deeper with
        | same => exact Alike.refl (fun _ => ⟨rfl, fun _ _ => rfl⟩) _
        | inside agree deepest => exact Decoder.metadata_alike agree deepest
      rw [decode_object, decode_object]
      exact metadata.map fun _ _ known => ⟨declared, rest, known.1, known.2⟩

end DynamicObject

end GitDelivery
