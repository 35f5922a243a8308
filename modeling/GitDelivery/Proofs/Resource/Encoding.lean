import GitDelivery.Proofs.Resource.Status

set_option autoImplicit false

/-! Typed values written as structured ones can be read back. Of a record it is enough that every field is
written in a way that its reader undoes, and that a field that is left out is read as what it was. -/

namespace GitDelivery

/-- What is written can be read and is what was written. It is never null, which would be read as nothing. -/
structure Lossless {α : Type} (decode : Decoder α) (encode : α → Json) : Prop where
  restores : ∀ value, decode (encode value) = .ok value
  present : ∀ value, encode value ≠ .null

section

variable {α : Type} {decode : Decoder α} {encode : α → Json} {name : String} {fields : Table Json}

/-! ### Values -/

theorem lossless_text : Lossless Decoder.text .text :=
  ⟨fun _ => rfl, nofun⟩

theorem lossless_bool : Lossless Decoder.bool .bool :=
  ⟨fun _ => rfl, nofun⟩

theorem Decoder.each_map (restores : ∀ value, decode (encode value) = .ok value) (items : List α) :
    each decode (items.map encode) = .ok items := by
  induction items with
  | nil => rfl
  | cons first rest ih =>
      rw [List.map_cons, each, restores, ih]
      rfl

private theorem Decoder.eachField_map (restores : ∀ value, decode (encode value) = .ok value)
    (table : Table α) :
    eachField decode (table.map fun (key, value) => (key, encode value)) = .ok table := by
  induction table with
  | nil => rfl
  | cons field rest ih =>
      rw [List.map_cons, eachField, restores, ih]
      rfl

/-! ### Fields of records -/

namespace Decoder

private theorem required_of_found {value : α} (restores : decode (encode value) = .ok value)
    (found : Table.get? name fields = some (encode value)) :
    required decode name fields = .ok value := by
  unfold required
  rw [found]
  exact restores

theorem defaulted_of_found (absent : α) {value : α} (restores : decode (encode value) = .ok value)
    (found : Table.get? name fields = some (encode value)) :
    defaulted absent decode name fields = .ok value := by
  unfold defaulted
  rw [found]
  exact restores

theorem optional_of_found {value : Option α} (lossless : ∀ known ∈ value,
      decode (encode known) = .ok known ∧ encode known ≠ .null)
    (found : Table.get? name fields = value.map encode) :
    optional decode name fields = .ok value := by
  unfold optional
  rw [found]
  cases value with
  | none => rfl
  | some known =>
      obtain ⟨restores, present⟩ := lossless known rfl
      rw [Option.map_some]
      split
      · next impossible => cases impossible
      · next null => exact absurd (Option.some.inj null) present
      · next other _ same =>
          rw [← Option.some.inj same, restores]
          rfl

end Decoder

namespace Lossless

theorem optional (lossless : Lossless decode encode) {value : Option α}
    (found : Table.get? name fields = value.map encode) :
    Decoder.optional decode name fields = .ok value :=
  Decoder.optional_of_found (fun known _ => ⟨lossless.restores known, lossless.present known⟩) found

theorem required (lossless : Lossless decode encode) {value : α}
    (found : Table.get? name fields = some (encode value)) :
    Decoder.required decode name fields = .ok value :=
  Decoder.required_of_found (lossless.restores value) found

/-- An empty list is left out, and what is left out is read as an empty list. -/
theorem list (lossless : Lossless decode encode) {items : List α}
    (found : Table.get? name fields = Json.listUnlessEmpty encode items) :
    Decoder.defaulted [] (.list decode) name fields = .ok items := by
  unfold Decoder.defaulted
  rw [found]
  cases items with
  | nil => rfl
  | cons first rest => exact Decoder.each_map lossless.restores (first :: rest)

theorem table (lossless : Lossless decode encode) {entries : Table α}
    (found : Table.get? name fields = Json.tableUnlessEmpty encode entries) :
    Decoder.defaulted [] (.table decode) name fields = .ok entries := by
  unfold Decoder.defaulted
  rw [found]
  cases entries with
  | nil => rfl
  | cons first rest => exact Decoder.eachField_map lossless.restores (first :: rest)

end Lossless

theorem Decoder.text_of_nonEmpty {text : String}
    (found : Table.get? name fields = (Text.nonEmpty? text).map .text) :
    defaulted "" .text name fields = .ok text := by
  unfold defaulted
  rw [found]
  by_cases empty : text = ""
  · subst empty
    rfl
  · simp [Text.nonEmpty?, empty, Decoder.text]

/-! ### Written records -/

theorem Table.get?_of_mem {value : α} {pairs : Table α} (distinct : (keys pairs).Nodup)
    (member : (name, value) ∈ pairs) : get? name pairs = some value := by
  induction pairs with
  | nil => cases member
  | cons pair rest ih =>
      obtain ⟨first, old⟩ := pair
      obtain ⟨absent, others⟩ := List.nodup_cons.mp distinct
      rw [get?]
      rcases List.mem_cons.mp member with same | later
      · cases same
        exact if_pos rfl
      · have different : first ≠ name := by
          rintro rfl
          exact absent (List.mem_map.mpr ⟨_, later, rfl⟩)
        rw [if_neg different]
        exact ih others later

namespace Json

variable {pairs : List (String × Option Json)}

theorem ofPresent_ne_null (pairs : List (String × Option Json)) : ofPresent pairs ≠ .null :=
  nofun

/-- A record has the fields that it is made of, as far as they have values. -/
theorem ofPresent_fields (value : Json) (written : value = ofPresent pairs)
    (distinct : (Table.keys pairs).Nodup) :
    ∃ fields, value = .object fields ∧ ∀ pair ∈ pairs, Table.get? pair.1 fields = pair.2 := by
  refine ⟨_, written, fun pair member => ?_⟩
  change (ofPresent pairs).get? pair.1 = pair.2
  rw [get?_ofPresent distinct, Table.get?_of_mem distinct member]
  rfl

end Json

end

end GitDelivery
