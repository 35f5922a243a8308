import GitDelivery.Proofs.Table
import GitDelivery.Resource.Dynamic

set_option autoImplicit false

/-! Reading typed values: what was read of metadata and of objects of any kind, field by field. -/

namespace GitDelivery

theorem except_bind_ok_iff {ε α β : Type} {first : Except ε α} {next : α → Except ε β} {result : β} :
    first >>= next = .ok result ↔ ∃ value, first = .ok value ∧ next value = .ok result := by
  cases first with
  | error failure =>
      constructor
      · intro impossible
        cases impossible
      · rintro ⟨_, impossible, _⟩
        cases impossible
  | ok value =>
      constructor
      · intro rest
        exact ⟨value, rfl, rest⟩
      · rintro ⟨_, same, rest⟩
        cases same
        exact rest

theorem except_ok_bind {ε α β : Type} (value : α) (next : α → Except ε β) :
    (.ok value : Except ε α) >>= next = next value :=
  rfl

theorem except_map_bind {ε α β γ : Type} (f : β → γ) (first : Except ε α) (next : α → Except ε β) :
    (first >>= next).map f = first >>= fun value => (next value).map f := by
  cases first <;> rfl

namespace Decoder

variable {α : Type} {name : String} {left right : Table Json}

theorem fields_ok_iff {value : Json} {fields : Table Json} :
    Decoder.fields value = .ok fields ↔ value = .object fields := by
  cases value <;> simp [Decoder.fields]

theorem optional_congr (decode : Decoder α) (same : Table.get? name left = Table.get? name right) :
    optional decode name left = optional decode name right := by
  unfold optional
  rw [same]

theorem get?_eachField {fields : Table Json} {texts : Table String}
    (decoded : eachField text fields = .ok texts) (key : String) :
    Table.get? key texts = (Table.get? key fields).bind Json.text? := by
  induction fields generalizing texts with
  | nil =>
      cases decoded
      rfl
  | cons field rest ih =>
      obtain ⟨name, value⟩ := field
      obtain ⟨read, first, decoded⟩ := except_bind_ok_iff.mp decoded
      obtain ⟨others, later, decoded⟩ := except_bind_ok_iff.mp decoded
      cases decoded
      have isText : value = .text read := by
        cases value <;> cases first
        rfl
      by_cases same : name = key
      · simp [Table.get?, same, isText, Json.text?]
      · simp [Table.get?, same, ih later]

theorem get?_optional_table {fields : Table Json} {read : Option (Table String)}
    (decoded : optional (table text) name fields = .ok read) (key : String) :
    read.bind (Table.get? key) = ((Table.get? name fields).bind (Json.get? key)).bind Json.text? := by
  unfold optional at decoded
  split at decoded
  · next absent =>
      cases decoded
      rw [absent]
      rfl
  · next absent =>
      cases decoded
      rw [absent]
      rfl
  · next value _ present =>
      rw [present]
      cases value with
      | object entries =>
          cases each : eachField text entries with
          | error failure =>
              rw [table, each] at decoded
              cases decoded
          | ok texts =>
              rw [table, each] at decoded
              cases decoded
              exact get?_eachField each key
      | _ => cases decoded

theorem metadata_ok_iff {fields : Table Json} {metadata : Metadata} :
    Decoder.metadata (.object fields) = .ok metadata ↔
      optional (table text) "annotations" fields = .ok metadata.annotations ∧
      optional instant "creationTimestamp" fields = .ok metadata.creationTimestamp ∧
      optional integer "deletionGracePeriodSeconds" fields = .ok metadata.deletionGracePeriodSeconds ∧
      optional instant "deletionTimestamp" fields = .ok metadata.deletionTimestamp ∧
      optional (list text) "finalizers" fields = .ok metadata.finalizers ∧
      optional text "generateName" fields = .ok metadata.generateName ∧
      optional integer "generation" fields = .ok metadata.generation ∧
      optional (table text) "labels" fields = .ok metadata.labels ∧
      optional (list managedFields) "managedFields" fields = .ok metadata.managedFields ∧
      optional text "name" fields = .ok metadata.name ∧
      optional text "namespace" fields = .ok metadata.space ∧
      optional (list ownerReference) "ownerReferences" fields = .ok metadata.ownerReferences ∧
      optional text "resourceVersion" fields = .ok metadata.resourceVersion ∧
      optional text "selfLink" fields = .ok metadata.selfLink ∧
      optional text "uid" fields = .ok metadata.uid := by
  constructor
  · intro decoded
    obtain ⟨_, shaped, decoded⟩ := except_bind_ok_iff.mp decoded
    cases fields_ok_iff.mp shaped
    obtain ⟨_, annotations, decoded⟩ := except_bind_ok_iff.mp decoded
    obtain ⟨_, created, decoded⟩ := except_bind_ok_iff.mp decoded
    obtain ⟨_, grace, decoded⟩ := except_bind_ok_iff.mp decoded
    obtain ⟨_, deleted, decoded⟩ := except_bind_ok_iff.mp decoded
    obtain ⟨_, finalizers, decoded⟩ := except_bind_ok_iff.mp decoded
    obtain ⟨_, generateName, decoded⟩ := except_bind_ok_iff.mp decoded
    obtain ⟨_, generation, decoded⟩ := except_bind_ok_iff.mp decoded
    obtain ⟨_, labels, decoded⟩ := except_bind_ok_iff.mp decoded
    obtain ⟨_, managed, decoded⟩ := except_bind_ok_iff.mp decoded
    obtain ⟨_, name, decoded⟩ := except_bind_ok_iff.mp decoded
    obtain ⟨_, space, decoded⟩ := except_bind_ok_iff.mp decoded
    obtain ⟨_, owners, decoded⟩ := except_bind_ok_iff.mp decoded
    obtain ⟨_, version, decoded⟩ := except_bind_ok_iff.mp decoded
    obtain ⟨_, link, decoded⟩ := except_bind_ok_iff.mp decoded
    obtain ⟨_, uid, decoded⟩ := except_bind_ok_iff.mp decoded
    cases decoded
    exact ⟨annotations, created, grace, deleted, finalizers, generateName, generation, labels,
      managed, name, space, owners, version, link, uid⟩
  · rintro ⟨annotations, created, grace, deleted, finalizers, generateName, generation, labels,
      managed, name, space, owners, version, link, uid⟩
    simp only [Decoder.metadata, Decoder.fields, annotations, created, grace, deleted, finalizers,
      generateName, generation, labels, managed, name, space, owners, version, link, uid, bind,
      Except.bind, pure, Except.pure]

end Decoder

namespace Table

variable {α : Type} {names : List String} {key : String} {table : Table α}

theorem get?_without (names : List String) (key : String) (table : Table α) :
    get? key (Table.without names table) = if key ∈ names then none else get? key table := by
  induction table with
  | nil => simp [without, get?]
  | cons pair rest ih =>
      obtain ⟨name, value⟩ := pair
      change get? key (List.filter _ _) = _ at ih
      change get? key (List.filter _ _) = _
      by_cases listed : name ∈ names
      · by_cases same : name = key
        · subst same
          simpa [listed] using ih
        · simpa [listed, get?, same] using ih
      · by_cases same : name = key
        · subst same
          simp [listed, get?]
        · simpa [listed, get?, same] using ih

theorem Ascending.without (ascends : Ascending table) : Ascending (Table.without names table) := by
  unfold Ascending keys Table.without at *
  exact List.Pairwise.sublist (List.Sublist.map _ List.filter_sublist) ascends

/-- A table in order is made of its own pairs. -/
theorem Ascending.get?_ofList (ascends : Ascending table) (key : String) :
    get? key (ofList table) = get? key table := by
  apply Option.ext
  intro value
  rw [← ascends.mem_iff_get?]
  constructor
  · exact mem_of_get?_ofList
  · intro member
    obtain ⟨last, found⟩ := exists_get?_ofList member
    have again := ascends.mem_iff_get?.mp (mem_of_get?_ofList found)
    rw [ascends.mem_iff_get?.mp member] at again
    rw [found, again]

theorem get?_ofList_append (first second : List (String × α)) (key : String) :
    get? key (ofList (first ++ second)) = (get? key (ofList second)).or (get? key (ofList first)) := by
  rw [Table.get?_ofList, Table.get?_ofList, Table.get?_ofList, List.reverse_append, List.find?_append]
  cases second.reverse.find? fun pair => pair.1 = key <;> rfl

end Table

namespace DynamicObject

variable {value : Json} {object : DynamicObject}

theorem decode_ok (decoded : decode value = .ok object) :
    ∃ fields, value = .object fields ∧
      Decoder.defaulted {} .metadata "metadata" fields = .ok object.metadata ∧
      (object.declared, object.others) = declaration (Table.without ["metadata"] fields) := by
  obtain ⟨fields, shaped, decoded⟩ := except_bind_ok_iff.mp decoded
  obtain ⟨metadata, read, decoded⟩ := except_bind_ok_iff.mp decoded
  cases decoded
  exact ⟨fields, Decoder.fields_ok_iff.mp shaped, read, rfl⟩

theorem get?_toJson {fields : Table Json} {apiVersion kind : String}
    (decoded : decode (.object fields) = .ok object) (ascends : Table.Ascending fields)
    (version : Table.get? "apiVersion" fields = some (.text apiVersion))
    (named : Table.get? "kind" fields = some (.text kind)) {key : String} (other : key ≠ "metadata") :
    object.toJson.get? key = Table.get? key fields := by
  obtain ⟨_, same, _, declares⟩ := decode_ok decoded
  cases same
  have declared : declaration (Table.without ["metadata"] fields) =
      (some (apiVersion, kind),
        Table.without ["apiVersion", "kind"] (Table.without ["metadata"] fields)) := by
    unfold declaration
    rw [Table.get?_without, Table.get?_without, if_neg (by decide), if_neg (by decide), version, named]
  rw [declared] at declares
  obtain ⟨declared, others⟩ := Prod.mk.inj declares
  unfold toJson Json.ofExtended
  rw [declared, others]
  change Table.get? key (Table.ofList _) = _
  rw [Table.get?_ofList_append, ascends.without.without.get?_ofList, Table.get?_without,
    Table.get?_without, Table.get?_ofList]
  by_cases isVersion : key = "apiVersion"
  · simp [isVersion, version]
  · by_cases isKind : key = "kind"
    · simp [isKind, named]
    · simp [isVersion, isKind, other, Ne.symm isVersion, Ne.symm isKind, Ne.symm other]

end DynamicObject

end GitDelivery
