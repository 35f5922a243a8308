import GitDelivery.Proofs.Table
import GitDelivery.Proofs.Yaml.Document

set_option autoImplicit false

/-! What the structured form of a value without tags has in a field. A number that is a key is written
with a digit, a sign or a point, so that a field whose name has none of them and is no truth value comes
from the one entry with that text for its key. -/

namespace GitDelivery.Yaml

def isMark (c : Char) : Bool :=
  c.isDigit || c = '-' || c = '.'

def HasMark (text : String) : Prop :=
  ∃ c ∈ text.toList, isMark c = true

theorem HasMark.before {first : String} (marked : HasMark first) (second : String) :
    HasMark (first ++ second) := by
  obtain ⟨c, member, mark⟩ := marked
  exact ⟨c, by simp [member], mark⟩

theorem HasMark.after {second : String} (first : String) (marked : HasMark second) :
    HasMark (first ++ second) := by
  obtain ⟨c, member, mark⟩ := marked
  exact ⟨c, by simp [member], mark⟩

private theorem hasMark_nat (value : Nat) : HasMark (Nat.repr value) := by
  obtain ⟨c, rest, digits⟩ := List.exists_cons_of_ne_nil (Nat.toDigits_ne_nil : Nat.toDigits 10 value ≠ [])
  have digit : c.isDigit = true :=
    Nat.isDigit_of_mem_toDigits (by decide) (by decide) (digits ▸ List.mem_cons_self)
  exact ⟨c, by simp [Nat.repr, digits], by simp [isMark, digit]⟩

theorem hasMark_int (value : Int) : HasMark (toString value) := by
  cases value with
  | ofNat value => exact hasMark_nat value
  | negSucc value => exact HasMark.before ⟨'-', by decide, by decide⟩ _

private theorem hasMark_render (number : Decimal.Digits) : HasMark number.render := by
  have point : HasMark "." := ⟨'.', by decide, by decide⟩
  unfold Decimal.Digits.render
  dsimp only
  split
  · exact HasMark.after _ ⟨'.', by decide, by decide⟩
  · split
    · exact (HasMark.after _ point).before _
    · split
      · exact HasMark.before ⟨'.', by decide, by decide⟩ _
      · split
        · exact ⟨'.', by decide, by decide⟩
        · exact HasMark.after _ (hasMark_int _)
        · exact HasMark.after _ (hasMark_int _)

private theorem hasMark_double (value : Float) : HasMark (Decimal.renderDouble value) := by
  unfold Decimal.renderDouble
  dsimp only
  split
  · exact HasMark.after _ ⟨'.', by decide, by decide⟩
  · exact HasMark.after _ (hasMark_render _)

/-- A name that is not how a number or a truth value is written. -/
structure IsWord (name : String) : Prop where
  unmarked : name.toList.any isMark = false
  notTrue : name ≠ "true"
  notFalse : name ≠ "false"

private theorem IsWord.not_hasMark {name : String} (word : IsWord name) : ¬ HasMark name := by
  rintro ⟨c, member, mark⟩
  exact List.any_eq_false.mp word.unmarked c member mark

theorem key_of_keyName {key : Value} {name : String} (word : IsWord name)
    (named : key.keyName = .ok name) : key = .text name := by
  cases key with
  | text written =>
      cases named
      rfl
  | bool value =>
      cases value
      · exact absurd (Except.ok.inj named).symm word.notFalse
      · exact absurd (Except.ok.inj named).symm word.notTrue
  | int value =>
      cases named
      exact absurd (hasMark_int value) word.not_hasMark
  | float value =>
      change (if value.isFinite then Except.ok (Decimal.renderDouble value) else _) = _ at named
      split at named
      · cases named
        exact absurd (hasMark_double value) word.not_hasMark
      · cases named
  | null => cases named
  | sequence items => cases named
  | mapping entries => cases named
  | tagged tag value => cases named

namespace Value

mutual

def isTagFree : Value → Bool
  | .sequence items => areTagFree items
  | .mapping entries => haveNoTags entries
  | .tagged _ _ => false
  | _ => true

def areTagFree : List Value → Bool
  | [] => true
  | item :: rest => item.isTagFree && areTagFree rest

def haveNoTags : List (Value × Value) → Bool
  | [] => true
  | (key, value) :: rest => key.isTagFree && value.isTagFree && haveNoTags rest

end

def TagFree (value : Value) : Prop := value.isTagFree = true

instance (value : Value) : Decidable value.TagFree :=
  inferInstanceAs (Decidable (value.isTagFree = true))

variable {value found : Value} {entries : List (Value × Value)} {pairs : List (String × Json)}
  {json inner : Json} {name : String}

theorem TagFree.not_tagged {tag : String} (free : (tagged tag value).TagFree) : False :=
  Bool.false_ne_true free

private theorem TagFree.entry (free : (mapping entries).TagFree) {entry : Value × Value}
    (member : entry ∈ entries) : entry.2.TagFree := by
  change haveNoTags entries = true at free
  induction entries with
  | nil => cases member
  | cons first rest ih =>
      obtain ⟨key, value⟩ := first
      rw [haveNoTags, Bool.and_eq_true, Bool.and_eq_true] at free
      rcases List.mem_cons.mp member with rfl | later
      · exact free.1.2
      · exact ih later free.2

theorem mem_of_get? (field : (mapping entries).get? name = some found) :
    (.text name, found) ∈ entries := by
  change (entries.find? fun entry => isKey name entry.1).map Prod.snd = some found at field
  obtain ⟨⟨key, value⟩, first, same⟩ := Option.map_eq_some_iff.mp field
  have isName := List.find?_some first
  cases same
  have known : key = .text name := by
    cases key with
    | text written => exact congrArg Value.text (of_decide_eq_true isName)
    | _ => cases isName
  subst known
  exact List.mem_of_find?_eq_some first

private theorem find?_of_mem
    (apart : entries.Pairwise fun earlier later => earlier.1.same later.1 = false)
    (member : (.text name, found) ∈ entries) :
    entries.find? (fun entry => isKey name entry.1) = some (.text name, found) := by
  induction entries with
  | nil => cases member
  | cons entry rest ih =>
      obtain ⟨first, others⟩ := List.pairwise_cons.mp apart
      have isName : isKey name (.text name) = true := decide_eq_true rfl
      rcases List.mem_cons.mp member with rfl | later
      · exact List.find?_cons_of_pos isName
      · have different : ¬ isKey name entry.1 = true := by
          intro same
          obtain ⟨key, value⟩ := entry
          cases key with
          | text written =>
              have clash := first _ later
              rw [of_decide_eq_true same] at clash
              simp [Value.same] at clash
          | _ => cases same
        rw [List.find?_cons, Bool.eq_false_iff.mpr different]
        exact ih others later

/-- Where keys are distinct, a field is read from the one entry that has its name. -/
theorem get?_eq_some_iff (distinct : (mapping entries).Distinct) :
    (mapping entries).get? name = some found ↔ (.text name, found) ∈ entries := by
  constructor
  · exact mem_of_get?
  · intro member
    cases distinct with
    | scalar impossible => exact impossible.elim
    | mapping _ apart =>
        change (entries.find? fun entry => isKey name entry.1).map Prod.snd = some found
        rw [find?_of_mem apart member]
        rfl

theorem entriesToJson_cons {key : Value}
    (structured : entriesToJson ((key, value) :: entries) = .ok pairs) :
    ∃ name inner rest, keyName key = .ok name ∧ value.toJson = .ok inner ∧
      entriesToJson entries = .ok rest ∧ pairs = (name, inner) :: rest := by
  rw [entriesToJson] at structured
  simp only [bind, Except.bind, pure, Except.pure] at structured
  split at structured
  · cases structured
  · rename_i name named
    split at structured
    · cases structured
    · rename_i inner below
      split at structured
      · cases structured
      · rename_i rest others
        cases structured
        exact ⟨name, inner, rest, named, below, others, rfl⟩

theorem mem_entriesToJson_iff (structured : entriesToJson entries = .ok pairs) :
    (name, inner) ∈ pairs ↔
      ∃ entry ∈ entries, keyName entry.1 = .ok name ∧ entry.2.toJson = .ok inner := by
  induction entries generalizing pairs with
  | nil =>
      cases structured
      simp
  | cons entry rest ih =>
      obtain ⟨key, value⟩ := entry
      obtain ⟨written, below, others, named, first, later, rfl⟩ := entriesToJson_cons structured
      simp [ih later, named, first, eq_comm]

private theorem exists_entriesToJson (structured : entriesToJson entries = .ok pairs)
    {entry : Value × Value} (member : entry ∈ entries) :
    ∃ name inner, keyName entry.1 = .ok name ∧ entry.2.toJson = .ok inner := by
  induction entries generalizing pairs with
  | nil => cases member
  | cons first rest ih =>
      obtain ⟨key, value⟩ := first
      obtain ⟨name, inner, others, named, below, later, rfl⟩ := entriesToJson_cons structured
      rcases List.mem_cons.mp member with rfl | member
      · exact ⟨name, inner, named, below⟩
      · exact ih later member

/-- The structured form of a mapping has the structured form of the entry in a field. -/
theorem get?_entriesToJson_iff (word : IsWord name) (distinct : (mapping entries).Distinct)
    (structured : entriesToJson entries = .ok pairs) :
    (Json.ofFields pairs).get? name = some inner ↔
      ∃ found, (mapping entries).get? name = some found ∧ found.toJson = .ok inner := by
  constructor
  · intro field
    have member := Table.mem_of_get?_ofList field
    obtain ⟨⟨key, found⟩, entry, named, below⟩ := (mem_entriesToJson_iff structured).mp member
    cases key_of_keyName word named
    exact ⟨found, (get?_eq_some_iff distinct).mpr entry, below⟩
  · rintro ⟨found, field, below⟩
    have entry := (get?_eq_some_iff distinct).mp field
    have member := (mem_entriesToJson_iff structured).mpr ⟨_, entry, rfl, below⟩
    obtain ⟨last, present⟩ := Table.exists_get?_ofList member
    obtain ⟨⟨key, other⟩, another, named, same⟩ :=
      (mem_entriesToJson_iff structured).mp (Table.mem_of_get?_ofList present)
    cases key_of_keyName word named
    have again := (get?_eq_some_iff distinct).mpr another
    rw [field] at again
    cases again
    rw [below] at same
    cases same
    exact present

/-! ### Values without tags -/

theorem TagFree.eq_mapping (free : value.TagFree) (field : value.get? name = some found) :
    ∃ entries, value = .mapping entries := by
  cases value with
  | mapping entries => exact ⟨entries, rfl⟩
  | tagged tag value => exact free.not_tagged.elim
  | _ => cases field

theorem TagFree.field (free : value.TagFree) (field : value.get? name = some found) :
    found.TagFree := by
  obtain ⟨entries, rfl⟩ := free.eq_mapping field
  exact free.entry (mem_of_get? field)

theorem Distinct.field (distinct : value.Distinct) (free : value.TagFree)
    (field : value.get? name = some found) : found.Distinct := by
  obtain ⟨entries, rfl⟩ := free.eq_mapping field
  cases distinct with
  | scalar impossible => exact impossible.elim
  | mapping values _ => exact values _ (mem_of_get? field)

theorem toJson_mapping (structured : (mapping entries).toJson = .ok json) :
    ∃ pairs, entriesToJson entries = .ok pairs ∧ json = .ofFields pairs := by
  rw [toJson] at structured
  cases converted : entriesToJson entries with
  | error failure =>
      rw [converted] at structured
      cases structured
  | ok pairs =>
      rw [converted] at structured
      cases structured
      exact ⟨pairs, rfl, rfl⟩

theorem TagFree.mapping_of_object (free : value.TagFree) {fields : Table Json}
    (structured : value.toJson = .ok (.object fields)) : ∃ entries, value = .mapping entries := by
  cases value with
  | mapping entries => exact ⟨entries, rfl⟩
  | tagged tag value => exact free.not_tagged.elim
  | sequence items =>
      rw [toJson] at structured
      cases converted : itemsToJson items <;> rw [converted] at structured <;> cases structured
  | float value =>
      rw [toJson, Document.jsonOfFloat] at structured
      split at structured <;> cases structured
  | _ => rw [toJson] at structured; cases structured

/-- The structured form has in a field the structured form of what the value has there. -/
theorem get?_toJson_iff (word : IsWord name) (free : value.TagFree) (distinct : value.Distinct)
    (structured : value.toJson = .ok json) :
    json.get? name = some inner ↔ ∃ found, value.get? name = some found ∧ found.toJson = .ok inner := by
  constructor
  · intro field
    cases json with
    | object fields =>
        obtain ⟨entries, rfl⟩ := free.mapping_of_object structured
        obtain ⟨pairs, converted, same⟩ := toJson_mapping structured
        rw [same] at field
        exact (get?_entriesToJson_iff word distinct converted).mp field
    | _ => cases field
  · rintro ⟨found, field, below⟩
    obtain ⟨entries, rfl⟩ := free.eq_mapping field
    obtain ⟨pairs, converted, rfl⟩ := toJson_mapping structured
    exact (get?_entriesToJson_iff word distinct converted).mpr ⟨found, field, below⟩

theorem TagFree.toJson_field (free : value.TagFree) (structured : value.toJson = .ok json)
    (field : value.get? name = some found) : ∃ inner, found.toJson = .ok inner := by
  obtain ⟨entries, rfl⟩ := free.eq_mapping field
  obtain ⟨pairs, converted, _⟩ := toJson_mapping structured
  obtain ⟨_, inner, _, below⟩ := exists_entriesToJson converted (mem_of_get? field)
  exact ⟨inner, below⟩

theorem get?_toJson (word : IsWord name) (free : value.TagFree) (distinct : value.Distinct)
    (structured : value.toJson = .ok json) :
    json.get? name = (value.get? name).bind fun found => found.toJson.toOption := by
  apply Option.ext
  intro inner
  rw [get?_toJson_iff word free distinct structured, Option.bind_eq_some_iff]
  constructor
  · rintro ⟨found, field, below⟩
    exact ⟨found, field, by rw [below]; rfl⟩
  · rintro ⟨found, field, below⟩
    refine ⟨found, field, ?_⟩
    cases converted : found.toJson with
    | error failure => rw [converted] at below; cases below
    | ok given => rw [converted] at below; cases below; rfl

theorem TagFree.text?_toJson (free : value.TagFree) (structured : value.toJson = .ok json) :
    json.text? = value.text? := by
  cases value with
  | mapping entries =>
      obtain ⟨pairs, _, rfl⟩ := toJson_mapping structured
      rfl
  | tagged tag value => exact free.not_tagged.elim
  | sequence items =>
      rw [toJson] at structured
      cases converted : itemsToJson items <;> rw [converted] at structured <;> cases structured
      rfl
  | float value =>
      rw [toJson, Document.jsonOfFloat] at structured
      split at structured <;> cases structured <;> rfl
  | _ =>
      rw [toJson] at structured
      cases structured
      rfl

theorem TagFree.eq_text (free : value.TagFree) {written : String}
    (structured : value.toJson = .ok (.text written)) : value = .text written := by
  have isText := free.text?_toJson structured
  cases value with
  | text given =>
      cases isText
      rfl
  | tagged tag value => exact free.not_tagged.elim
  | _ => cases isText

end Value

end GitDelivery.Yaml
