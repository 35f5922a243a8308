import GitDelivery.Proofs.Json.Difference
import GitDelivery.Proofs.Yaml.Fields

set_option autoImplicit false

/-! Two values that differ only in some entries of one mapping inside them. Their structured forms fail
alike, or differ only in what stands in the place of that mapping. -/

namespace GitDelivery.Yaml.Value

open Json (Alike)

def isUnder (keys : List String) (entry : Value × Value) : Bool :=
  keys.any fun key => isKey key entry.1

def entriesOf? : Option Value → Option (List (Value × Value))
  | none => some []
  | some (.mapping entries) => some entries
  | some _ => none

def entryOf (name : String) (value : Option Value) : List (Value × Value) :=
  value.toList.map fun value => (.text name, value)

/-- Two values agree but for entries with some keys in the mapping that a path leads to. What differs has
a structured form, and nothing counts as a mapping without entries. -/
inductive DifferAt (keys : List String) : List String → Option Value → Option Value → Prop where
  | same (path : List String) (value : Option Value) : DifferAt keys path value value
  | entries {first second : Option Value} {left right : List (Value × Value)} :
      entriesOf? first = some left → entriesOf? second = some right →
      left.filter (fun entry => !isUnder keys entry) =
        right.filter (fun entry => !isUnder keys entry) →
      (∀ entry ∈ left ++ right, isUnder keys entry = true → ∃ json, entry.2.toJson = .ok json) →
      DifferAt keys [] first second
  | inside {segment : String} {path : List String} {before after : List (Value × Value)}
      {first second : Option Value} :
      (∀ entry ∈ before ++ after, isKey segment entry.1 = false) →
      DifferAt keys path first second →
      DifferAt keys (segment :: path)
        (some (.mapping (before ++ (entryOf segment first ++ after))))
        (some (.mapping (before ++ (entryOf segment second ++ after))))

def toJson? : Option Value → Except Failure (Option Json)
  | none => .ok none
  | some value => value.toJson.map some

theorem toJson_alike {first second : Value} {related : Option Json → Option Json → Prop}
    (alike : Alike related (toJson? (some first)) (toJson? (some second))) :
    Alike (fun left right => related (some left) (some right)) first.toJson second.toJson := by
  change Alike related (first.toJson.map some) (second.toJson.map some) at alike
  generalize first.toJson = left at alike ⊢
  generalize second.toJson = right at alike ⊢
  cases left with
  | error failure =>
      cases right with
      | error other =>
          cases alike
          exact .error failure
      | ok form => cases alike
  | ok form =>
      cases right with
      | error failure => cases alike
      | ok other =>
          cases alike with
          | ok holds => exact .ok holds

section

variable {keys : List String} {home name : String} {before after entries left right : List (Value × Value)}
  {first second : Option Value}

/-! ### Reading a field -/

private theorem isKey_text (name other : String) : isKey name (.text other) = decide (other = name) :=
  rfl

private theorem find?_entryOf_self (name : String) (value : Option Value) :
    ((entryOf name value).find? fun entry => isKey name entry.1).map Prod.snd = value := by
  cases value <;> simp [entryOf, isKey_text]

private theorem find?_entryOf_of_ne (other : name ≠ home) (value : Option Value) :
    (entryOf home value).find? (fun entry => isKey name entry.1) = none := by
  cases value <;> simp [entryOf, isKey_text, Ne.symm other]

theorem get?_inside_self (fresh : ∀ entry ∈ before ++ after, isKey home entry.1 = false) :
    (mapping (before ++ (entryOf home first ++ after))).get? home = first := by
  have absent (part : List (Value × Value)) (inside : part ⊆ before ++ after) :
      part.find? (fun entry => isKey home entry.1) = none :=
    List.find?_eq_none.mpr fun entry member => by simp [fresh entry (inside member)]
  change ((before ++ (entryOf home first ++ after)).find? fun entry => isKey home entry.1).map
    Prod.snd = first
  rw [List.find?_append, List.find?_append, absent before (List.subset_append_left _ _),
    absent after (List.subset_append_right _ _), Option.none_or, Option.or_none]
  exact find?_entryOf_self home first

theorem get?_inside_of_ne (other : name ≠ home) :
    (mapping (before ++ (entryOf home first ++ after))).get? name =
      (mapping (before ++ (entryOf home second ++ after))).get? name := by
  change ((before ++ (entryOf home first ++ after)).find? fun entry => isKey name entry.1).map _ =
    ((before ++ (entryOf home second ++ after)).find? fun entry => isKey name entry.1).map _
  simp only [List.find?_append, find?_entryOf_of_ne other]

theorem DifferAt.get?_eq {path : List String} {first second : Value}
    (differ : DifferAt keys (home :: path) (some first) (some second)) (other : name ≠ home) :
    first.get? name = second.get? name := by
  cases differ with
  | same => rfl
  | inside _ _ => exact get?_inside_of_ne other

/-! ### Structured forms -/

private theorem entriesToJson_append (left right : List (Value × Value)) :
    entriesToJson (left ++ right) = (do
      let first ← entriesToJson left
      let rest ← entriesToJson right
      return first ++ rest) := by
  induction left with
  | nil =>
      rw [List.nil_append, entriesToJson]
      cases entriesToJson right <;> rfl
  | cons entry rest ih =>
      obtain ⟨key, value⟩ := entry
      rw [List.cons_append, entriesToJson, entriesToJson, ih]
      cases keyName key with
      | error failure => rfl
      | ok name =>
          cases value.toJson with
          | error failure => rfl
          | ok inner =>
              cases entriesToJson rest with
              | error failure => rfl
              | ok pairs => cases entriesToJson right <;> rfl

private theorem entriesToJson_entryOf (home : String) (value : Option Value) :
    entriesToJson (entryOf home value) =
      (toJson? value).map fun json => json.toList.map fun json => (home, json) := by
  cases value with
  | none => rfl
  | some value =>
      change entriesToJson [(.text home, value)] = (value.toJson.map some).map _
      rw [entriesToJson, entriesToJson]
      cases value.toJson <;> rfl

theorem entriesToJson_filter
    (represented : ∀ entry ∈ entries, isUnder keys entry = true → ∃ json, entry.2.toJson = .ok json) :
    Alike (fun _ _ => True) (entriesToJson entries)
      (entriesToJson (entries.filter fun entry => !isUnder keys entry)) := by
  induction entries with
  | nil => exact .ok trivial
  | cons entry rest ih =>
      have later := ih fun entry member => represented entry (List.mem_cons_of_mem _ member)
      have first := represented entry List.mem_cons_self
      obtain ⟨key, value⟩ := entry
      cases under : isUnder keys (key, value) with
      | true =>
          obtain ⟨inner, below⟩ := first under
          obtain ⟨name, _, isName⟩ := List.any_eq_true.mp under
          -- the key is a text, so that this entry cannot fail
          have named : ∃ written, key.keyName = .ok written := by
            cases key with
            | text written => exact ⟨written, rfl⟩
            | _ => cases isName
          obtain ⟨written, named⟩ := named
          rw [List.filter_cons_of_neg (by simp [under]), entriesToJson, named, below]
          revert later
          generalize entriesToJson rest = outcome
          generalize entriesToJson (rest.filter _) = filtered
          intro later
          cases later with
          | error failure => exact .error failure
          | ok => exact .ok trivial
      | false =>
          rw [List.filter_cons_of_pos (by simp [under]), entriesToJson, entriesToJson]
          refine (Alike.refl (fun _ => rfl) key.keyName).bind fun name _ same => ?_
          subst same
          refine (Alike.refl (fun _ => rfl) value.toJson).bind fun inner _ same => ?_
          subst same
          exact later.bind fun _ _ _ => .ok trivial

private theorem toJson?_of_entries (known : entriesOf? first = some entries)
    {json : List (String × Json)}
    (structured : entriesToJson entries = .ok json) : ∃ value, toJson? first = .ok value := by
  cases first with
  | none => exact ⟨none, rfl⟩
  | some value =>
      cases value with
      | mapping given =>
          obtain rfl : given = entries := Option.some.inj known
          refine ⟨some (.ofFields json), ?_⟩
          change (toJson (mapping given)).map some = _
          rw [toJson, structured]
          rfl
      | _ => cases known

private theorem toJson?_of_failure (known : entriesOf? first = some entries) {failure : Failure}
    (failed : entriesToJson entries = .error failure) : toJson? first = .error failure := by
  cases first with
  | none =>
      obtain rfl : [] = entries := Option.some.inj known
      cases failed
  | some value =>
      cases value with
      | mapping given =>
          obtain rfl : given = entries := Option.some.inj known
          change (toJson (mapping given)).map some = _
          rw [toJson, failed]
          rfl
      | _ => cases known

/-- Where two mappings differ only in entries that have a structured form, both have one or they fail
alike. -/
theorem toJson?_entries_alike (knownLeft : entriesOf? first = some left)
    (knownRight : entriesOf? second = some right)
    (agree : left.filter (fun entry => !isUnder keys entry) =
      right.filter (fun entry => !isUnder keys entry))
    (represented : ∀ entry ∈ left ++ right, isUnder keys entry = true →
      ∃ json, entry.2.toJson = .ok json) :
    Alike (fun leftForm rightForm => toJson? first = .ok leftForm ∧ toJson? second = .ok rightForm)
      (toJson? first) (toJson? second) := by
  have leftAlike := @entriesToJson_filter keys left fun entry member =>
    represented entry (List.mem_append_left _ member)
  have rightAlike := @entriesToJson_filter keys right fun entry member =>
    represented entry (List.mem_append_right _ member)
  rw [← agree] at rightAlike
  generalize entriesToJson (left.filter _) = common at leftAlike rightAlike
  generalize leftRead : entriesToJson left = leftOutcome at leftAlike
  generalize rightRead : entriesToJson right = rightOutcome at rightAlike
  cases leftAlike with
  | error failure =>
      cases rightAlike
      rw [toJson?_of_failure knownLeft leftRead, toJson?_of_failure knownRight rightRead]
      exact .error failure
  | ok =>
      cases rightAlike
      obtain ⟨leftForm, leftStructured⟩ := toJson?_of_entries knownLeft leftRead
      obtain ⟨rightForm, rightStructured⟩ := toJson?_of_entries knownRight rightRead
      rw [leftStructured, rightStructured]
      exact .ok ⟨rfl, rfl⟩

/-- Two structured values are objects that agree but for one field, and what they have there is
related. -/
def ApartIn (home : String) (related : Option Json → Option Json → Prop)
    (first second : Option Json) : Prop :=
  ∃ left right : Table Json, first = some (.object left) ∧ second = some (.object right) ∧
    (∀ key, key ≠ home → Table.get? key left = Table.get? key right) ∧
    related (Table.get? home left) (Table.get? home right)

private theorem get?_ofList_self {pre post : List (String × Json)}
    (fresh : ∀ pair ∈ pre ++ post, pair.1 ≠ home) (value : Option Json) :
    Table.get? home (Table.ofList (pre ++ (value.toList.map (fun json => (home, json)) ++ post))) =
      value := by
  have absent (part : List (String × Json)) (inside : part ⊆ pre ++ post) :
      part.reverse.find? (fun pair => pair.1 = home) = none := by
    refine List.find?_eq_none.mpr fun pair member => ?_
    simpa using fresh pair (inside (List.mem_reverse.mp member))
  rw [Table.get?_ofList]
  simp only [List.reverse_append, List.find?_append, absent pre (List.subset_append_left _ _),
    absent post (List.subset_append_right _ _), Option.none_or, Option.or_none]
  cases value <;> simp

private theorem get?_ofList_of_ne {pre post : List (String × Json)} (other : name ≠ home)
    (value : Option Json) :
    Table.get? name (Table.ofList (pre ++ (value.toList.map (fun json => (home, json)) ++ post))) =
      Table.get? name (Table.ofList (pre ++ post)) := by
  have absent : (value.toList.map fun json => (home, json)).reverse.find? (fun pair => pair.1 = name) =
      none := by
    cases value <;> simp [Ne.symm other]
  simp only [Table.get?_ofList, List.reverse_append, List.find?_append, absent, Option.or_none]

/-- Where two mappings differ in one field only, so do their structured forms, or they fail alike. -/
theorem toJson?_inside_alike (word : IsWord home)
    (fresh : ∀ entry ∈ before ++ after, isKey home entry.1 = false)
    {related : Option Json → Option Json → Prop}
    (inner : Alike related (toJson? first) (toJson? second)) :
    Alike (ApartIn home related) (toJson? (some (.mapping (before ++ (entryOf home first ++ after)))))
      (toJson? (some (.mapping (before ++ (entryOf home second ++ after))))) := by
  -- a number or a truth value as key could be written like the field, were this not a word
  have unnamed {part : List (Value × Value)} {pairs : List (String × Json)}
      (inside : part ⊆ before ++ after) (structured : entriesToJson part = .ok pairs) :
      ∀ pair ∈ pairs, pair.1 ≠ home := by
    rintro ⟨name, json⟩ member rfl
    obtain ⟨⟨key, value⟩, listed, named, _⟩ := (mem_entriesToJson_iff structured).mp member
    have free := fresh _ (inside listed)
    rw [key_of_keyName word named, isKey_text] at free
    simp at free
  have append (value : Option Value) :
      toJson? (some (.mapping (before ++ (entryOf home value ++ after)))) =
        (do
          let pre ← entriesToJson before
          let form ← toJson? value
          let post ← entriesToJson after
          return some (.ofFields (pre ++ (form.toList.map (fun json => (home, json)) ++ post)))) := by
    rw [toJson?, toJson, entriesToJson_append, entriesToJson_append, entriesToJson_entryOf]
    cases entriesToJson before with
    | error failure => rfl
    | ok pre =>
        cases toJson? value with
        | error failure => rfl
        | ok form => cases entriesToJson after <;> rfl
  rw [append, append]
  cases front : entriesToJson before with
  | error failure => exact .error failure
  | ok pre =>
      refine inner.bind fun leftForm rightForm holds => ?_
      cases back : entriesToJson after with
      | error failure => exact .error failure
      | ok post =>
          have free : ∀ pair ∈ pre ++ post, pair.1 ≠ home := by
            intro pair member
            rcases List.mem_append.mp member with early | late
            · exact unnamed (List.subset_append_left _ _) front pair early
            · exact unnamed (List.subset_append_right _ _) back pair late
          refine .ok ⟨_, _, rfl, rfl, ?_, ?_⟩
          · intro key other
            rw [get?_ofList_of_ne other, get?_ofList_of_ne other]
          · rw [get?_ofList_self free, get?_ofList_self free]
            exact holds

end

end GitDelivery.Yaml.Value
