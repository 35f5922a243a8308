import GitDelivery.Proofs.Json.Paths
import GitDelivery.Proofs.Table

set_option autoImplicit false

/-! Two values that differ only in some entries of one object inside them, and what merging and assigning
make of them: nothing that does not name these entries tells the two apart. -/

namespace GitDelivery.Json

/-! ### Order -/

inductive InOrder : Json → Prop where
  | plain {value : Json} : value.isObject = false → InOrder value
  | object {fields : Table Json} : Table.Ascending fields → (∀ field ∈ fields, InOrder field.2) →
      InOrder (.object fields)

theorem InOrder.ascends {fields : Table Json} (ordered : InOrder (.object fields)) :
    Table.Ascending fields := by
  cases ordered with
  | plain impossible => cases impossible
  | object ascends _ => exact ascends

theorem InOrder.field {fields : Table Json} (ordered : InOrder (.object fields)) {key : String}
    {child : Json} (found : Table.get? key fields = some child) : InOrder child := by
  cases ordered with
  | plain impossible => cases impossible
  | object ascends children => exact children _ (ascends.mem_iff_get?.mpr found)

private theorem ascending_mergeFields {base : Table Json} (ascends : Table.Ascending base)
    (patch : Table Json) : Table.Ascending (mergeFields base patch) := by
  induction patch with
  | nil =>
      rw [mergeFields]
      exact ascends
  | cons field rest ih =>
      obtain ⟨key, value⟩ := field
      rw [mergeFields]
      exact ih.insert

/-! ### Differences -/

/-- The entries of an object; nothing has none, and there are none to speak of in another value. -/
def entriesOf? : Option Json → Option (Table Json)
  | none => some []
  | some value => value.fields?

def IsTextOrNothing : Option Json → Prop
  | none | some (.text _) => True
  | _ => False

/-- Two values agree but for entries with some keys in the object that a path leads to. What differs is
a text or nothing, and nothing counts as an object without entries. -/
inductive DifferAt (keys : List String) : List String → Option Json → Option Json → Prop where
  | same (path : List String) (value : Option Json) : DifferAt keys path value value
  | entries {first second : Option Json} {left right : Table Json} :
      entriesOf? first = some left → entriesOf? second = some right →
      Table.Ascending left → Table.Ascending right →
      (∀ key, key ∉ keys → Table.get? key left = Table.get? key right) →
      (∀ key ∈ keys, Table.get? key left = Table.get? key right ∨
        (IsTextOrNothing (Table.get? key left) ∧ IsTextOrNothing (Table.get? key right))) →
      DifferAt keys [] first second
  | inside {segment : String} {path : List String} {left right : Table Json} :
      (∀ key, key ≠ segment → Table.get? key left = Table.get? key right) →
      DifferAt keys path (Table.get? segment left) (Table.get? segment right) →
      DifferAt keys (segment :: path) (some (.object left)) (some (.object right))

section

variable {keys path route : List String} {first second : Option Json} {value : Json}

theorem bind_get?_of_entries {entries : Table Json} (known : entriesOf? first = some entries)
    (key : String) : first.bind (Json.get? key) = Table.get? key entries := by
  cases first with
  | none =>
      cases known
      rfl
  | some value =>
      cases value with
      | object fields =>
          obtain rfl : fields = entries := Option.some.inj known
          rfl
      | _ => cases known

theorem DifferAt.bind_get?_eq (differ : DifferAt keys [] first second) {key : String}
    (free : key ∉ keys) : first.bind (Json.get? key) = second.bind (Json.get? key) := by
  cases differ with
  | same => rfl
  | entries knownLeft knownRight _ _ agree _ =>
      rw [bind_get?_of_entries knownLeft, bind_get?_of_entries knownRight, agree key free]

theorem layOver_text (plain : IsTextOrNothing first) (value : Json) : layOver first value = value := by
  cases first with
  | none => rfl
  | some old =>
      cases old with
      | text text => cases value <;> rfl
      | _ => cases plain

theorem layOver_plain (first : Option Json) (plain : value.isObject = false) :
    layOver first value = value := by
  cases first with
  | none => rfl
  | some old =>
      cases value with
      | object fields => cases plain
      | _ => rfl

theorem layOver_entries {patch entries : Table Json} (known : entriesOf? first = some entries)
    (ascends : Table.Ascending entries) (ordered : Table.Ascending patch) :
    ∃ merged, layOver first (.object patch) = .object merged ∧ Table.Ascending merged ∧
      ∀ key, Table.get? key merged =
        match Table.get? key patch with
        | some value => some (layOver (Table.get? key entries) value)
        | none => Table.get? key entries := by
  cases first with
  | none =>
      cases known
      refine ⟨patch, rfl, ordered, ?_⟩
      intro key
      cases Table.get? key patch <;> rfl
  | some old =>
      cases old with
      | object fields =>
          obtain rfl : fields = entries := Option.some.inj known
          exact ⟨mergeFields fields patch, rfl, ascending_mergeFields ascends patch,
            fun key => get?_mergeFields key fields patch⟩
      | _ => cases known

theorem DifferAt.layOver (differ : DifferAt keys path first second) (ordered : InOrder value) :
    DifferAt keys path (some (layOver first value)) (some (layOver second value)) := by
  induction differ generalizing value with
  | same path old => exact .same path _
  | entries knownLeft knownRight ascendsLeft ascendsRight agree differ =>
      cases shape : value.isObject with
      | false =>
          rw [layOver_plain _ shape, layOver_plain _ shape]
          exact .same _ _
      | true =>
          cases value with
          | object patch =>
              obtain ⟨left, merged, leftAscends, leftAt⟩ :=
                layOver_entries knownLeft ascendsLeft ordered.ascends
              obtain ⟨right, mergedRight, rightAscends, rightAt⟩ :=
                layOver_entries knownRight ascendsRight ordered.ascends
              rw [merged, mergedRight]
              refine .entries rfl rfl leftAscends rightAscends ?_ ?_
              · intro key other
                rw [leftAt, rightAt, agree key other]
              · intro key member
                rw [leftAt, rightAt]
                rcases differ key member with same | ⟨leftPlain, rightPlain⟩
                · rw [same]
                  exact .inl rfl
                · cases Table.get? key patch with
                  | none => exact .inr ⟨leftPlain, rightPlain⟩
                  | some child =>
                      dsimp only
                      rw [layOver_text leftPlain, layOver_text rightPlain]
                      exact .inl rfl
          | _ => cases shape
  | inside agree deeper ih =>
      cases shape : value.isObject with
      | false =>
          rw [layOver_plain _ shape, layOver_plain _ shape]
          exact .same _ _
      | true =>
          cases value with
          | object patch =>
              refine .inside ?_ ?_
              · intro key other
                rw [get?_mergeFields, get?_mergeFields, agree key other]
              · rw [get?_mergeFields, get?_mergeFields]
                cases found : Table.get? _ patch with
                | none => exact deeper
                | some child => exact ih (ordered.field found)
          | _ => cases shape

inductive Alike {ε α : Type} (related : α → α → Prop) : Except ε α → Except ε α → Prop where
  | error (failure : ε) : Alike related (.error failure) (.error failure)
  | ok {left right : α} : related left right → Alike related (.ok left) (.ok right)

theorem Alike.refl {ε α : Type} {related : α → α → Prop} (same : ∀ value, related value value)
    (outcome : Except ε α) : Alike related outcome outcome := by
  cases outcome with
  | error failure => exact .error failure
  | ok value => exact .ok (same value)

theorem Alike.map {ε α β : Type} {related : α → α → Prop} {other : β → β → Prop} {f g : α → β}
    {left right : Except ε α} (alike : Alike related left right)
    (each : ∀ first second, related first second → other (f first) (g second)) :
    Alike other (left.map f) (right.map g) := by
  cases alike with
  | error failure => exact .error failure
  | ok inner => exact .ok (each _ _ inner)

theorem Alike.bind {ε α β : Type} {related : α → α → Prop} {other : β → β → Prop}
    {f g : α → Except ε β} {left right : Except ε α} (alike : Alike related left right)
    (each : ∀ first second, related first second → Alike other (f first) (g second)) :
    Alike other (left >>= f) (right >>= g) := by
  cases alike with
  | error failure => exact .error failure
  | ok inner => exact each _ _ inner

theorem getD_of_entriesOf {entries : Table Json} (known : entriesOf? first = some entries) :
    first.getD (.object []) = .object entries := by
  cases first with
  | none =>
      cases known
      rfl
  | some old =>
      cases old with
      | object fields =>
          cases known
          rfl
      | _ => cases known

theorem getD_fields?_of_entries {entries : Table Json} (known : entriesOf? first = some entries) :
    (first.bind Json.fields?).getD [] = entries := by
  cases first with
  | none =>
      cases known
      rfl
  | some old =>
      rw [Option.bind_some, show old.fields? = some entries from known, Option.getD_some]

/-! ### Writing one field of both -/

section

variable {left right : Table Json} {segment home : String}

theorem differAt_insert_entry (ascendsLeft : Table.Ascending left) (ascendsRight : Table.Ascending right)
    (agree : ∀ key, key ∉ keys → Table.get? key left = Table.get? key right)
    (differ : ∀ key ∈ keys, Table.get? key left = Table.get? key right ∨
      (IsTextOrNothing (Table.get? key left) ∧ IsTextOrNothing (Table.get? key right)))
    (segment : String) (child : Json) :
    DifferAt keys [] (some (.object (Table.insert segment child left)))
      (some (.object (Table.insert segment child right))) := by
  refine .entries rfl rfl ascendsLeft.insert ascendsRight.insert ?_ ?_
  · intro key other
    rw [Table.get?_insert, Table.get?_insert, agree key other]
  · intro key member
    by_cases same : key = segment
    · rw [same, Table.get?_insert_self, Table.get?_insert_self]
      exact .inl rfl
    · rw [Table.get?_insert_of_ne same, Table.get?_insert_of_ne same]
      exact differ key member

theorem differAt_insert_inside
    (agree : ∀ key, key ≠ home → Table.get? key left = Table.get? key right) {first second : Json}
    (inner : DifferAt keys path (some first) (some second)) :
    DifferAt keys (home :: path) (some (.object (Table.insert home first left)))
      (some (.object (Table.insert home second right))) := by
  refine .inside ?_ ?_
  · intro key other
    rw [Table.get?_insert_of_ne other, Table.get?_insert_of_ne other, agree key other]
  · rw [Table.get?_insert_self, Table.get?_insert_self]
    exact inner

theorem differAt_insert_beside
    (agree : ∀ key, key ≠ home → Table.get? key left = Table.get? key right)
    (deeper : DifferAt keys path (Table.get? home left) (Table.get? home right))
    (beside : home ≠ segment) (child : Json) :
    DifferAt keys (home :: path) (some (.object (Table.insert segment child left)))
      (some (.object (Table.insert segment child right))) := by
  refine .inside ?_ ?_
  · intro key other
    rw [Table.get?_insert, Table.get?_insert, agree key other]
  · rw [Table.get?_insert_of_ne beside, Table.get?_insert_of_ne beside]
    exact deeper

end

/-! ### Assigning -/

theorem assign_leaf (leaf : String) (fields : Table Json) :
    assign value [leaf] (.object fields) =
      .ok (.object (Table.insert leaf (layOver (Table.get? leaf fields) value) fields)) :=
  assign_leaf_ok_iff.mpr ⟨fields, rfl, rfl⟩

theorem assign_step (segment next : String) (route : List String) (fields : Table Json) :
    assign value (segment :: next :: route) (.object fields) =
      (assign value (next :: route) ((Table.get? segment fields).getD (.object []))).map fun child =>
        .object (Table.insert segment child fields) := by
  rw [Json.assign]
  simp only [fields?]
  split
  · next failed => rw [failed]; rfl
  · next written => rw [written]; rfl

/-- Assigning somewhere else than to the entries that differ fails alike, or they are all that differs
afterwards. -/
theorem DifferAt.assign (differ : DifferAt keys path first second) (ordered : InOrder value)
    (somewhere : route ≠ []) (clear : ∀ key ∈ keys, key ∉ route) :
    Alike (fun left right => DifferAt keys path (some left) (some right))
      (assign value route (first.getD (.object [])))
      (assign value route (second.getD (.object []))) := by
  induction route generalizing path first second with
  | nil => exact absurd rfl somewhere
  | cons segment rest ih =>
      have notKey : segment ∉ keys := fun member => clear segment member List.mem_cons_self
      cases differ with
      | same path value => exact Alike.refl (fun _ => .same path _) _
      | entries knownLeft knownRight ascendsLeft ascendsRight agree differ =>
          rw [getD_of_entriesOf knownLeft, getD_of_entriesOf knownRight]
          have written := differAt_insert_entry ascendsLeft ascendsRight agree differ segment
          cases rest with
          | nil =>
              rw [assign_leaf, assign_leaf, agree segment notKey]
              exact .ok (written _)
          | cons next rest =>
              rw [assign_step, assign_step, agree segment notKey]
              exact (Alike.refl (fun _ => rfl) _).map fun child _ same => same ▸ written child
      | @inside home path left right agree deeper =>
          rw [Option.getD_some, Option.getD_some]
          by_cases same : home = segment
          · subst same
            cases rest with
            | nil =>
                rw [assign_leaf, assign_leaf]
                exact .ok (differAt_insert_inside agree (deeper.layOver ordered))
            | cons next rest =>
                rw [assign_step, assign_step]
                refine (ih deeper (List.cons_ne_nil next rest) ?_).map fun _ _ inner =>
                  differAt_insert_inside agree inner
                exact fun key member listed => clear key member (List.mem_cons_of_mem home listed)
          · have written := differAt_insert_beside agree deeper same
            cases rest with
            | nil =>
                rw [assign_leaf, assign_leaf, agree segment (Ne.symm same)]
                exact .ok (written _)
            | cons next rest =>
                rw [assign_step, assign_step, agree segment (Ne.symm same)]
                exact (Alike.refl (fun _ => rfl) _).map fun child _ same => same ▸ written child

end

end GitDelivery.Json
