import GitDelivery.PackageOverride
import GitDelivery.Proofs.Table

set_option autoImplicit false

/-! What is found at a path after values were merged or a value was assigned. A text that is found
there was there before or comes from what was written. -/

namespace GitDelivery.Json

variable {base value target written : Json} {fields : Table Json} {path wanted : List String}
  {key found : String}

theorem at?_cons (key : String) (path : List String) (value : Json) :
    at? (key :: path) value = (value.get? key).bind (at? path) :=
  rfl

theorem at?_insert_of_ne {segment : String} (different : key ≠ segment) (child : Json) :
    at? (key :: path) (.object (Table.insert segment child fields)) =
      at? (key :: path) (.object fields) := by
  rw [at?_cons, at?_cons]
  exact congrArg (fun found : Option Json => found.bind (at? path))
    (Table.get?_insert_of_ne different child fields)

theorem at?_insert_self (segment : String) (child : Json) :
    at? (segment :: path) (.object (Table.insert segment child fields)) = at? path child := by
  rw [at?_cons]
  exact congrArg (fun found : Option Json => found.bind (at? path))
    (Table.get?_insert_self segment child fields)

/-! ### Merging -/

def layOver (old : Option Json) (value : Json) : Json :=
  match old with
  | some old => old.merge value
  | none => value

theorem get?_mergeFields (key : String) (base patch : Table Json) :
    Table.get? key (mergeFields base patch) =
      match Table.get? key patch with
      | some value => some (layOver (Table.get? key base) value)
      | none => Table.get? key base := by
  induction patch with
  | nil =>
      rw [mergeFields]
      rfl
  | cons entry rest ih =>
      obtain ⟨name, value⟩ := entry
      rw [mergeFields]
      by_cases same : name = key
      · subst same
        rw [Table.get?_insert_self]
        simp only [Table.get?, if_true]
        rfl
      · rw [Table.get?_insert_of_ne (Ne.symm same), ih]
        simp only [Table.get?, if_neg same]

theorem get?_merge (key : String) (base value : Json) :
    (base.merge value).get? key =
      match value.get? key with
      | some child => some (layOver (base.get? key) child)
      | none => if value.isObject then base.get? key else none := by
  cases value with
  | object patch =>
      cases base with
      | object fields => exact get?_mergeFields key fields patch
      | _ =>
          change Table.get? key patch = match Table.get? key patch with
            | some child => some child
            | none => none
          cases Table.get? key patch <;> rfl
  | _ => rfl

theorem text_at_merge (present : at? wanted (base.merge value) = some (.text found)) :
    at? wanted base = some (.text found) ∨ at? wanted value = some (.text found) := by
  induction wanted generalizing base value with
  | nil =>
      cases value with
      | object patch => cases base <;> cases present
      | _ => exact .inr present
  | cons key rest ih =>
      rw [at?_cons, get?_merge] at present
      rw [at?_cons, at?_cons]
      cases patched : value.get? key with
      | none =>
          rw [patched] at present
          cases shape : value.isObject with
          | true =>
              rw [shape] at present
              exact .inl present
          | false =>
              rw [shape] at present
              cases present
      | some child =>
          rw [patched] at present
          cases old : base.get? key with
          | none =>
              rw [old] at present
              exact .inr present
          | some before =>
              rw [old] at present
              exact ih present

/-- A value that has nothing to say about a path below it: it leads along the path through objects
and then ends. -/
def Spares : List String → Json → Prop
  | [], _ => False
  | key :: rest, value =>
    value.isObject = true ∧ ∀ child, value.get? key = some child → Spares rest child

theorem not_spares_of_text (present : at? wanted value = some (.text found)) :
    ¬ Spares wanted value := by
  induction wanted generalizing value with
  | nil => exact id
  | cons key rest ih =>
      rintro ⟨_, spared⟩
      rw [at?_cons] at present
      obtain ⟨child, reached, below⟩ := Option.bind_eq_some_iff.mp present
      exact ih below (spared child reached)

theorem at?_merge_of_spares (spared : Spares wanted value)
    (present : at? wanted base = some (.text found)) :
    at? wanted (base.merge value) = some (.text found) := by
  induction wanted generalizing base value with
  | nil => exact spared.elim
  | cons key rest ih =>
      obtain ⟨shape, below⟩ := spared
      rw [at?_cons] at present
      obtain ⟨before, reached, rests⟩ := Option.bind_eq_some_iff.mp present
      rw [at?_cons, get?_merge]
      cases patched : value.get? key with
      | none =>
          simp only [shape, if_true, reached]
          exact rests
      | some child =>
          simp only [reached]
          exact ih (below child patched) rests

/-! ### Assigning -/

def assign (value : Json) : List String → Json → Except PathError Json
  | [], _ => .ok value
  | [leaf], target =>
    match target.fields? with
    | none => .error (.blockedAtLeaf leaf)
    | some fields => .ok (.object (Table.insert leaf (layOver (Table.get? leaf fields) value) fields))
  | segment :: next :: path, target =>
    match target.fields? with
    | none => .error (.blockedAt segment)
    | some fields =>
      match assign value (next :: path) ((Table.get? segment fields).getD (.object [])) with
      | .error error => .error error
      | .ok child => .ok (.object (Table.insert segment child fields))

theorem assign_leaf_ok_iff {leaf : String} :
    assign value [leaf] target = .ok written ↔
      ∃ fields, target = .object fields ∧
        written = .object (Table.insert leaf (layOver (Table.get? leaf fields) value) fields) := by
  cases target with
  | object fields =>
      constructor
      · intro assigned
        exact ⟨fields, rfl, (Except.ok.inj assigned).symm⟩
      · rintro ⟨_, same, rfl⟩
        cases same
        rfl
  | _ => simp [assign, fields?]

theorem assign_step_ok_iff {segment next : String} :
    assign value (segment :: next :: path) target = .ok written ↔
      ∃ fields child, target = .object fields ∧
        assign value (next :: path) ((Table.get? segment fields).getD (.object [])) = .ok child ∧
        written = .object (Table.insert segment child fields) := by
  cases target with
  | object fields =>
      simp only [assign, fields?]
      constructor
      · intro assigned
        split at assigned
        · cases assigned
        · next child below => exact ⟨fields, child, rfl, below, (Except.ok.inj assigned).symm⟩
      · rintro ⟨_, child, same, below, rfl⟩
        cases same
        rw [below]
  | _ => simp [assign, fields?]

theorem exists_assign_empty (value : Json) (path : List String) :
    ∃ written, assign value path (.object []) = .ok written := by
  induction path with
  | nil => exact ⟨value, rfl⟩
  | cons segment path ih =>
      cases path with
      | nil => exact ⟨_, assign_leaf_ok_iff.mpr ⟨[], rfl, rfl⟩⟩
      | cons next path =>
          obtain ⟨child, below⟩ := ih
          exact ⟨_, assign_step_ok_iff.mpr ⟨[], child, rfl, below, rfl⟩⟩

/-- Writing in place leaves the value that an assignment gives, and one that cannot be followed to its
end leaves all as it was: objects are made only where nothing can be in the way any more. -/
theorem write_eq (value : Json) (path : List String) (target : Json) :
    write value path target =
      match assign value path target with
      | .ok written => (written, .ok ())
      | .error error => (target, .error error) := by
  induction path generalizing target with
  | nil => rfl
  | cons segment path ih =>
      cases shape : target.fields? with
      | none => cases path <;> simp only [write, assign, shape]
      | some fields =>
          have whole : target = .object fields := by
            cases target with
            | object inner => exact congrArg object (Option.some.inj shape)
            | _ => cases shape
          cases path with
          | nil =>
              simp only [write, assign, shape]
              rfl
          | cons next path =>
              simp only [write, assign, shape, ih]
              cases reached : Table.get? segment fields with
              | none =>
                  obtain ⟨child, below⟩ := exists_assign_empty value (next :: path)
                  simp only [Option.getD_none, below]
              | some old =>
                  simp only [Option.getD_some]
                  cases assign value (next :: path) old with
                  | ok child => rfl
                  | error failure => simp only [Table.insert_of_get? reached, whole]

theorem text_at_insert {segment : String} {child : Json}
    (present : at? wanted (.object (Table.insert segment child fields)) = some (.text found)) :
    at? wanted (.object fields) = some (.text found) ∨
      ∃ below, wanted = segment :: below ∧ at? below child = some (.text found) := by
  cases wanted with
  | nil => cases present
  | cons key below =>
      by_cases same : key = segment
      · subst same
        rw [at?_insert_self] at present
        exact .inr ⟨below, rfl, present⟩
      · rw [at?_insert_of_ne same] at present
        exact .inl present

/-- A text that is found after an assignment was there before, or is part of the value that was
assigned. -/
theorem text_at_assign (assigned : assign value path target = .ok written)
    (present : at? wanted written = some (.text found)) :
    at? wanted target = some (.text found) ∨
      ∃ rest, wanted = path ++ rest ∧ at? rest value = some (.text found) := by
  induction path generalizing wanted target written with
  | nil =>
      cases assigned
      exact .inr ⟨wanted, rfl, present⟩
  | cons segment path ih =>
      cases path with
      | nil =>
          obtain ⟨fields, rfl, rfl⟩ := assign_leaf_ok_iff.mp assigned
          rcases text_at_insert present with before | ⟨below, rfl, inside⟩
          · exact .inl before
          · rw [at?_cons]
            change (Table.get? segment fields).bind (at? below) = _ ∨ _
            cases old : Table.get? segment fields with
            | none =>
                rw [old] at inside
                exact .inr ⟨below, rfl, inside⟩
            | some before =>
                rw [old] at inside
                rcases text_at_merge inside with kept | new
                · exact .inl kept
                · exact .inr ⟨below, rfl, new⟩
      | cons next path =>
          obtain ⟨fields, child, rfl, deeper, rfl⟩ := assign_step_ok_iff.mp assigned
          rcases text_at_insert present with before | ⟨below, rfl, inside⟩
          · exact .inl before
          · rw [at?_cons]
            change (Table.get? segment fields).bind (at? below) = _ ∨ _
            rcases ih deeper inside with before | ⟨rest, shape, new⟩
            · cases old : Table.get? segment fields with
              | none =>
                  rw [old] at before
                  cases below <;> cases before
              | some child =>
                  rw [old] at before
                  exact .inl before
            · exact .inr ⟨rest, congrArg (segment :: ·) shape, new⟩

/-- A text is not touched by an assignment that leads elsewhere, or whose value spares it. -/
theorem at?_assign_of_spares (somewhere : path ≠ [])
    (assigned : assign value path target = .ok written)
    (present : at? wanted target = some (.text found))
    (spared : ∀ rest, wanted = path ++ rest → Spares rest value) :
    at? wanted written = some (.text found) := by
  induction path generalizing wanted target written with
  | nil => exact absurd rfl somewhere
  | cons segment path ih =>
      cases wanted with
      | nil =>
          cases path with
          | nil =>
              obtain ⟨fields, rfl, rfl⟩ := assign_leaf_ok_iff.mp assigned
              cases present
          | cons next path =>
              obtain ⟨fields, child, rfl, deeper, rfl⟩ := assign_step_ok_iff.mp assigned
              cases present
      | cons key below =>
          rw [at?_cons] at present
          obtain ⟨before, reached, rests⟩ := Option.bind_eq_some_iff.mp present
          cases path with
          | nil =>
              obtain ⟨fields, rfl, rfl⟩ := assign_leaf_ok_iff.mp assigned
              by_cases same : key = segment
              · subst same
                change Table.get? key fields = some before at reached
                rw [at?_insert_self, reached]
                exact at?_merge_of_spares (spared below rfl) rests
              · rw [at?_insert_of_ne same, at?_cons, reached]
                exact rests
          | cons next path =>
              obtain ⟨fields, child, rfl, deeper, rfl⟩ := assign_step_ok_iff.mp assigned
              by_cases same : key = segment
              · subst same
                change Table.get? key fields = some before at reached
                rw [reached] at deeper
                rw [at?_insert_self]
                refine ih (List.cons_ne_nil next path) deeper rests ?_
                intro rest shape
                exact spared rest (congrArg (key :: ·) shape)
              · rw [at?_insert_of_ne same, at?_cons, reached]
                exact rests

end GitDelivery.Json
