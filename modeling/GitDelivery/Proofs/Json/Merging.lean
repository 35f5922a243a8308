import GitDelivery.Proofs.Json.Assignment

set_option autoImplicit false

/-! What is found along a path of keys after a patch has been merged into a value, and merging the same
patch a second time. All is said of a value that may not be there yet, so that following a path by one key
gives the same situation again. -/

namespace GitDelivery.Json

variable {value patch : Json} {old : Option Json} {path : List String} {key : String}

/-! ### Along a path -/

/-- What is found at the end of a path when a patch has been merged into a value. -/
inductive MergedAt (base patch : Json) (path : List String) : Option Json → Prop where
  | both {fields others : Table Json} (before : at? path base = some (.object fields))
      (given : at? path patch = some (.object others)) :
      MergedAt base patch path (some ((object fields).merge (.object others)))
  | replaced {value : Json} (given : at? path patch = some value)
      (apart : ∀ fields others, at? path base = some (.object fields) → value ≠ .object others) :
      MergedAt base patch path (some value)
  | kept (silent : at? path patch = none) (free : ¬Blocked path (some patch)) :
      MergedAt base patch path (at? path base)
  | gone (silent : at? path patch = none) (blocked : Blocked path (some patch)) :
      MergedAt base patch path none

theorem get?_layOver (key : String) (old : Option Json) (patch : Json) :
    (layOver old patch).get? key =
      match patch.get? key with
      | some child => some (layOver (old.bind (get? key)) child)
      | none => if patch.isObject then old.bind (get? key) else none := by
  cases old with
  | some before => exact get?_merge key before patch
  | none =>
      change patch.get? key = _
      cases patch.get? key with
      | some child => rfl
      | none => exact (ite_self none).symm

theorem at?_layOver_of_get? {child : Json} (given : patch.get? key = some child) :
    at? (key :: path) (layOver old patch) = at? path (layOver (old.bind (get? key)) child) := by
  rw [at?_cons, get?_layOver, given]
  rfl

/-- What the patch has at the end of the path settles what is found there. -/
theorem at?_layOver_of_given (given : at? path patch = some value) :
    at? path (layOver old patch) = some (settled (old.bind (at? path)) value) := by
  induction path generalizing old patch with
  | nil =>
      obtain rfl : patch = value := Option.some.inj given
      rw [← layOver_eq_settled]
      cases old <;> rfl
  | cons key path ih =>
      obtain ⟨child, reached, below⟩ := Option.bind_eq_some_iff.mp given
      rw [at?_layOver_of_get? reached, ih below, Option.bind_assoc]
      rfl

/-- Where a path ends early, nothing but the value itself can be in the way. -/
theorem blocked_of_missing_iff (missing : patch.get? key = none) :
    Blocked (key :: path) (some patch) ↔ patch.isObject = false := by
  rw [blocked_cons_iff]
  cases patch with
  | object fields =>
      have absent : Table.get? key fields = none := missing
      have entries : entriesOf? (some (.object fields)) = some fields := rfl
      have free : ¬Blocked path none := by
        rintro ⟨_, _, _, _, impossible, _⟩
        cases impossible
      simp [entries, absent, free, isObject]
  | _ => exact iff_of_true (.inl rfl) rfl

theorem blocked_get?_iff {child : Json} (given : patch.get? key = some child) :
    Blocked (key :: path) (some patch) ↔ Blocked path (some child) := by
  cases patch with
  | object fields =>
      have entries : entriesOf? (some (.object fields)) = some fields := rfl
      have found : Table.get? key fields = some child := given
      simp [blocked_cons_iff, entries, found]
  | _ => cases given

/-- A patch that has nothing there, and nothing but objects on the way, leaves what was there. -/
theorem at?_layOver_of_free (silent : at? path patch = none) (free : ¬Blocked path (some patch)) :
    at? path (layOver old patch) = old.bind (at? path) := by
  induction path generalizing old patch with
  | nil => cases silent
  | cons key path ih =>
      cases given : patch.get? key with
      | none =>
          rw [blocked_of_missing_iff given, Bool.not_eq_false] at free
          rw [at?_cons, get?_layOver, given]
          simp only [free, if_true]
          exact Option.bind_assoc old (get? key) (at? path)
      | some child =>
          rw [at?_cons, given] at silent
          rw [blocked_get?_iff given] at free
          rw [at?_layOver_of_get? given, ih silent free]
          exact Option.bind_assoc old (get? key) (at? path)

/-- Whatever else than an object a patch has on the way takes the place of all that was below. -/
theorem at?_layOver_of_blocked (blocked : Blocked path (some patch)) :
    at? path (layOver old patch) = none := by
  induction path generalizing old patch with
  | nil => exact absurd blocked not_blocked_nil
  | cons key path ih =>
      cases given : patch.get? key with
      | none =>
          rw [blocked_of_missing_iff given] at blocked
          rw [at?_cons, get?_layOver, given]
          simp [blocked]
      | some child =>
          rw [blocked_get?_iff given] at blocked
          rw [at?_layOver_of_get? given]
          exact ih blocked

private theorem settled_of_apart
    (apart : ∀ fields others, old = some (.object fields) → value ≠ .object others) :
    settled old value = value := by
  cases old with
  | none => rfl
  | some before =>
      cases before with
      | object fields =>
          cases value with
          | object others => exact absurd rfl (apart fields others rfl)
          | _ => rfl
      | _ => rfl

private theorem mergedAt (base patch : Json) (path : List String) :
    MergedAt base patch path (at? path (base.merge patch)) := by
  change MergedAt base patch path (at? path (layOver (some base) patch))
  cases given : at? path patch with
  | none =>
      by_cases blocked : Blocked path (some patch)
      · rw [at?_layOver_of_blocked blocked]
        exact .gone given blocked
      · rw [at?_layOver_of_free given blocked]
        exact .kept given blocked
  | some value =>
      rw [at?_layOver_of_given given, Option.bind_some]
      by_cases objects : ∃ fields others,
          at? path base = some (.object fields) ∧ value = .object others
      · obtain ⟨fields, others, before, rfl⟩ := objects
        rw [before]
        exact .both before given
      · have apart : ∀ fields others, at? path base = some (.object fields) → value ≠ .object others :=
          fun fields others before same => objects ⟨fields, others, before, same⟩
        rw [settled_of_apart apart]
        exact .replaced given apart

/-! ### A second time -/

/-- Every field of a patch is merged into a field already, and merging it again leaves that as it is. -/
def Absorbs (base patch : Table Json) : Prop :=
  ∀ key value, Table.get? key patch = some value →
    ∃ held, Table.get? key base = some held ∧ held.merge value = held

/-- What a patch says of a key after the first time is written over. -/
theorem insert_mergeFields_erase (key : String) (held : Json) (base patch : Table Json) :
    Table.insert key held (mergeFields base (Table.erase key patch)) =
      Table.insert key held (mergeFields base patch) := by
  induction patch with
  | nil => rfl
  | cons field rest ih =>
      obtain ⟨name, value⟩ := field
      by_cases same : name = key
      · subst same
        rw [Table.erase, if_pos rfl, ih, mergeFields, Table.insert_insert]
      · rw [Table.erase, if_neg same, mergeFields, mergeFields, Table.insert_comm (Ne.symm same), ih,
          Table.insert_comm same]

private theorem Absorbs.erase {base : Table Json} {value : Json} {rest : Table Json}
    (absorbs : Absorbs base ((key, value) :: rest)) : Absorbs base (Table.erase key rest) := by
  intro other child found
  rw [Table.get?_erase] at found
  split at found
  · cases found
  · next different =>
      refine absorbs other child ?_
      rw [Table.get?, if_neg (Ne.symm different)]
      exact found

private theorem mergeFields_of_absorbs {base : Table Json} :
    ∀ {patch : Table Json}, Absorbs base patch → mergeFields base patch = base
  | [], _ => by rw [mergeFields]
  | (key, value) :: rest, absorbs => by
      obtain ⟨held, found, same⟩ := absorbs key value (if_pos rfl)
      rw [mergeFields, found]
      dsimp only
      rw [same, ← insert_mergeFields_erase, mergeFields_of_absorbs absorbs.erase,
        Table.insert_of_get? found]
termination_by patch => patch.length
decreasing_by
  have shorter := Table.length_erase_le key rest
  simp only [List.length_cons]
  omega

/-- What holds of a value if it holds of all fields of an object, holds of every value. -/
theorem induction_fields {motive : Json → Prop} (plain : ∀ value, value.isObject = false → motive value)
    (object : ∀ fields, (∀ key child, Table.get? key fields = some child → motive child) →
      motive (.object fields)) (value : Json) : motive value := by
  cases shape : value with
  | object fields =>
      refine object fields fun key child found => ?_
      exact induction_fields plain object child
  | _ => exact plain _ rfl
termination_by sizeOf value
decreasing_by
  subst shape
  have smaller := List.sizeOf_lt_of_mem (Table.mem_of_get? found)
  simp only [Prod.mk.sizeOf_spec, Json.object.sizeOf_spec] at smaller ⊢
  omega

private theorem layOver_twice (old : Option Json) (patch : Json) :
    (layOver old patch).merge patch = layOver old patch := by
  induction patch using induction_fields generalizing old with
  | plain value plain =>
      rw [layOver_plain old plain]
      exact layOver_plain (some value) plain
  | object fields ih =>
      obtain ⟨merged, whole⟩ : ∃ merged, layOver old (.object fields) = .object merged := by
        cases old with
        | none => exact ⟨fields, rfl⟩
        | some before => cases before <;> exact ⟨_, rfl⟩
      have absorbs : Absorbs merged fields := by
        intro key value found
        have held : Table.get? key merged = some (layOver (old.bind (get? key)) value) := by
          have read := get?_layOver key old (.object fields)
          rw [whole] at read
          rw [show (Json.object fields).get? key = some value from found] at read
          exact read
        exact ⟨_, held, ih key value found _⟩
      rw [whole]
      exact congrArg object (mergeFields_of_absorbs absorbs)

/-- Merging a patch into a value gives at the end of every path what the patch has there, unless both have
an object there, and leaves what the patch neither has nor stands in the way of. A second time it changes
nothing. -/
theorem merges_right_biased (base patch : Json) :
    (∀ path, MergedAt base patch path (at? path (base.merge patch))) ∧
      (base.merge patch).merge patch = base.merge patch :=
  ⟨mergedAt base patch, layOver_twice (some base) patch⟩

end GitDelivery.Json
