import GitDelivery.Resource.Key

set_option autoImplicit false

/-! What is kept for each subscription, by its key. A key that is set again keeps its place. -/

namespace GitDelivery

abbrev Registry (α : Type) := List (ObjectKey × α)

namespace Registry

variable {α : Type}

def find? (key : ObjectKey) : Registry α → Option α
  | [] => none
  | (other, value) :: rest => if other = key then some value else find? key rest

def set (key : ObjectKey) (value : α) : Registry α → Registry α
  | [] => [(key, value)]
  | (other, old) :: rest =>
    if other = key then (key, value) :: rest else (other, old) :: set key value rest

def erase (key : ObjectKey) : Registry α → Registry α
  | [] => []
  | (other, value) :: rest => if other = key then erase key rest else (other, value) :: erase key rest

def contains (key : ObjectKey) (registry : Registry α) : Bool :=
  (find? key registry).isSome

theorem find?_set_self (key : ObjectKey) (value : α) (registry : Registry α) :
    find? key (set key value registry) = some value := by
  induction registry with
  | nil => simp [set, find?]
  | cons entry rest ih =>
      obtain ⟨other, old⟩ := entry
      by_cases same : other = key
      · simp [set, find?, same]
      · simp [set, find?, same, ih]

theorem find?_set_of_ne {key other : ObjectKey} (different : other ≠ key) (value : α)
    (registry : Registry α) : find? other (set key value registry) = find? other registry := by
  induction registry with
  | nil => simp [set, find?, different.symm]
  | cons entry rest ih =>
      obtain ⟨name, old⟩ := entry
      by_cases same : name = key
      · subst same
        simp [set, find?, different.symm]
      · simp [set, find?, same, ih]

theorem find?_erase_self (key : ObjectKey) (registry : Registry α) :
    find? key (erase key registry) = none := by
  induction registry with
  | nil => rfl
  | cons entry rest ih =>
      obtain ⟨other, value⟩ := entry
      by_cases same : other = key
      · simp [erase, same, ih]
      · simp [erase, find?, same, ih]

theorem find?_erase_of_ne {key other : ObjectKey} (different : other ≠ key)
    (registry : Registry α) : find? other (erase key registry) = find? other registry := by
  induction registry with
  | nil => rfl
  | cons entry rest ih =>
      obtain ⟨name, value⟩ := entry
      by_cases same : name = key
      · subst same
        simp [erase, find?, different.symm, ih]
      · simp [erase, find?, same, ih]

/-- What holds of everything that is kept, and of what is set, holds after that. -/
theorem forall_set {holds : ObjectKey → α → Prop} {key : ObjectKey} {value : α}
    {registry : Registry α} (here : holds key value)
    (others : ∀ other found, other ≠ key → find? other registry = some found → holds other found) :
    ∀ other found, find? other (set key value registry) = some found → holds other found := by
  intro other found present
  by_cases same : other = key
  · subst same
    cases (find?_set_self other value registry).symm.trans present
    exact here
  · exact others other found same ((find?_set_of_ne same value registry).symm.trans present)

/-- Nothing is added by erasing. -/
theorem find?_of_erase {key other : ObjectKey} {value : α} {registry : Registry α}
    (found : find? other (erase key registry) = some value) : find? other registry = some value := by
  by_cases same : other = key
  · subst same
    cases (find?_erase_self other registry).symm.trans found
  · exact (find?_erase_of_ne same registry).symm.trans found

end Registry

end GitDelivery
