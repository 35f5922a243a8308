import GitDelivery.Proofs.Json.Paths
import GitDelivery.Proofs.Table

set_option autoImplicit false

/-! Patches of objects as API servers merge them: a field of the patch is merged into the field of that
name, null takes a field away, and anything that is not an object replaces what is there. -/

namespace GitDelivery.Json

mutual

/-- What a patch makes of a value. -/
def mergePatch (target : Json) : Json → Json
  | object patch => object (patchFields (target.fields?.getD []) patch)
  | null => null
  | bool value => bool value
  | number value => number value
  | text value => text value
  | array items => array items

def patchFields (target : Table Json) : List (String × Json) → Table Json
  | [] => target
  | (key, value) :: rest =>
    let others := patchFields target rest
    let old := (Table.get? key target).getD null
    if value.isNull then Table.erase key others else Table.insert key (mergePatch old value) others

end

def patched (old : Option Json) (value : Json) : Option Json :=
  if value.isNull then none else some (mergePatch (old.getD null) value)

theorem get?_patchFields (key : String) (target patch : Table Json) :
    Table.get? key (patchFields target patch) =
      match Table.get? key patch with
      | some value => patched (Table.get? key target) value
      | none => Table.get? key target := by
  induction patch with
  | nil =>
      rw [patchFields]
      rfl
  | cons entry rest ih =>
      obtain ⟨name, value⟩ := entry
      rw [patchFields]
      by_cases same : name = key
      · subst same
        cases absent : value.isNull with
        | true => simp [Table.get?, patched, absent, Table.get?_erase_self]
        | false => simp [Table.get?, patched, absent, Table.get?_insert_self]
      · cases absent : value.isNull with
        | true =>
            simp only [if_true, Table.get?_erase, if_neg (Ne.symm same), ih, Table.get?, if_neg same]
        | false =>
            simp only [Bool.false_eq_true, if_false, Table.get?_insert, if_neg (Ne.symm same), ih,
              Table.get?, if_neg same]

theorem get?_patchFields_of_none {key : String} {base patch : Table Json}
    (silent : Table.get? key patch = none) :
    Table.get? key (patchFields base patch) = Table.get? key base := by
  rw [get?_patchFields, silent]

theorem get?_mergePatch {patch : Table Json} (key : String) (target : Json) :
    (mergePatch target (.object patch)).get? key =
      match Table.get? key patch with
      | some value => patched (target.get? key) value
      | none => target.get? key := by
  rw [mergePatch]
  change Table.get? key (patchFields _ _) = _
  rw [get?_patchFields]
  cases target <;> rfl

end GitDelivery.Json
