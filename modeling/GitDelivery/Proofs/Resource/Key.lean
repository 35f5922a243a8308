import GitDelivery.Proofs.Text
import GitDelivery.Resource.Key

set_option autoImplicit false

/-! Keys can be told from their texts if their namespaces have no slashes. -/

namespace GitDelivery.ObjectKey

def IsPlain (key : ObjectKey) : Prop :=
  '/' ∉ key.space.toList

instance (key : ObjectKey) : Decidable key.IsPlain :=
  inferInstanceAs (Decidable (_ ∉ _))

private theorem cutAt_text {key : ObjectKey} (plain : key.IsPlain) :
    Text.cutAt '/' key.text.toList = some (key.space.toList, key.name.toList) := by
  have chars : key.text.toList = key.space.toList ++ '/' :: key.name.toList := by
    simp [text, String.toList_append]
  rw [chars]
  exact Text.cutAt_append plain key.name.toList

theorem text_inj {first second : ObjectKey} (plain : first.IsPlain) (other : second.IsPlain)
    (same : first.text = second.text) : first = second := by
  have cuts := cutAt_text plain
  rw [same, cutAt_text other] at cuts
  obtain ⟨spaces, names⟩ := Prod.mk.inj (Option.some.inj cuts)
  cases first
  cases second
  rw [mk.injEq]
  exact ⟨(String.toList_injective spaces).symm, (String.toList_injective names).symm⟩

end GitDelivery.ObjectKey
