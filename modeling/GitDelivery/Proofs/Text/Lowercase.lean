import GitDelivery.Text.Lowercase

set_option autoImplicit false

/-! Small letters of texts with a dash in them: what stands on one side of it makes no difference to the
other side, since a word ends there. -/

namespace GitDelivery.Text

/-- A character that is not passed over ends the search for one with a property. -/
private theorem found_append {passes found : Char → Bool} {stop : Char} (stays : passes stop = false)
    (other : found stop = false) (near far : List Char) :
    (match (near ++ stop :: far).dropWhile passes with
      | [] => false
      | c :: _ => found c) =
      match near.dropWhile passes with
      | [] => false
      | c :: _ => found c := by
  induction near with
  | nil =>
      rw [List.nil_append, List.dropWhile_cons_of_neg (by simp [stays])]
      exact other
  | cons c near ih =>
      rw [List.cons_append, List.dropWhile_cons, List.dropWhile_cons]
      cases passes c with
      | true => exact ih
      | false => rfl

/-- Nothing behind a dash is looked at. -/
theorem startsCased_append_dash (near far : List Char) :
    startsCased (near ++ '-' :: far) = startsCased near := by
  refine found_append ?_ ?_ near far
  · change caseIgnorableRanges.any (fun range => range.1 ≤ '-'.toNat && '-'.toNat ≤ range.2) = false
    rw [← Array.any_toList]
    decide +kernel
  · change casedRanges.any (fun range => range.1 ≤ '-'.toNat && '-'.toNat ≤ range.2) = false
    rw [← Array.any_toList]
    decide +kernel

private theorem lowercaseFrom_append_dash (before near far : List Char) :
    lowercaseFrom before (near ++ '-' :: far) =
      lowercaseFrom before near ++ '-' :: lowercaseFrom ('-' :: (near.reverse ++ before)) far := by
  induction near generalizing before with
  | nil => rfl
  | cons c near ih =>
      rw [List.cons_append, lowercaseFrom, lowercaseFrom, startsCased_append_dash, ih]
      simp

private theorem lowercaseFrom_after_dash (near far text : List Char) :
    lowercaseFrom (near ++ '-' :: far) text = lowercaseFrom near text := by
  induction text generalizing near with
  | nil => rfl
  | cons c rest ih =>
      rw [lowercaseFrom, lowercaseFrom, startsCased_append_dash, ← List.cons_append, ih]

theorem lowercase_append_dash (first second : String) :
    lowercase (first ++ "-" ++ second) = lowercase first ++ "-" ++ lowercase second := by
  have dash : "-".toList = ['-'] := rfl
  have apart := lowercaseFrom_append_dash [] first.toList second.toList
  have fresh := lowercaseFrom_after_dash [] first.toList.reverse second.toList
  rw [List.nil_append] at fresh
  rw [List.append_nil, fresh] at apart
  rw [← String.toList_inj]
  unfold lowercase
  simp only [String.toList_append, String.toList_ofList, dash, List.append_assoc,
    List.singleton_append, apart]

end GitDelivery.Text
