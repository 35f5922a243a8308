import GitDelivery.Bytes.Utf8
import GitDelivery.Proofs.Manifest.Stream

set_option autoImplicit false

/-! Files of one document. -/

namespace GitDelivery.Manifest

/-- One line of ASCII characters, which is neither a separator nor only a comment. -/
structure OneLine (text : String) : Prop where
  ascii : ∀ c ∈ text.toList, c.toNat < 128
  unbroken : '\n' ∉ text.toList
  opens : isSeparator text.toList = false
  content : hasContent text.toList = true

-- The characters are tried by `List.all`, which recurses no deeper for a longer line.
instance (text : String) : Decidable (OneLine text) :=
  decidable_of_iff ((text.toList.all fun c => c.toNat < 128) = true ∧ '\n' ∉ text.toList ∧
      isSeparator text.toList = false ∧ hasContent text.toList = true)
    ⟨fun ⟨ascii, unbroken, opens, content⟩ =>
        ⟨fun c member => of_decide_eq_true (List.all_eq_true.mp ascii c member), unbroken, opens,
          content⟩,
      fun line =>
        ⟨List.all_eq_true.mpr fun c member => decide_eq_true (line.ascii c member), line.unbroken,
          line.opens, line.content⟩⟩

namespace OneLine

variable {text : String}

theorem text?_ofText (line : OneLine text) : (Bytes.ofText text).text? = some text :=
  Bytes.text?_ofText line.ascii

private theorem isDocument (line : OneLine text) : IsDocument text := by
  have single : linesOf text = [text.toList] := Text.pieces_of_not_mem line.unbroken
  have content : ∃ line ∈ linesOf text, IsContentLine line := by
    rw [single]
    exact ⟨_, List.mem_cons_self, hasContent_iff.mp line.content⟩
  have whole : ∀ line ∈ linesOf text, ¬IsSeparatorLine line := by
    rw [single, List.forall_mem_singleton, ← isSeparator_iff, line.opens]
    exact Bool.false_ne_true
  exact ⟨content, whole, fun first => line.unbroken (List.mem_of_head? first),
    fun last => line.unbroken (List.mem_of_getLast? last)⟩

theorem splitDocuments_eq (line : OneLine text) : splitDocuments text = [text] :=
  line.isDocument.documentsOf_eq

end OneLine

end GitDelivery.Manifest
