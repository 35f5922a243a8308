import GitDelivery.Manifest.Classification
import GitDelivery.Proofs.Text

set_option autoImplicit false

/-! Which files hold manifests, told by their names. -/

namespace GitDelivery.Manifest

/-- The name of a manifest file ends in one of two extensions, with something before it. -/
def IsManifestName (name : String) : Prop :=
  ∃ stem extension, stem ≠ "" ∧ name = stem ++ "." ++ extension ∧
    (Text.sameIgnoringCase extension "yaml" = true ∨ Text.sameIgnoringCase extension "yml" = true)

private theorem splitAll_point (stem tail : String) :
    Text.splitAll '.' (stem ++ "." ++ tail) = Text.splitAll '.' stem ++ Text.splitAll '.' tail :=
  Text.splitAll_append_separator stem tail

private theorem exists_last_point {name : String} (pointed : '.' ∈ name.toList) :
    ∃ stem tail, name = stem ++ "." ++ tail ∧ '.' ∉ tail.toList := by
  obtain ⟨after, before, split, absent⟩ :=
    List.eq_append_cons_of_mem (List.mem_reverse.mpr pointed)
  refine ⟨String.ofList before.reverse, String.ofList after.reverse, ?_, ?_⟩
  · apply String.toList_injective
    have turned := congrArg List.reverse split
    rw [List.reverse_reverse] at turned
    simp [turned]
  · simpa using absent

private theorem splitAll_eq_empty {text : String} (single : Text.splitAll '.' text = [""]) :
    text = "" := by
  by_cases pointed : '.' ∈ text.toList
  · obtain ⟨stem, tail, rfl, absent⟩ := exists_last_point pointed
    rw [splitAll_point, Text.splitAll_of_not_mem absent] at single
    have nothing : Text.splitAll '.' stem = [] := by
      cases cut : Text.splitAll '.' stem with
      | nil => rfl
      | cons piece more =>
          rw [cut] at single
          simp at single
    exact absurd (List.map_eq_nil_iff.mp nothing) (Text.pieces_ne_nil _)
  · rw [Text.splitAll_of_not_mem pointed] at single
    exact List.singleton_inj.mp single

private theorem extension?_of_last {name stem tail : String}
    (cut : Text.splitAll '.' name = Text.splitAll '.' stem ++ [tail]) :
    extension? name = if stem = "" then none else some tail := by
  have turned : (Text.splitAll '.' name).reverse = tail :: (Text.splitAll '.' stem).reverse := by
    rw [cut, List.reverse_concat]
  unfold extension?
  dsimp only
  rw [turned]
  cases pieces : (Text.splitAll '.' stem).reverse with
  | nil =>
      have nothing : Text.splitAll '.' stem = [] := List.reverse_eq_nil_iff.mp pieces
      exact absurd (List.map_eq_nil_iff.mp nothing) (Text.pieces_ne_nil _)
  | cons before more =>
      change (if more.isEmpty && before.isEmpty then none else some tail) = _
      have blank : (more.isEmpty && before.isEmpty) = true ↔ stem = "" := by
        rw [Bool.and_eq_true, List.isEmpty_iff, String.isEmpty_iff]
        constructor
        · rintro ⟨rfl, rfl⟩
          exact splitAll_eq_empty (List.reverse_eq_iff.mp pieces)
        · rintro rfl
          cases pieces
          exact ⟨rfl, rfl⟩
      simp only [blank]

theorem extension?_eq_some_iff {name extension : String} :
    extension? name = some extension ↔
      ∃ stem, stem ≠ "" ∧ name = stem ++ "." ++ extension ∧ '.' ∉ extension.toList := by
  by_cases pointed : '.' ∈ name.toList
  · obtain ⟨stem, tail, rfl, absent⟩ := exists_last_point pointed
    have cut : Text.splitAll '.' (stem ++ "." ++ tail) = Text.splitAll '.' stem ++ [tail] := by
      rw [splitAll_point, Text.splitAll_of_not_mem absent]
    rw [extension?_of_last cut]
    constructor
    · intro same
      split at same
      · cases same
      · next present =>
          cases same
          exact ⟨stem, present, rfl, absent⟩
    · rintro ⟨other, present, same, absentToo⟩
      have again := congrArg (Text.splitAll '.') same
      rw [cut, splitAll_point, Text.splitAll_of_not_mem absentToo] at again
      obtain ⟨_, tails⟩ := List.append_inj' again rfl
      cases tails
      have stems : stem = other := by simpa using same
      rw [if_neg (stems ▸ present)]
  · have single := Text.splitAll_of_not_mem pointed
    unfold extension?
    rw [single]
    refine iff_of_false (by simp) ?_
    rintro ⟨stem, _, rfl, _⟩
    simp at pointed

private theorem unpointed {extension known : String} (plain : '.' ∉ known.toList.map Char.toLower)
    (same : Text.sameIgnoringCase extension known = true) : '.' ∉ extension.toList := by
  intro pointed
  have small : '.' ∈ extension.toList.map Char.toLower := List.mem_map.mpr ⟨'.', pointed, rfl⟩
  unfold Text.sameIgnoringCase at same
  rw [eq_of_beq same] at small
  exact plain small

theorem isManifestName_iff {name : String} : isManifestName name = true ↔ IsManifestName name := by
  constructor
  · intro accepted
    unfold isManifestName at accepted
    split at accepted
    · next extension ends =>
        obtain ⟨stem, present, same, _⟩ := extension?_eq_some_iff.mp ends
        exact ⟨stem, extension, present, same, Bool.or_eq_true_iff.mp accepted⟩
    · cases accepted
  · rintro ⟨stem, extension, present, same, known⟩
    have absent : '.' ∉ extension.toList := by
      rcases known with yaml | yml
      · exact unpointed (by decide) yaml
      · exact unpointed (by decide) yml
    unfold isManifestName
    rw [extension?_eq_some_iff.mpr ⟨stem, present, same, absent⟩]
    exact Bool.or_eq_true_iff.mpr known

end GitDelivery.Manifest
