import GitDelivery.Manifest.Classification

set_option autoImplicit false

/-! What classification keeps: the documents that declare a kind, in the order of the walk, each in the
class of its kind. -/

namespace GitDelivery.Manifest

def Source.declares (kinds : List String) (source : Source) : Bool :=
  (declaredKind? source.content).any kinds.contains

namespace Classification

/-- Some documents that declare kinds stand in their classes, in order. -/
structure Sorts (classes : Classification) (sources : List Source) : Prop where
  declared : ∀ source ∈ sources, declaredKind? source.content ≠ none
  first : classes.first = sources.filter (·.declares leadingKinds)
  access : classes.access = sources.filter (·.declares accessKinds)
  other : classes.other = sources.filter fun source =>
    !source.declares leadingKinds && !source.declares accessKinds

theorem sorts_nil (charts kustomizations : List String) :
    Sorts { charts := charts, kustomizations := kustomizations } [] where
  declared source member := by cases member
  first := rfl
  access := rfl
  other := rfl

theorem Sorts.append {left right : Classification} {early late : List Source}
    (first : left.Sorts early) (second : right.Sorts late) :
    (left.append right).Sorts (early ++ late) where
  declared := List.forall_mem_append.mpr ⟨first.declared, second.declared⟩
  first := by rw [List.filter_append, ← first.first, ← second.first]; rfl
  access := by rw [List.filter_append, ← first.access, ← second.access]; rfl
  other := by rw [List.filter_append, ← first.other, ← second.other]; rfl

end Classification

open Classification (Sorts sorts_nil)

theorem not_access_of_leading {kind : String} (leading : leadingKinds.contains kind = true) :
    accessKinds.contains kind = false := by
  simp only [leadingKinds, List.contains_cons, List.contains_nil, Bool.or_false,
    Bool.or_eq_true, beq_iff_eq] at leading
  rcases leading with rfl | rfl
  · decide
  · decide

private theorem inClass_sorts {kind : String} {source : Source}
    (declared : declaredKind? source.content = some kind) : (inClass kind source).Sorts [source] := by
  have means (kinds : List String) : source.declares kinds = kinds.contains kind := by
    simp [Source.declares, declared]
  have some : ∀ other ∈ [source], declaredKind? other.content ≠ none := by
    intro other member
    rw [List.mem_singleton.mp member, declared]
    exact Option.some_ne_none kind
  unfold inClass
  by_cases leading : leadingKinds.contains kind = true
  · have outside := not_access_of_leading leading
    rw [if_pos leading]
    constructor <;> simp_all
  by_cases access : accessKinds.contains kind = true
  · rw [if_neg leading, if_pos access]
    constructor <;> simp_all
  · rw [if_neg leading, if_neg access]
    constructor <;> simp_all

private theorem classifyDocuments_sorts (path : String) (index : Nat) (documents : List String) :
    ∃ sources, (classifyDocuments path index documents).Sorts sources := by
  induction documents generalizing index with
  | nil => exact ⟨[], sorts_nil [] []⟩
  | cons document rest ih =>
      obtain ⟨others, sorted⟩ := ih (index + 1)
      rw [classifyDocuments]
      cases declared : declaredKind? document with
      | none => exact ⟨others, (sorts_nil [] []).append sorted⟩
      | some kind =>
          have own : (inClass kind ⟨path, index, document⟩).Sorts [⟨path, index, document⟩] :=
            inClass_sorts declared
          exact ⟨_, own.append sorted⟩

private theorem classifyFile_sorts (path : String) (content : Bytes) :
    ∃ sources, (classifyFile path content).Sorts sources := by
  unfold classifyFile
  split
  · exact classifyDocuments_sorts path 0 _
  · exact ⟨[], sorts_nil [] []⟩

section

variable (tree : FileTree) (skipped : List String) (path : String)

mutual

theorem classifyEntry_sorts (skipped : List String) (path name : String) :
    (entry : FileTree) → ∃ sources, (classifyEntry tree skipped path name entry).Sorts sources
  | .file content => by
      rw [classifyEntry]
      split
      · exact classifyFile_sorts path content
      · exact ⟨[], sorts_nil [] []⟩
  | .link _ => by
      rw [classifyEntry]
      exact ⟨[], sorts_nil [] []⟩
  | .directory children => by
      rw [classifyEntry]
      split
      · exact ⟨[], sorts_nil [] []⟩
      · cases roleOf tree path with
        | chart => exact ⟨[], sorts_nil [path] []⟩
        | kustomization => exact ⟨[], sorts_nil [] [path]⟩
        | plain => exact classifyChildren_sorts [] path children

theorem classifyChildren_sorts (skipped : List String) (path : String) :
    (children : List (String × FileTree)) →
      ∃ sources, (classifyChildren tree skipped path children).Sorts sources
  | [] => by
      rw [classifyChildren]
      exact ⟨[], sorts_nil [] []⟩
  | (name, entry) :: rest => by
      obtain ⟨early, first⟩ := classifyEntry_sorts skipped (FilePath.push path name) name entry
      obtain ⟨late, second⟩ := classifyChildren_sorts skipped path rest
      rw [classifyChildren]
      exact ⟨early ++ late, first.append second⟩

end

theorem classify_sorts {classes : Classification}
    (classified : classify tree path skipped = some classes) :
    ∃ sources, classes.Sorts sources := by
  unfold classify at classified
  split at classified
  · next children found =>
      split at classified
      · cases classified
        exact classifyChildren_sorts tree skipped path children
      split at classified
      · cases classified
        exact ⟨[], sorts_nil [] []⟩
      cases role : roleOf tree path with
      | chart =>
          rw [role] at classified
          cases classified
          exact ⟨[], sorts_nil [path] []⟩
      | kustomization =>
          rw [role] at classified
          cases classified
          exact ⟨[], sorts_nil [] [path]⟩
      | plain =>
          rw [role] at classified
          cases classified
          exact classifyChildren_sorts tree skipped path children
  · cases classified

end

end GitDelivery.Manifest
