import GitDelivery.FileTree.Basic
import GitDelivery.Proofs.FilePath
import GitDelivery.Proofs.Table

set_option autoImplicit false

/-! Trees without links. A path that leads to a directory there leads to its entries when their names
are added. -/

namespace GitDelivery.FileTree

/-- A tree without links. Directories list their entries once, by ascending names. -/
inductive Plain : FileTree → Prop where
  | file (content : Bytes) : Plain (.file content)
  | directory {children : List (String × FileTree)} (ordered : Table.Ascending children)
      (named : ∀ entry ∈ children, FilePath.IsName entry.1)
      (inner : ∀ entry ∈ children, Plain entry.2) : Plain (.directory children)

variable {tree found : FileTree} {path name : String} {location : List String}
  {children : List (String × FileTree)}

theorem at?_append (location rest : List String) (tree : FileTree) :
    tree.at? (location ++ rest) = (tree.at? location).bind (at? rest) := by
  induction location generalizing tree with
  | nil => rfl
  | cons name location ih =>
      rw [List.cons_append, at?, at?]
      cases tree.child? name with
      | none => rfl
      | some child => exact ih child

theorem at?_concat (location : List String) (name : String) (tree : FileTree) :
    tree.at? (location ++ [name]) = (tree.at? location).bind (child? name) := by
  rw [at?_append]
  cases tree.at? location with
  | none => rfl
  | some inner =>
      change (inner.child? name).bind some = inner.child? name
      exact Option.bind_fun_some _

namespace Plain

theorem mem_iff (plain : Plain (.directory children)) :
    (name, found) ∈ children ↔ Table.get? name children = some found := by
  cases plain with
  | directory ordered _ _ => exact ordered.mem_iff_get?

theorem ordered (plain : Plain (.directory children)) : Table.Ascending children := by
  cases plain with
  | directory ordered _ _ => exact ordered

theorem isName (plain : Plain (.directory children))
    (there : Table.get? name children = some found) : FilePath.IsName name := by
  have member := plain.mem_iff.mpr there
  cases plain with
  | directory _ named _ => exact named _ member

theorem child (plain : Plain (.directory children))
    (there : Table.get? name children = some found) : Plain found := by
  have member := plain.mem_iff.mpr there
  cases plain with
  | directory _ _ inner => exact inner _ member

theorem at? (plain : Plain tree) (there : tree.at? location = some found) : Plain found := by
  induction location generalizing tree with
  | nil =>
      cases there
      exact plain
  | cons name location ih =>
      cases tree with
      | file content => cases there
      | link target => cases there
      | directory children =>
          obtain ⟨inner, isThere, later⟩ := Option.bind_eq_some_iff.mp there
          exact ih (plain.child isThere) later

theorem names (plain : Plain tree) (there : tree.at? location = some found) :
    ∀ name ∈ location, FilePath.IsName name := by
  induction location generalizing tree with
  | nil =>
      intro name member
      cases member
  | cons first rest ih =>
      cases tree with
      | file content => cases there
      | link target => cases there
      | directory children =>
          obtain ⟨inner, isThere, later⟩ := Option.bind_eq_some_iff.mp there
          exact List.forall_mem_cons.mpr ⟨plain.isName isThere, ih (plain.child isThere) later⟩

theorem not_link {target : String} (plain : Plain tree) :
    tree.at? location ≠ some (.link target) := by
  intro there
  cases plain.at? there

/-- A path that leads to a directory leads on to its entries. -/
theorem walkPath_name (plain : Plain tree)
    {onLink : List String → List FilePath.Component → Option (List String)}
    {start : List String} {parts : List FilePath.Component}
    (walked : walkPath tree onLink start parts = some location)
    (there : tree.at? location = some (.directory children)) :
    walkPath tree onLink start (parts ++ [.name name]) =
      (Table.get? name children).map fun _ => location ++ [name] := by
  induction parts generalizing start with
  | nil =>
      cases walked
      have reached : (tree.at? location).bind (child? name) = Table.get? name children := by
        rw [there]
        rfl
      rw [List.nil_append, walkPath, reached]
      cases entry : Table.get? name children with
      | none => rfl
      | some inner =>
          cases inner with
          | file content => rfl
          | directory grandchildren => rfl
          | link target =>
              have linked := (at?_concat location name tree).trans (reached.trans entry)
              exact absurd linked plain.not_link
  | cons part rest ih =>
      cases part with
      | root => exact ih walked
      | here => exact ih walked
      | up => exact ih walked
      | name step =>
          rw [walkPath] at walked
          rw [List.cons_append, walkPath]
          cases entry : (tree.at? start).bind (child? step) with
          | none =>
              rw [entry] at walked
              cases walked
          | some inner =>
              rw [entry] at walked
              have reached := (at?_concat start step tree).trans entry
              cases inner with
              | file content =>
                  cases rest with
                  | nil =>
                      cases walked
                      cases reached.symm.trans there
                  | cons next more => cases walked
              | directory grandchildren => exact ih walked
              | link target => exact absurd reached plain.not_link

end Plain

structure Leads (tree : FileTree) (path : String) (location : List String) (found : FileTree) :
    Prop where
  resolved : tree.resolve path = some location
  there : tree.at? location = some found

theorem leads_of_find? (leads : tree.find? path = some found) :
    ∃ location, Leads tree path location found := by
  obtain ⟨location, resolved, there⟩ := Option.bind_eq_some_iff.mp leads
  exact ⟨location, resolved, there⟩

namespace Leads

theorem present (leads : Leads tree path location found) : path ≠ "" := by
  rintro rfl
  cases leads.resolved

theorem resolve_push (leads : Leads tree path location (.directory children)) (plain : Plain tree)
    (isName : FilePath.IsName name) :
    tree.resolve (FilePath.push path name) =
      (Table.get? name children).map fun _ => location ++ [name] := by
  have filled : path.isEmpty = false := by simpa using leads.present
  have filledToo : (FilePath.push path name).isEmpty = false := by
    simpa using FilePath.push_ne_empty isName leads.present
  have walked := leads.resolved
  unfold resolve at walked ⊢
  rw [filled] at walked
  rw [filledToo, FilePath.components_push isName leads.present]
  exact plain.walkPath_name walked leads.there

theorem find?_push (leads : Leads tree path location (.directory children)) (plain : Plain tree)
    (isName : FilePath.IsName name) :
    tree.find? (FilePath.push path name) = Table.get? name children := by
  have reached : tree.at? (location ++ [name]) = Table.get? name children := by
    rw [at?_concat, leads.there]
    rfl
  unfold FileTree.find?
  rw [leads.resolve_push plain isName]
  cases entry : Table.get? name children with
  | none => rfl
  | some inner => exact reached.trans entry

theorem push (leads : Leads tree path location (.directory children)) (plain : Plain tree)
    (entry : Table.get? name children = some found) :
    Leads tree (FilePath.push path name) (location ++ [name]) found := by
  have isName := (plain.at? leads.there).isName entry
  refine ⟨?_, ?_⟩
  · rw [leads.resolve_push plain isName, entry]
    rfl
  · rw [at?_concat, leads.there]
    exact entry

end Leads

end GitDelivery.FileTree
