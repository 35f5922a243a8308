import GitDelivery.Proofs.FileTree

set_option autoImplicit false

/-! Trees with links. A link may lead anywhere, so that a path that goes down by names may leave the
directory where it starts. It cannot if no link below that directory leads out of it. -/

namespace GitDelivery.FileTree

open FilePath (Component)

/-- A tree whose directories list their entries once, by ascending names. Links may lead anywhere. -/
inductive Proper : FileTree → Prop where
  | file (content : Bytes) : Proper (.file content)
  | link (target : String) : Proper (.link target)
  | directory {children : List (String × FileTree)} (ordered : Table.Ascending children)
      (named : ∀ entry ∈ children, FilePath.IsName entry.1)
      (inner : ∀ entry ∈ children, Proper entry.2) : Proper (.directory children)

variable {tree found : FileTree} {path name : String} {start location final : List String}
  {parts rest : List Component} {children : List (String × FileTree)} {links : Nat}

namespace Proper

theorem mem_iff (proper : Proper (.directory children)) :
    (name, found) ∈ children ↔ Table.get? name children = some found := by
  cases proper with
  | directory ordered _ _ => exact ordered.mem_iff_get?

theorem isName (proper : Proper (.directory children)) (member : (name, found) ∈ children) :
    FilePath.IsName name := by
  cases proper with
  | directory _ named _ => exact named _ member

theorem child (proper : Proper (.directory children)) (member : (name, found) ∈ children) :
    Proper found := by
  cases proper with
  | directory _ _ inner => exact inner _ member

theorem at? (proper : Proper tree) (there : tree.at? location = some found) : Proper found := by
  induction location generalizing tree with
  | nil =>
      cases there
      exact proper
  | cons name location ih =>
      cases tree with
      | file content => cases there
      | link target => cases there
      | directory children =>
          obtain ⟨inner, isThere, later⟩ := Option.bind_eq_some_iff.mp there
          exact ih (proper.child (proper.mem_iff.mpr isThere)) later

end Proper

theorem Plain.proper (plain : Plain tree) : Proper tree := by
  induction plain with
  | file content => exact .file content
  | directory ordered named _ ih => exact .directory ordered named ih

/-! ### Following paths -/

/-- A path leads from one location to another, through at most so many links. -/
inductive Walks (tree : FileTree) : Nat → List String → List Component → List String → Prop where
  | done {links : Nat} {location : List String} : Walks tree links location [] location
  | root {links : Nat} {location rest final} :
      Walks tree links [] rest final → Walks tree links location (.root :: rest) final
  | here {links : Nat} {location rest final} :
      Walks tree links location rest final → Walks tree links location (.here :: rest) final
  | up {links : Nat} {location rest final} :
      Walks tree links location.dropLast rest final → Walks tree links location (.up :: rest) final
  | file {links : Nat} {location : List String} {name : String} {content : Bytes} :
      tree.at? (location ++ [name]) = some (.file content) →
      Walks tree links location [.name name] (location ++ [name])
  | down {links : Nat} {location rest final} {name : String} {children : List (String × FileTree)} :
      tree.at? (location ++ [name]) = some (.directory children) →
      Walks tree links (location ++ [name]) rest final →
      Walks tree links location (.name name :: rest) final
  | link {links : Nat} {location rest final} {name target : String} :
      tree.at? (location ++ [name]) = some (.link target) →
      Walks tree links location (FilePath.components target ++ rest) final →
      Walks tree (links + 1) location (.name name :: rest) final

theorem walkPath_eq_some_iff {onLink : List String → List Component → Option (List String)}
    (follows : ∀ location parts final, onLink location parts = some final ↔
      ∃ fewer, links = fewer + 1 ∧ Walks tree fewer location parts final) :
    walkPath tree onLink start parts = some final ↔ Walks tree links start parts final := by
  induction parts generalizing start with
  | nil =>
      rw [walkPath, Option.some.injEq]
      constructor
      · rintro rfl
        exact .done
      · rintro ⟨⟩
        rfl
  | cons part rest ih =>
      cases part with
      | root => exact ih.trans ⟨.root, fun walks => by cases walks; assumption⟩
      | here => exact ih.trans ⟨.here, fun walks => by cases walks; assumption⟩
      | up => exact ih.trans ⟨.up, fun walks => by cases walks; assumption⟩
      | name name =>
          rw [walkPath, ← at?_concat]
          cases entry : tree.at? (start ++ [name]) with
          | none =>
              refine iff_of_false (by simp) fun walks => ?_
              cases walks with
              | file there => cases there.symm.trans entry
              | down there _ => cases there.symm.trans entry
              | link there _ => cases there.symm.trans entry
          | some found =>
              cases found with
              | file content =>
                  constructor
                  · intro ended
                    cases rest with
                    | nil =>
                        cases ended
                        exact .file entry
                    | cons next more => cases ended
                  · intro walks
                    cases walks with
                    | file _ => rfl
                    | down there _ => cases there.symm.trans entry
                    | link there _ => cases there.symm.trans entry
              | directory children =>
                  refine ih.trans ⟨.down entry, fun walks => ?_⟩
                  cases walks with
                  | file there => cases there.symm.trans entry
                  | down _ later => exact later
                  | link there _ => cases there.symm.trans entry
              | link target =>
                  refine (follows _ _ _).trans ⟨?_, fun walks => ?_⟩
                  · rintro ⟨fewer, rfl, later⟩
                    exact .link entry later
                  · cases walks with
                    | file there => cases there.symm.trans entry
                    | down there _ => cases there.symm.trans entry
                    | link there later =>
                        cases there.symm.trans entry
                        exact ⟨_, rfl, later⟩

theorem resolveFrom_eq_some_iff :
    tree.resolveFrom links start parts = some final ↔ Walks tree links start parts final := by
  induction links generalizing start parts final with
  | zero => exact walkPath_eq_some_iff (by simp)
  | succ links ih =>
      refine walkPath_eq_some_iff fun location parts final => ih.trans ?_
      simp

theorem resolve_eq_some_iff :
    tree.resolve path = some final ↔
      path ≠ "" ∧ Walks tree linkLimit [] (FilePath.components path) final := by
  unfold resolve
  rw [← resolveFrom_eq_some_iff]
  simp

namespace Walks

variable {more : Nat} {first second : List Component} {other : List String}

theorem mono (walks : Walks tree links start parts final) (enough : links ≤ more) :
    Walks tree more start parts final := by
  induction walks generalizing more with
  | done => exact .done
  | root _ ih => exact .root (ih enough)
  | here _ ih => exact .here (ih enough)
  | up _ ih => exact .up (ih enough)
  | file there => exact .file there
  | down there _ ih => exact .down there (ih enough)
  | link there _ ih =>
      obtain ⟨more, rfl⟩ := Nat.exists_eq_add_of_le' (Nat.le_of_add_left_le enough)
      exact .link there (ih (Nat.le_of_succ_le_succ enough))

theorem unique (walks : Walks tree links start parts final)
    (again : Walks tree more start parts other) : final = other := by
  have common := resolveFrom_eq_some_iff.mpr (walks.mono (Nat.le_max_left links more))
  have commonToo := resolveFrom_eq_some_iff.mpr (again.mono (Nat.le_max_right links more))
  exact Option.some.inj (common.symm.trans commonToo)

theorem split (walks : Walks tree links start (first ++ second) final) :
    ∃ middle, Walks tree links start first middle ∧ Walks tree links middle second final := by
  generalize whole : first ++ second = parts at walks
  induction walks generalizing first with
  | done =>
      obtain ⟨rfl, rfl⟩ := List.append_eq_nil_iff.mp whole
      exact ⟨_, .done, .done⟩
  | root later ih =>
      rcases List.append_eq_cons_iff.mp whole with ⟨rfl, rfl⟩ | ⟨more, rfl, rfl⟩
      · exact ⟨_, .done, .root later⟩
      · obtain ⟨middle, before, after⟩ := ih rfl
        exact ⟨middle, .root before, after⟩
  | here later ih =>
      rcases List.append_eq_cons_iff.mp whole with ⟨rfl, rfl⟩ | ⟨more, rfl, rfl⟩
      · exact ⟨_, .done, .here later⟩
      · obtain ⟨middle, before, after⟩ := ih rfl
        exact ⟨middle, .here before, after⟩
  | up later ih =>
      rcases List.append_eq_cons_iff.mp whole with ⟨rfl, rfl⟩ | ⟨more, rfl, rfl⟩
      · exact ⟨_, .done, .up later⟩
      · obtain ⟨middle, before, after⟩ := ih rfl
        exact ⟨middle, .up before, after⟩
  | file there =>
      rcases List.append_eq_cons_iff.mp whole with ⟨rfl, rfl⟩ | ⟨more, rfl, nothing⟩
      · exact ⟨_, .done, .file there⟩
      · obtain ⟨rfl, rfl⟩ := List.append_eq_nil_iff.mp nothing.symm
        exact ⟨_, .file there, .done⟩
  | down there later ih =>
      rcases List.append_eq_cons_iff.mp whole with ⟨rfl, rfl⟩ | ⟨more, rfl, rfl⟩
      · exact ⟨_, .done, .down there later⟩
      · obtain ⟨middle, before, after⟩ := ih rfl
        exact ⟨middle, .down there before, after⟩
  | link there later ih =>
      rcases List.append_eq_cons_iff.mp whole with ⟨rfl, rfl⟩ | ⟨more, rfl, rfl⟩
      · exact ⟨_, .done, .link there later⟩
      · obtain ⟨middle, before, after⟩ := ih (List.append_assoc _ _ _)
        exact ⟨middle, .link there before, after.mono (Nat.le_succ _)⟩

/-- A path that leads to a directory leads on to its entries that are no links. -/
theorem concat (walks : Walks tree links start parts location)
    (there : tree.at? (location ++ [name]) = some found)
    (plain : ∀ target, found ≠ .link target) :
    Walks tree links start (parts ++ [.name name]) (location ++ [name]) := by
  induction walks with
  | done =>
      cases found with
      | file content => exact .file there
      | directory children => exact .down there .done
      | link target => exact absurd rfl (plain target)
  | root _ ih => exact .root (ih there)
  | here _ ih => exact .here (ih there)
  | up _ ih => exact .up (ih there)
  | file isFile =>
      rw [at?_concat, isFile] at there
      cases there
  | down isDirectory _ ih => exact .down isDirectory (ih there)
  | link isLink _ ih =>
      have later := ih there
      rw [List.append_assoc] at later
      exact .link isLink later

/-- At the end of a path stands an entry of the directory before, or it is a link and the path leads
where that leads from there. -/
theorem last (walks : Walks tree links start (parts ++ [.name name]) final)
    (before : Walks tree more start parts location) :
    final = location ++ [name] ∨
      ∃ target, tree.at? (location ++ [name]) = some (.link target) ∧
        Walks tree links location (FilePath.components target) final := by
  obtain ⟨middle, first, ending⟩ := walks.split
  obtain rfl := first.unique before
  cases ending with
  | file isFile => exact .inl rfl
  | down isDirectory later =>
      cases later
      exact .inl rfl
  | link isLink later =>
      rw [List.append_nil] at later
      exact .inr ⟨_, isLink, later.mono (Nat.le_succ _)⟩

end Walks

/-! ### Links that stay -/

def Sealed (tree : FileTree) (root : List String) : Prop :=
  ∀ location name target final, root <+: location →
    tree.at? (location ++ [name]) = some (.link target) →
    tree.resolveFrom linkLimit location (FilePath.components target) = some final → root <+: final

theorem Sealed.stays {root names : List String} (tight : Sealed tree root) (within : root <+: start)
    (few : links ≤ linkLimit) (walks : Walks tree links start (names.map Component.name) final) :
    root <+: final := by
  -- Links are followed with fewer left, and the names after a link go on from where it leads.
  induction links using Nat.strongRecOn generalizing start names with
  | _ links fewer =>
      induction names generalizing start with
      | nil =>
          cases walks
          exact within
      | cons name names ih =>
          rw [List.map_cons] at walks
          have below : root <+: start ++ [name] := within.trans (List.prefix_append start [name])
          generalize mapped : names.map Component.name = rest at walks
          cases walks with
          | file _ => exact below
          | down _ later => exact ih below (mapped ▸ later)
          | @link left _ _ _ _ _ there later =>
              subst mapped
              obtain ⟨middle, followed, after⟩ := later.split
              have left_le : left ≤ linkLimit := Nat.le_of_succ_le few
              have inside := tight start name _ middle within there
                (resolveFrom_eq_some_iff.mpr (followed.mono left_le))
              exact fewer left (Nat.lt_succ_self left) inside left_le after

/-! ### Paths as texts -/

theorem walks_of_resolve_pushAll {root : String} {names : List String}
    (there : tree.resolve root = some start) (are : ∀ name ∈ names, FilePath.IsName name)
    (resolved : tree.resolve (FilePath.pushAll root names) = some final) :
    Walks tree linkLimit start (names.map Component.name) final := by
  obtain ⟨present, toRoot⟩ := resolve_eq_some_iff.mp there
  obtain ⟨_, walks⟩ := resolve_eq_some_iff.mp resolved
  rw [FilePath.components_pushAll present are] at walks
  obtain ⟨middle, first, later⟩ := walks.split
  obtain rfl := first.unique toRoot
  exact later

namespace Leads

theorem push_plain (leads : Leads tree path location (.directory children)) (proper : Proper tree)
    (member : (name, found) ∈ children) (plain : ∀ target, found ≠ .link target) :
    Leads tree (FilePath.push path name) (location ++ [name]) found := by
  have isDirectory := proper.at? leads.there
  have isName := isDirectory.isName member
  have there : tree.at? (location ++ [name]) = some found := by
    rw [at?_concat, leads.there]
    exact isDirectory.mem_iff.mp member
  obtain ⟨present, walks⟩ := resolve_eq_some_iff.mp leads.resolved
  refine ⟨resolve_eq_some_iff.mpr ⟨FilePath.push_ne_empty isName present, ?_⟩, there⟩
  rw [FilePath.components_push isName present]
  exact walks.concat there plain

theorem push_cases (leads : Leads tree path location (.directory children))
    (isName : FilePath.IsName name)
    (resolved : tree.resolve (FilePath.push path name) = some final) :
    final = location ++ [name] ∨
      ∃ target, tree.at? (location ++ [name]) = some (.link target) ∧
        tree.resolveFrom linkLimit location (FilePath.components target) = some final := by
  obtain ⟨present, before⟩ := resolve_eq_some_iff.mp leads.resolved
  obtain ⟨_, walks⟩ := resolve_eq_some_iff.mp resolved
  rw [FilePath.components_push isName present] at walks
  simp only [resolveFrom_eq_some_iff]
  exact walks.last before

end Leads

end GitDelivery.FileTree
