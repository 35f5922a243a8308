import GitDelivery.Proofs.FileTree.Links

set_option autoImplicit false

/-! Writing a file that is there already changes what it holds and nothing else. Every path leads where
it led before. -/

namespace GitDelivery.FileTree

/-- What a path can tell of what it meets. -/
inductive Kind where
  | file
  | link (target : String)
  | directory

def kind : FileTree → Kind
  | .file _ => .file
  | .link target => .link target
  | .directory _ => .directory

def SameKinds (tree other : FileTree) : Prop :=
  ∀ location, (tree.at? location).map kind = (other.at? location).map kind

variable {tree other last : FileTree} {path : String} {location elsewhere : List String}
  {content : Bytes}

namespace SameKinds

theorem refl (tree : FileTree) : SameKinds tree tree :=
  fun _ => rfl

private theorem symm (same : SameKinds tree other) : SameKinds other tree :=
  fun location => (same location).symm

theorem trans (same : SameKinds tree other) (onward : SameKinds other last) :
    SameKinds tree last :=
  fun location => (same location).trans (onward location)

private theorem link {target : String} (same : SameKinds tree other)
    (there : tree.at? location = some (.link target)) : other.at? location = some (.link target) := by
  have kinds := same location
  rw [there] at kinds
  obtain ⟨found, isThere, isLink⟩ := Option.map_eq_some_iff.mp kinds.symm
  cases found <;> cases isLink
  exact isThere

private theorem file (same : SameKinds tree other) (there : tree.at? location = some (.file content)) :
    ∃ now, other.at? location = some (.file now) := by
  have kinds := same location
  rw [there] at kinds
  obtain ⟨found, isThere, isFile⟩ := Option.map_eq_some_iff.mp kinds.symm
  cases found <;> cases isFile
  exact ⟨_, isThere⟩

private theorem directory {children : List (String × FileTree)} (same : SameKinds tree other)
    (there : tree.at? location = some (.directory children)) :
    ∃ now, other.at? location = some (.directory now) := by
  have kinds := same location
  rw [there] at kinds
  obtain ⟨found, isThere, isDirectory⟩ := Option.map_eq_some_iff.mp kinds.symm
  cases found <;> cases isDirectory
  exact ⟨_, isThere⟩

private theorem walks {links : Nat} {start final : List String} {parts : List FilePath.Component}
    (same : SameKinds tree other) (walks : Walks tree links start parts final) :
    Walks other links start parts final := by
  induction walks with
  | done => exact .done
  | root _ ih => exact .root ih
  | here _ ih => exact .here ih
  | up _ ih => exact .up ih
  | file there =>
      obtain ⟨now, isThere⟩ := same.file there
      exact .file isThere
  | down there _ ih =>
      obtain ⟨now, isThere⟩ := same.directory there
      exact .down isThere ih
  | link there _ ih => exact .link (same.link there) ih

theorem resolve_eq (same : SameKinds tree other) (path : String) :
    tree.resolve path = other.resolve path := by
  refine Option.ext fun final => ?_
  rw [resolve_eq_some_iff, resolve_eq_some_iff]
  exact and_congr_right fun _ => ⟨same.walks, same.symm.walks⟩

theorem isFile_eq (same : SameKinds tree other) (path : String) :
    tree.isFile path = other.isFile path := by
  unfold isFile find?
  rw [same.resolve_eq path]
  cases other.resolve path with
  | none => rfl
  | some location =>
      have kinds := same location
      rw [Option.bind_some, Option.bind_some]
      generalize tree.at? location = before at kinds ⊢
      generalize other.at? location = after at kinds ⊢
      rcases before with _ | _ | _ | _ <;> rcases after with _ | _ | _ | _ <;> cases kinds <;> rfl

end SameKinds

/-! ### Putting a file in the place of another one -/

private theorem put_directory (item : FileTree) (name : String) (location : List String)
    (children : List (String × FileTree)) :
    put item (name :: location) (.directory children) =
      .directory (Table.insert name
        (put item location ((Table.get? name children).getD empty)) children) :=
  rfl

theorem at?_put_cons {found : FileTree} (item : FileTree) {name : String}
    {children : List (String × FileTree)}
    (there : (FileTree.directory children).at? (name :: location) = some found) :
    ∃ inner, Table.get? name children = some inner ∧ inner.at? location = some found ∧
      ∀ step rest, (put item (name :: location) (.directory children)).at? (step :: rest) =
        if step = name then (put item location inner).at? rest
        else (FileTree.directory children).at? (step :: rest) := by
  obtain ⟨inner, isThere, later⟩ := Option.bind_eq_some_iff.mp there
  have isEntry : Table.get? name children = some inner := isThere
  refine ⟨inner, isEntry, later, fun step rest => ?_⟩
  rw [put_directory, isEntry, Option.getD_some]
  change (Table.get? step (Table.insert name (put item location inner) children)).bind (at? rest) = _
  by_cases same : step = name
  · rw [if_pos same, same, Table.get?_insert_self]
    rfl
  · rw [if_neg same, Table.get?_insert_of_ne same]
    rfl

theorem sameKinds_put {old : Bytes} (there : tree.at? location = some (.file old)) :
    SameKinds tree (put (.file content) location tree) := by
  induction location generalizing tree with
  | nil =>
      cases there
      intro elsewhere
      cases elsewhere <;> rfl
  | cons name location ih =>
      cases tree with
      | file content => cases there
      | link target => cases there
      | directory children =>
          obtain ⟨inner, isEntry, below, around⟩ := at?_put_cons (.file content) there
          intro elsewhere
          cases elsewhere with
          | nil => rfl
          | cons step rest =>
              rw [around]
              split
              · next same =>
                  subst same
                  rw [← ih below rest]
                  change ((Table.get? step children).bind (at? rest)).map kind = _
                  rw [isEntry]
                  rfl
              · rfl

theorem at?_put_of_apart {found item : FileTree} (there : tree.at? location = some found)
    (notAbove : ¬ elsewhere <+: location) (notBelow : ¬ location <+: elsewhere) :
    (put item location tree).at? elsewhere = tree.at? elsewhere := by
  induction location generalizing tree elsewhere with
  | nil => exact absurd (List.nil_prefix) notBelow
  | cons name location ih =>
      cases tree with
      | file content => cases there
      | link target => cases there
      | directory children =>
          obtain ⟨inner, isEntry, below, around⟩ := at?_put_cons item there
          cases elsewhere with
          | nil => exact absurd (List.nil_prefix) notAbove
          | cons step rest =>
              rw [around]
              split
              · next same =>
                  subst same
                  rw [ih below (fun above => notAbove ((List.prefix_cons_inj step).mpr above))
                    (fun under => notBelow ((List.prefix_cons_inj step).mpr under))]
                  change _ = (Table.get? step children).bind (at? rest)
                  rw [isEntry]
                  rfl
              · rfl

private theorem at?_put_self (item : FileTree) {found : FileTree}
    (there : tree.at? location = some found) :
    (put item location tree).at? location = some item := by
  induction location generalizing tree with
  | nil => rfl
  | cons name location ih =>
      cases tree with
      | file content => cases there
      | link target => cases there
      | directory children =>
          obtain ⟨inner, _, below, around⟩ := at?_put_cons item there
          rw [around, if_pos rfl]
          exact ih below

theorem at?_put_file_iff {old bytes : Bytes} (there : tree.at? location = some (.file old))
    (other : elsewhere ≠ location) :
    (put (.file content) location tree).at? elsewhere = some (.file bytes) ↔
      tree.at? elsewhere = some (.file bytes) := by
  induction location generalizing tree elsewhere with
  | nil =>
      cases there
      cases elsewhere with
      | nil => exact absurd rfl other
      | cons step rest => exact Iff.rfl
  | cons name location ih =>
      cases tree with
      | file content => cases there
      | link target => cases there
      | directory children =>
          obtain ⟨inner, isEntry, below, around⟩ := at?_put_cons (.file content) there
          cases elsewhere with
          | nil => exact iff_of_false nofun nofun
          | cons step rest =>
              rw [around]
              split
              · next same =>
                  subst same
                  rw [ih below fun equal => other (congrArg (step :: ·) equal)]
                  change _ ↔ (Table.get? step children).bind (at? rest) = _
                  rw [isEntry]
                  rfl
              · exact Iff.rfl

/-- The file at a location holds something new. Every other file holds what it held, and there are the same
directories and links. -/
structure RewrittenAt (tree left : FileTree) (location : List String) (content : Bytes) : Prop where
  before : ∃ old, tree.at? location = some (.file old)
  after : left.at? location = some (.file content)
  others : ∀ elsewhere, elsewhere ≠ location → ∀ bytes,
    left.at? elsewhere = some (.file bytes) ↔ tree.at? elsewhere = some (.file bytes)
  kinds : SameKinds tree left

/-! ### Rewriting -/

/-- A file that is rewritten stands where its path leads. -/
theorem rewrite_file (isFile : tree.isFile path = true) (content : Bytes) :
    ∃ location old, tree.resolve path = some location ∧ tree.at? location = some (.file old) ∧
      tree.rewrite path content = put (.file content) location tree := by
  unfold FileTree.isFile at isFile
  split at isFile
  · next old found =>
      obtain ⟨location, resolved, there⟩ := Option.bind_eq_some_iff.mp found
      refine ⟨location, old, resolved, there, ?_⟩
      unfold rewrite
      rw [resolved]
  · cases isFile

theorem sameKinds_rewrite (isFile : tree.isFile path = true) (content : Bytes) :
    SameKinds tree (tree.rewrite path content) := by
  obtain ⟨location, old, _, there, written⟩ := rewrite_file isFile content
  rw [written]
  exact sameKinds_put there

theorem rewrittenAt_rewrite (isFile : tree.isFile path = true) (content : Bytes) :
    ∃ location, tree.resolve path = some location ∧
      RewrittenAt tree (tree.rewrite path content) location content := by
  obtain ⟨location, old, resolved, there, written⟩ := rewrite_file isFile content
  refine ⟨location, resolved, ?_⟩
  rw [written]
  exact
    { before := ⟨old, there⟩
      after := at?_put_self _ there
      others := fun _ other _ => at?_put_file_iff there other
      kinds := sameKinds_put there }

theorem at?_rewrite_of_outside {root : List String} (isFile : tree.isFile path = true)
    (inside : ∀ final, tree.resolve path = some final → root <+: final)
    (notAbove : ¬ elsewhere <+: root) (notBelow : ¬ root <+: elsewhere) (content : Bytes) :
    (tree.rewrite path content).at? elsewhere = tree.at? elsewhere := by
  obtain ⟨location, old, resolved, there, written⟩ := rewrite_file isFile content
  have within := inside location resolved
  rw [written]
  refine at?_put_of_apart there (fun above => ?_) (fun below => notBelow (within.trans below))
  rcases List.prefix_or_prefix_of_prefix above within with high | low
  · exact notAbove high
  · exact notBelow low

end GitDelivery.FileTree
