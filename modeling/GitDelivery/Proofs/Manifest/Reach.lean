import GitDelivery.Proofs.FileTree.Links
import GitDelivery.Proofs.Manifest.Walk

set_option autoImplicit false

/-! The walk through a tree with links: which entries it comes to, and that what it lists is what these
entries show. It never goes through a link. -/

namespace GitDelivery.Manifest

inductive Listed where
  | chart (directory : String)
  | kustomization (directory : String)
  | document (bucket : Bucket) (source : Source)

namespace Classification

def Lists (classes : Classification) : Listed → Prop
  | .chart directory => directory ∈ classes.charts
  | .kustomization directory => directory ∈ classes.kustomizations
  | .document bucket source => source ∈ classes.bucket bucket

variable {left right : Classification} {listed : Listed}

theorem not_lists_empty : ¬ Lists {} listed := by
  intro lists
  cases listed with
  | chart directory => cases lists
  | kustomization directory => cases lists
  | document bucket source => cases bucket <;> cases lists

theorem lists_append : (left.append right).Lists listed ↔ left.Lists listed ∨ right.Lists listed := by
  cases listed with
  | chart directory => exact List.mem_append
  | kustomization directory => exact List.mem_append
  | document bucket source => cases bucket <;> exact List.mem_append

theorem lists_chart {path : String} :
    Classification.Lists { charts := [path] } listed ↔ listed = .chart path := by
  cases listed with
  | chart directory => exact List.mem_singleton.trans (by rw [Listed.chart.injEq])
  | kustomization directory => exact iff_of_false List.not_mem_nil (by simp)
  | document bucket source => cases bucket <;> exact iff_of_false List.not_mem_nil (by simp)

theorem lists_kustomization {path : String} :
    Classification.Lists { kustomizations := [path] } listed ↔ listed = .kustomization path := by
  cases listed with
  | chart directory => exact iff_of_false List.not_mem_nil (by simp)
  | kustomization directory => exact List.mem_singleton.trans (by rw [Listed.kustomization.injEq])
  | document bucket source => cases bucket <;> exact iff_of_false List.not_mem_nil (by simp)

end Classification

variable {tree : FileTree} {path name : String} {skipped : List String}
  {children : List (String × FileTree)} {listed : Listed}

def Kept (skipped : List String) (name : String) : FileTree → Prop
  | .directory _ => name ≠ ".git" ∧ skipped.contains name = false
  | _ => True

/-- An entry that the walk comes to, and the directories on the way. It goes on through directories that
are neither charts nor kustomizations. -/
inductive Reaches (tree : FileTree) : List String → String → List (String × FileTree) →
    List String → String → FileTree → Prop where
  | entry {skipped : List String} {path name : String} {children : List (String × FileTree)}
      {entry : FileTree} (member : (name, entry) ∈ children) (kept : Kept skipped name entry) :
      Reaches tree skipped path children [] name entry
  | deeper {skipped below : List String} {path first name : String}
      {children inner : List (String × FileTree)} {entry : FileTree}
      (member : (first, .directory inner) ∈ children) (kept : Kept skipped first (.directory inner))
      (entered : roleOf tree (FilePath.push path first) = .plain)
      (onward : Reaches tree [] (FilePath.push path first) inner below name entry) :
      Reaches tree skipped path children (first :: below) name entry

inductive Shows (tree : FileTree) (path name : String) : FileTree → Listed → Prop where
  | document {content : Bytes} {bucket : Bucket} {source : Source}
      (isManifest : isManifestName name = true)
      (member : source ∈ (classifyFile path content).bucket bucket) :
      Shows tree path name (.file content) (.document bucket source)
  | chart {children : List (String × FileTree)} (role : roleOf tree path = .chart) :
      Shows tree path name (.directory children) (.chart path)
  | kustomization {children : List (String × FileTree)} (role : roleOf tree path = .kustomization) :
      Shows tree path name (.directory children) (.kustomization path)

/-! ### One entry -/

private theorem classifyDocuments_directories (path : String) (index : Nat) (documents : List String) :
    (classifyDocuments path index documents).charts = [] ∧
      (classifyDocuments path index documents).kustomizations = [] := by
  induction documents generalizing index with
  | nil => exact ⟨rfl, rfl⟩
  | cons document rest ih =>
      obtain ⟨charts, kustomizations⟩ := ih (index + 1)
      have own : ∀ kind source, (inClass kind source).charts = [] ∧
          (inClass kind source).kustomizations = [] := by
        intro kind source
        unfold inClass
        split
        · exact ⟨rfl, rfl⟩
        split <;> exact ⟨rfl, rfl⟩
      rw [classifyDocuments]
      cases declaredKind? document with
      | none => exact ⟨charts, kustomizations⟩
      | some kind =>
          obtain ⟨none, noneToo⟩ := own kind ⟨path, index, document⟩
          simp only [Classification.append, none, noneToo, charts, kustomizations, List.append_nil,
            and_self]

theorem lists_file (tree : FileTree) {content : Bytes} :
    (if isManifestName name then classifyFile path content else {}).Lists listed ↔
      Shows tree path name (.file content) listed := by
  have directories : (classifyFile path content).charts = [] ∧
      (classifyFile path content).kustomizations = [] := by
    unfold classifyFile
    split
    · exact classifyDocuments_directories path 0 _
    · exact ⟨rfl, rfl⟩
  constructor
  · intro lists
    split at lists
    · next isManifest =>
        cases listed with
        | chart directory =>
            rw [Classification.Lists, directories.1] at lists
            cases lists
        | kustomization directory =>
            rw [Classification.Lists, directories.2] at lists
            cases lists
        | document bucket source => exact .document isManifest lists
    · exact absurd lists Classification.not_lists_empty
  · intro shows
    cases shows with
    | document isManifest member =>
        rw [if_pos isManifest]
        exact member

/-- A directory that is kept shows what it is taken for, and what lies in it if that is nothing else. -/
theorem lists_directory (name : String) {inner : List (String × FileTree)} :
    Classification.Lists
        (match roleOf tree path with
        | .chart => { charts := [path] }
        | .kustomization => { kustomizations := [path] }
        | .plain => classifyChildren tree [] path inner) listed ↔
      Shows tree path name (.directory inner) listed ∨
        (roleOf tree path = .plain ∧ (classifyChildren tree [] path inner).Lists listed) := by
  cases role : roleOf tree path with
  | chart =>
      refine Classification.lists_chart.trans ⟨?_, ?_⟩
      · rintro rfl
        exact .inl (.chart role)
      · rintro (shows | ⟨impossible, _⟩)
        · cases shows with
          | chart _ => rfl
          | kustomization other => cases role.symm.trans other
        · cases impossible
  | kustomization =>
      refine Classification.lists_kustomization.trans ⟨?_, ?_⟩
      · rintro rfl
        exact .inl (.kustomization role)
      · rintro (shows | ⟨impossible, _⟩)
        · cases shows with
          | chart other => cases role.symm.trans other
          | kustomization _ => rfl
        · cases impossible
  | plain =>
      constructor
      · exact fun lists => .inr ⟨rfl, lists⟩
      · rintro (shows | ⟨_, lists⟩)
        · cases shows with
          | chart other => cases role.symm.trans other
          | kustomization other => cases role.symm.trans other
        · exact lists

theorem lists_classifyEntry {entry : FileTree} :
    (classifyEntry tree skipped path name entry).Lists listed ↔
      Kept skipped name entry ∧ (Shows tree path name entry listed ∨
        ∃ inner, entry = .directory inner ∧ roleOf tree path = .plain ∧
          (classifyChildren tree [] path inner).Lists listed) := by
  cases entry with
  | file content =>
      rw [classifyEntry, lists_file tree]
      constructor
      · exact fun shows => ⟨trivial, .inl shows⟩
      · rintro ⟨_, shows | ⟨_, impossible, _⟩⟩
        · exact shows
        · cases impossible
  | link target =>
      rw [classifyEntry]
      refine iff_of_false Classification.not_lists_empty ?_
      rintro ⟨_, shows | ⟨_, impossible, _⟩⟩
      · cases shows
      · cases impossible
  | directory inner =>
      rw [classifyEntry]
      by_cases left : (decide (name = ".git") || skipped.contains name) = true
      · rw [if_pos left]
        refine iff_of_false Classification.not_lists_empty ?_
        rintro ⟨⟨notGit, notSkipped⟩, _⟩
        rw [decide_eq_false notGit, notSkipped] at left
        cases left
      · have kept : Kept skipped name (.directory inner) := by
          simpa [Kept] using left
        rw [if_neg left]
        refine (lists_directory name).trans ⟨?_, ?_⟩
        · rintro (shows | ⟨role, lists⟩)
          · exact ⟨kept, .inl shows⟩
          · exact ⟨kept, .inr ⟨inner, rfl, role, lists⟩⟩
        · rintro ⟨_, shows | ⟨_, same, role, lists⟩⟩
          · exact .inl shows
          · cases same
            exact .inr ⟨role, lists⟩

/-! ### All entries -/

private theorem lists_classifyChildren :
    (classifyChildren tree skipped path children).Lists listed ↔
      ∃ name entry, (name, entry) ∈ children ∧
        (classifyEntry tree skipped (FilePath.push path name) name entry).Lists listed := by
  induction children with
  | nil =>
      rw [classifyChildren]
      refine iff_of_false Classification.not_lists_empty ?_
      rintro ⟨_, _, member, _⟩
      cases member
  | cons field rest ih =>
      obtain ⟨name, entry⟩ := field
      rw [classifyChildren, Classification.lists_append, ih]
      constructor
      · rintro (own | ⟨other, child, member, lists⟩)
        · exact ⟨name, entry, List.mem_cons_self, own⟩
        · exact ⟨other, child, List.mem_cons_of_mem _ member, lists⟩
      · rintro ⟨other, child, member, lists⟩
        rcases List.mem_cons.mp member with same | later
        · cases same
          exact .inl lists
        · exact .inr ⟨other, child, later, lists⟩

private theorem lists_of_reaches {below : List String} {entry : FileTree}
    (reaches : Reaches tree skipped path children below name entry)
    (shows : Shows tree (FilePath.pushAll path (below ++ [name])) name entry listed) :
    (classifyChildren tree skipped path children).Lists listed := by
  induction reaches with
  | entry member kept =>
      exact lists_classifyChildren.mpr ⟨_, _, member, lists_classifyEntry.mpr ⟨kept, .inl shows⟩⟩
  | deeper member kept entered _ ih =>
      exact lists_classifyChildren.mpr ⟨_, _, member,
        lists_classifyEntry.mpr ⟨kept, .inr ⟨_, rfl, entered, ih shows⟩⟩⟩

mutual

theorem reaches_of_lists_entry (skipped : List String) (path : String)
    (children : List (String × FileTree)) (name : String) :
    (entry : FileTree) → (name, entry) ∈ children →
      (classifyEntry tree skipped (FilePath.push path name) name entry).Lists listed →
      ∃ below last shown, Reaches tree skipped path children below last shown ∧
        Shows tree (FilePath.pushAll path (below ++ [last])) last shown listed
  | .file content, member, lists => by
      obtain ⟨kept, shows | ⟨_, impossible, _⟩⟩ := lists_classifyEntry.mp lists
      · exact ⟨[], name, _, .entry member kept, shows⟩
      · cases impossible
  | .link target, member, lists => by
      obtain ⟨kept, shows | ⟨_, impossible, _⟩⟩ := lists_classifyEntry.mp lists
      · exact ⟨[], name, _, .entry member kept, shows⟩
      · cases impossible
  | .directory inner, member, lists => by
      obtain ⟨kept, shows | ⟨_, same, entered, deeper⟩⟩ := lists_classifyEntry.mp lists
      · exact ⟨[], name, _, .entry member kept, shows⟩
      · cases same
        obtain ⟨below, last, shown, onward, shows⟩ :=
          reaches_of_lists (FilePath.push path name) inner inner (fun _ member => member) [] deeper
        exact ⟨name :: below, last, shown, .deeper member kept entered onward, shows⟩

theorem reaches_of_lists (path : String) (all : List (String × FileTree)) :
    (children : List (String × FileTree)) → (∀ field ∈ children, field ∈ all) →
      (skipped : List String) → (classifyChildren tree skipped path children).Lists listed →
      ∃ below last shown, Reaches tree skipped path all below last shown ∧
        Shows tree (FilePath.pushAll path (below ++ [last])) last shown listed
  | [], _, _, lists => by
      rw [classifyChildren] at lists
      exact absurd lists Classification.not_lists_empty
  | (name, entry) :: rest, inside, skipped, lists => by
      rw [classifyChildren, Classification.lists_append] at lists
      rcases lists with own | later
      · exact reaches_of_lists_entry skipped path all name entry (inside _ List.mem_cons_self) own
      · exact reaches_of_lists path all rest
          (fun field member => inside field (List.mem_cons_of_mem _ member)) skipped later

end

theorem lists_iff_reaches :
    (classifyChildren tree skipped path children).Lists listed ↔
      ∃ below name entry, Reaches tree skipped path children below name entry ∧
        Shows tree (FilePath.pushAll path (below ++ [name])) name entry listed := by
  constructor
  · exact reaches_of_lists path children children (fun _ member => member) skipped
  · rintro ⟨below, name, entry, reaches, shows⟩
    exact lists_of_reaches reaches shows

/-! ### Where the walk comes to -/

theorem Reaches.names {below : List String} {entry : FileTree}
    (proper : (FileTree.directory children).Proper)
    (reaches : Reaches tree skipped path children below name entry) :
    ∀ part ∈ below ++ [name], FilePath.IsName part := by
  induction reaches with
  | entry member _ =>
      intro part listed
      obtain rfl := List.mem_singleton.mp listed
      exact proper.isName member
  | deeper member _ _ _ ih =>
      exact List.forall_mem_cons.mpr ⟨proper.isName member, ih (proper.child member)⟩

theorem Reaches.leads {below location : List String} {entry : FileTree} (proper : tree.Proper)
    (leads : tree.Leads path location (.directory children))
    (reaches : Reaches tree skipped path children below name entry)
    (plain : ∀ target, entry ≠ .link target) :
    tree.Leads (FilePath.pushAll path (below ++ [name])) (location ++ (below ++ [name])) entry := by
  induction reaches generalizing location with
  | entry member _ => exact leads.push_plain proper member plain
  | deeper member _ _ _ ih =>
      have onward := ih (leads.push_plain proper member fun target isLink => by cases isLink) plain
      rw [List.append_assoc] at onward
      exact onward

/-- What is listed of a directory that is classified is shown by what the walk comes to, or by the
directory itself. -/
theorem lists_of_classify {classes : Classification}
    (classified : classify tree path skipped = some classes) (lists : classes.Lists listed) :
    ∃ children, tree.find? path = some (.directory children) ∧
      ((∃ below name entry, Reaches tree skipped path children below name entry ∧
          Shows tree (FilePath.pushAll path (below ++ [name])) name entry listed) ∨
        ∃ name, Shows tree path name (.directory children) listed) := by
  unfold classify at classified
  split at classified
  · next children there =>
      refine ⟨children, there, ?_⟩
      split at classified
      · cases classified
        exact .inl (lists_iff_reaches.mp lists)
      split at classified
      · cases classified
        exact absurd lists Classification.not_lists_empty
      · cases role : roleOf tree path with
        | chart =>
            rw [role] at classified
            cases classified
            obtain rfl := Classification.lists_chart.mp lists
            exact .inr ⟨"", .chart role⟩
        | kustomization =>
            rw [role] at classified
            cases classified
            obtain rfl := Classification.lists_kustomization.mp lists
            exact .inr ⟨"", .kustomization role⟩
        | plain =>
            rw [role] at classified
            cases classified
            exact .inl (lists_iff_reaches.mp lists)
  · cases classified

end GitDelivery.Manifest
