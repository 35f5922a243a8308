import GitDelivery.Proofs.FileTree
import GitDelivery.Proofs.Manifest.Findings

set_option autoImplicit false

/-! The walk through a tree without links: it lists what is to be found, and nothing else, in order. -/

namespace GitDelivery.Manifest

/-! ### Classes of findings -/

inductive Bucket where
  | first
  | access
  | other
  deriving DecidableEq

def bucketOf (kind : String) : Bucket :=
  if leadingKinds.contains kind then .first
  else if accessKinds.contains kind then .access
  else .other

def Classification.bucket (classes : Classification) : Bucket → List Source
  | .first => classes.first
  | .access => classes.access
  | .other => classes.other

namespace Finding

def directory? (path : String) (kind : What) (finding : Finding) : Option String :=
  if finding.what = kind then some (FilePath.pushAll path finding.location) else none

def source? (path : String) (bucket : Bucket) (finding : Finding) : Option Source :=
  match finding.what with
  | .document index content =>
    if (declaredKind? content).map bucketOf = some bucket then
      some ⟨FilePath.pushAll path finding.location, index, content⟩
    else none
  | _ => none

end Finding

/-- A classification lists findings below a path, each in its class and in their order. -/
structure Gives (path : String) (findings : List Finding) (classes : Classification) : Prop where
  charts : classes.charts = findings.filterMap (Finding.directory? path .chart)
  kustomizations : classes.kustomizations = findings.filterMap (Finding.directory? path .kustomization)
  documents : ∀ bucket, classes.bucket bucket = findings.filterMap (Finding.source? path bucket)

namespace Gives

variable {path name : String} {early late findings : List Finding} {left right classes : Classification}

theorem nil : Gives path [] {} where
  charts := rfl
  kustomizations := rfl
  documents bucket := by cases bucket <;> rfl

theorem append (first : Gives path early left) (second : Gives path late right) :
    Gives path (early ++ late) (left.append right) where
  charts := by rw [List.filterMap_append, ← first.charts, ← second.charts]; rfl
  kustomizations := by
    rw [List.filterMap_append, ← first.kustomizations, ← second.kustomizations]; rfl
  documents bucket := by
    rw [List.filterMap_append, ← first.documents, ← second.documents]
    cases bucket <;> rfl

theorem below (gives : Gives (FilePath.push path name) findings classes) :
    Gives path (findings.map (Finding.below name)) classes where
  charts := by rw [List.filterMap_map, gives.charts]; rfl
  kustomizations := by rw [List.filterMap_map, gives.kustomizations]; rfl
  documents bucket := by rw [List.filterMap_map, gives.documents]; rfl

end Gives

structure Covers (own : Option String) (hides : List String → Prop) (entry : FileTree)
    (findings : List Finding) : Prop where
  ordered : findings.Pairwise Finding.Before
  mem : ∀ finding, finding ∈ findings ↔ Found own hides entry finding

structure CoversAll (hides : List String → Prop) (children : List (String × FileTree))
    (findings : List Finding) : Prop where
  ordered : findings.Pairwise Finding.Before
  mem : ∀ finding, finding ∈ findings ↔ ∃ name rest child, (name, child) ∈ children ∧
    finding.location = name :: rest ∧
    Found (some name) (fun below => hides (name :: below)) child ⟨rest, finding.what⟩

/-! ### Files -/

theorem inClass_gives {kind path content : String} {index : Nat}
    (declared : declaredKind? content = some kind) :
    Gives path [⟨[], .document index content⟩] (inClass kind ⟨path, index, content⟩) := by
  have own (bucket : Bucket) :
      [⟨[], .document index content⟩].filterMap (Finding.source? path bucket) =
        if bucketOf kind = bucket then [⟨path, index, content⟩] else [] := by
    simp only [List.filterMap_cons, List.filterMap_nil, Finding.source?, declared, Option.map_some,
      Option.some.injEq]
    by_cases same : bucketOf kind = bucket
    · rw [if_pos same, if_pos same]
      rfl
    · rw [if_neg same, if_neg same]
  have same (bucket : Bucket) : (inClass kind ⟨path, index, content⟩).bucket bucket =
      if bucketOf kind = bucket then [⟨path, index, content⟩] else [] := by
    unfold inClass bucketOf
    split
    · cases bucket <;> rfl
    split
    · cases bucket <;> rfl
    · cases bucket <;> rfl
  refine ⟨?_, ?_, fun bucket => (same bucket).trans (own bucket).symm⟩
  · unfold inClass
    split
    · rfl
    split <;> rfl
  · unfold inClass
    split
    · rfl
    split <;> rfl

theorem classifyDocuments_gives (path : String) (index : Nat) (documents : List String) :
    ∃ findings, Gives path findings (classifyDocuments path index documents) ∧
      findings.Pairwise Finding.Before ∧
      ∀ finding, finding ∈ findings ↔ ∃ offset content kind,
        finding = ⟨[], .document (index + offset) content⟩ ∧ documents[offset]? = some content ∧
          Declares content kind := by
  induction documents generalizing index with
  | nil =>
      refine ⟨[], .nil, .nil, ?_⟩
      intro finding
      refine iff_of_false List.not_mem_nil ?_
      rintro ⟨offset, content, kind, _, there, _⟩
      simp at there
  | cons document rest ih =>
      obtain ⟨others, gives, ordered, mem⟩ := ih (index + 1)
      -- Documents without a kind are counted, too.
      have shifted (finding : Finding) : finding ∈ others ↔ ∃ offset content kind,
          finding = ⟨[], .document (index + (offset + 1)) content⟩ ∧
            (document :: rest)[offset + 1]? = some content ∧ Declares content kind := by
        rw [mem]
        simp only [List.getElem?_cons_succ, Nat.add_assoc, Nat.add_comm 1]
      rw [classifyDocuments]
      cases declared : declaredKind? document with
      | none =>
          refine ⟨others, Gives.nil.append gives, ordered, ?_⟩
          intro finding
          rw [shifted]
          constructor
          · rintro ⟨offset, content, kind, same, there, declares⟩
            exact ⟨offset + 1, content, kind, same, there, declares⟩
          · rintro ⟨offset, content, kind, same, there, declares⟩
            cases offset with
            | zero =>
                cases there
                cases declared.symm.trans (declaredKind?_eq_some_iff.mpr declares)
            | succ offset => exact ⟨offset, content, kind, same, there, declares⟩
      | some own =>
          refine ⟨_, (inClass_gives declared).append gives, ?_, ?_⟩
          · refine List.pairwise_cons.mpr ⟨?_, ordered⟩
            intro later member
            obtain ⟨offset, content, kind, rfl, _⟩ := (shifted later).mp member
            exact .inr ⟨rfl, by simp only [Finding.What.Before]; omega⟩
          · intro finding
            rw [List.singleton_append, List.mem_cons, shifted]
            constructor
            · rintro (rfl | ⟨offset, content, kind, same, there, declares⟩)
              · exact ⟨0, document, own, rfl, rfl, declaredKind?_eq_some_iff.mp declared⟩
              · exact ⟨offset + 1, content, kind, same, there, declares⟩
            · rintro ⟨offset, content, kind, same, there, declares⟩
              cases offset with
              | zero =>
                  cases there
                  exact .inl same
              | succ offset => exact .inr ⟨offset, content, kind, same, there, declares⟩

theorem classifyFile_covers {path name : String} {hides : List String → Prop} {bytes : Bytes} :
    ∃ findings, Gives path findings
        (if isManifestName name then classifyFile path bytes else {}) ∧
      Covers (some name) hides (.file bytes) findings := by
  by_cases isManifest : isManifestName name = true
  · rw [if_pos isManifest]
    unfold classifyFile
    cases plain : bytes.text? with
    | none =>
        refine ⟨[], .nil, .nil, ?_⟩
        rintro ⟨location, what⟩
        rw [found_file, plain]
        simp
    | some text =>
        obtain ⟨findings, gives, ordered, mem⟩ := classifyDocuments_gives path 0 (splitDocuments text)
        refine ⟨findings, gives, ordered, ?_⟩
        rintro ⟨location, what⟩
        rw [mem, found_file]
        constructor
        · rintro ⟨index, content, kind, same, there, declares⟩
          cases same
          exact ⟨rfl, _, content, rfl, name, text, kind, rfl, isManifestName_iff.mp isManifest, plain,
            (Nat.zero_add index).symm ▸ there, declares⟩
        · rintro ⟨rfl, index, content, rfl, _, _, kind, _, _, same, there, declares⟩
          cases plain.symm.trans same
          exact ⟨index, content, kind, by rw [Nat.zero_add], there, declares⟩
  · rw [if_neg isManifest]
    refine ⟨[], .nil, .nil, ?_⟩
    rintro ⟨location, what⟩
    rw [found_file]
    refine iff_of_false List.not_mem_nil ?_
    rintro ⟨_, _, _, _, other, _, _, same, named, _⟩
    cases same
    exact isManifest (isManifestName_iff.mpr named)

/-! ### Directories -/

section

variable {tree : FileTree} {path name : String} {location : List String}
  {children all : List (String × FileTree)} {own : Option String} {hides : List String → Prop}

theorem isFile_push_iff (plain : tree.Plain) (leads : tree.Leads path location (.directory children))
    (isName : FilePath.IsName name) :
    tree.isFile (FilePath.push path name) = true ↔ Holds (.directory children) name := by
  unfold FileTree.isFile
  rw [leads.find?_push plain isName]
  change _ ↔ ∃ content, Table.get? name children = some (.file content)
  split
  · next content there => exact iff_of_true rfl ⟨content, there⟩
  · next other => exact iff_of_false Bool.false_ne_true fun ⟨content, there⟩ => other content there

theorem roleOf_fits (plain : tree.Plain) (leads : tree.Leads path location (.directory children)) :
    match roleOf tree path with
    | .chart => IsChart (.directory children)
    | .kustomization => IsKustomization (.directory children)
    | .plain => ¬ (IsChart (.directory children) ∨ IsKustomization (.directory children)) := by
  have chartName : FilePath.IsName chartFile := by decide
  have kustomizationName : ∀ name ∈ kustomizationFiles, FilePath.IsName name := by decide
  have chart := isFile_push_iff plain leads chartName
  have kustomization : (kustomizationFiles.any fun name => tree.isFile (FilePath.push path name)) =
      true ↔ ∃ name ∈ kustomizationFiles, Holds (.directory children) name := by
    rw [List.any_eq_true]
    constructor
    · rintro ⟨name, member, there⟩
      exact ⟨name, member, (isFile_push_iff plain leads (kustomizationName name member)).mp there⟩
    · rintro ⟨name, member, there⟩
      exact ⟨name, member, (isFile_push_iff plain leads (kustomizationName name member)).mpr there⟩
  unfold roleOf
  by_cases isChart : tree.isFile (FilePath.push path chartFile) = true
  · rw [if_pos isChart]
    exact chart.mp isChart
  have notChart : ¬ Holds (.directory children) chartFile := fun holds => isChart (chart.mpr holds)
  rw [if_neg isChart]
  by_cases described : (kustomizationFiles.any fun name =>
      tree.isFile (FilePath.push path name)) = true
  · rw [if_pos described]
    exact ⟨notChart, kustomization.mp described⟩
  · rw [if_neg described]
    rintro (holds | ⟨_, holds⟩)
    · exact notChart holds
    · exact described (kustomization.mpr holds)

theorem found_of_stops {finding : Finding} (stops : Stops own hides (.directory children) [])
    (found : Found own hides (.directory children) finding) : finding.location = [] := by
  obtain ⟨location, what⟩ := finding
  cases location with
  | nil => rfl
  | cons name rest =>
      cases there : Table.get? name children with
      | none => exact absurd found (not_found_of_missing there)
      | some child => exact absurd stops ((found_cons there).mp found).1

theorem covers_nil (left : LeftOut own hides []) : Covers own hides (.directory children) [] where
  ordered := .nil
  mem finding := by
    refine iff_of_false List.not_mem_nil ?_
    intro found
    have nowhere := found_of_stops (.inl left) found
    obtain ⟨location, what⟩ := finding
    cases nowhere
    exact (found_nil.mp found).1 left

theorem covers_single {what : Finding.What} (stops : Stops own hides (.directory children) [])
    (found : Found own hides (.directory children) ⟨[], what⟩)
    (only : ∀ other, Found own hides (.directory children) ⟨[], other⟩ → other = what) :
    Covers own hides (.directory children) [⟨[], what⟩] where
  ordered := List.pairwise_singleton _ _
  mem finding := by
    rw [List.mem_singleton]
    constructor
    · rintro rfl
      exact found
    · intro foundToo
      have nowhere := found_of_stops stops foundToo
      obtain ⟨location, other⟩ := finding
      cases nowhere
      rw [only other foundToo]

private theorem covers_chart (kept : ¬ LeftOut own hides [])
    (isChart : IsChart (.directory children)) :
    Covers own hides (.directory children) [⟨[], .chart⟩] := by
  refine covers_single (.inr ⟨_, rfl, .inl isChart⟩) (found_nil.mpr ⟨kept, .inl ⟨rfl, isChart⟩⟩) ?_
  intro other found
  rcases (found_nil.mp found).2 with ⟨same, _⟩ | ⟨_, notChart, _⟩
  · exact same
  · exact absurd isChart notChart

private theorem covers_kustomization (kept : ¬ LeftOut own hides [])
    (isKustomization : IsKustomization (.directory children)) :
    Covers own hides (.directory children) [⟨[], .kustomization⟩] := by
  refine covers_single (.inr ⟨_, rfl, .inr isKustomization⟩)
    (found_nil.mpr ⟨kept, .inr ⟨rfl, isKustomization⟩⟩) ?_
  intro other found
  rcases (found_nil.mp found).2 with ⟨_, isChart⟩ | ⟨same, _⟩
  · exact absurd isChart isKustomization.1
  · exact same

/-- In a directory that is entered, what lies below its entries is found. -/
theorem CoversAll.covers {findings : List Finding} (plain : (FileTree.directory children).Plain)
    (entered : ¬ Stops own hides (.directory children) [])
    (below : CoversAll hides children findings) :
    Covers own hides (.directory children) findings where
  ordered := below.ordered
  mem finding := by
    obtain ⟨location, what⟩ := finding
    rw [below.mem]
    constructor
    · rintro ⟨name, rest, child, member, rfl, found⟩
      exact (found_cons (plain.mem_iff.mp member)).mpr ⟨entered, found⟩
    · intro found
      cases location with
      | nil =>
          have described := (found_nil.mp found).2.imp And.right And.right
          exact absurd (.inr ⟨_, rfl, described⟩) entered
      | cons name rest =>
          cases there : Table.get? name children with
          | none => exact absurd found (not_found_of_missing there)
          | some child =>
              exact ⟨name, rest, child, plain.mem_iff.mpr there, rfl, ((found_cons there).mp found).2⟩

/-- A directory that is left out, or that describes something, is settled; in any other what lies below
it is found. -/
theorem directory_covers {inner : Classification} {out : Prop} [Decidable out] (plain : tree.Plain)
    (leads : tree.Leads path location (.directory children)) (means : out ↔ LeftOut own hides [])
    (below : ∃ findings, Gives path findings inner ∧ CoversAll hides children findings) :
    ∃ findings, Gives path findings
        (if out then {}
        else
          match roleOf tree path with
          | .chart => { charts := [path] }
          | .kustomization => { kustomizations := [path] }
          | .plain => inner) ∧
      Covers own hides (.directory children) findings := by
  by_cases left : out
  · rw [if_pos left]
    exact ⟨[], .nil, covers_nil (means.mp left)⟩
  have kept : ¬ LeftOut own hides [] := fun leftOut => left (means.mpr leftOut)
  rw [if_neg left]
  have fits := roleOf_fits plain leads
  cases role : roleOf tree path with
  | chart =>
      rw [role] at fits
      exact ⟨[⟨[], .chart⟩], ⟨rfl, rfl, fun bucket => by cases bucket <;> rfl⟩,
        covers_chart kept fits⟩
  | kustomization =>
      rw [role] at fits
      exact ⟨[⟨[], .kustomization⟩], ⟨rfl, rfl, fun bucket => by cases bucket <;> rfl⟩,
        covers_kustomization kept fits⟩
  | plain =>
      rw [role] at fits
      have entered : ¬ Stops own hides (.directory children) [] := by
        rintro (leftOut | ⟨_, same, described⟩)
        · exact kept leftOut
        · cases same
          exact fits described
      obtain ⟨findings, gives, covers⟩ := below
      exact ⟨findings, gives, covers.covers (plain.at? leads.there) entered⟩

def Hidden (skipped : List String) (location : List String) : Prop :=
  ∃ name ∈ skipped, location = [name]

/-! ### The walk -/

private theorem CoversAll.nil {hides : List String → Prop} : CoversAll hides [] [] where
  ordered := .nil
  mem finding := by simp

private theorem CoversAll.congr {findings : List Finding} {others : List String → Prop}
    (covers : CoversAll hides children findings)
    (same : ∀ name rest, others (name :: rest) ↔ hides (name :: rest)) :
    CoversAll others children findings where
  ordered := covers.ordered
  mem finding := by
    have below (name : String) :
        (fun rest => others (name :: rest)) = fun rest => hides (name :: rest) :=
      funext fun rest => propext (same name rest)
    simp only [below, covers.mem]

/-- What is found below an entry comes before what is found below later ones. -/
theorem CoversAll.cons {entry : FileTree} {early late : List Finding}
    (ordered : Table.Ascending ((name, entry) :: children))
    (first : Covers (some name) (fun rest => hides (name :: rest)) entry early)
    (others : CoversAll hides children late) :
    CoversAll hides ((name, entry) :: children) (early.map (Finding.below name) ++ late) where
  ordered := by
    refine List.pairwise_append.mpr ⟨?_, others.ordered, ?_⟩
    · exact List.Pairwise.map _ (fun _ _ before => Finding.below_before before) first.ordered
    · intro finding member later laterMember
      obtain ⟨own, _, rfl⟩ := List.mem_map.mp member
      obtain ⟨other, rest, child, inChildren, location, _⟩ := (others.mem later).mp laterMember
      have before : name < other :=
        (List.pairwise_cons.mp ordered).1 other (List.mem_map_of_mem inChildren)
      refine .inl ?_
      rw [location]
      exact List.cons_lt_cons_iff.mpr (.inl before)
  mem finding := by
    rw [List.mem_append, others.mem, List.mem_map]
    constructor
    · rintro (⟨own, member, rfl⟩ | ⟨other, rest, child, inside, location, found⟩)
      · exact ⟨name, own.location, entry, List.mem_cons_self, rfl, (first.mem own).mp member⟩
      · exact ⟨other, rest, child, List.mem_cons_of_mem _ inside, location, found⟩
    · rintro ⟨other, rest, child, inside, location, found⟩
      rcases List.mem_cons.mp inside with same | later
      · cases same
        refine .inl ⟨⟨rest, finding.what⟩, (first.mem _).mpr found, ?_⟩
        cases finding
        cases location
        rfl
      · exact .inr ⟨other, rest, child, later, location, found⟩

mutual

theorem classifyEntry_covers (plain : tree.Plain) (skipped : List String) (path name : String)
    (location : List String) :
    (entry : FileTree) → tree.Leads path location entry →
      ∃ findings, Gives path findings (classifyEntry tree skipped path name entry) ∧
        Covers (some name) (fun rest => Hidden skipped (name :: rest)) entry findings
  | .file content, _ => by
      rw [classifyEntry]
      exact classifyFile_covers
  | .link _, leads => absurd leads.there plain.not_link
  | .directory children, leads => by
      rw [classifyEntry]
      have means : (decide (name = ".git") || skipped.contains name) = true ↔
          LeftOut (some name) (fun rest => Hidden skipped (name :: rest)) [] := by
        simp [LeftOut, Hidden]
      obtain ⟨findings, gives, covers⟩ := classifyChildren_covers plain [] path location children
        children leads (fun _ member => member) ((plain.at? leads.there).ordered)
      -- Only right below the start are directories left out for the names that were given.
      have deeper (next : String) (rest : List String) :
          Hidden skipped (name :: next :: rest) ↔ Hidden [] (next :: rest) := by
        simp [Hidden]
      exact directory_covers plain leads means ⟨findings, gives, covers.congr deeper⟩

theorem classifyChildren_covers (plain : tree.Plain) (skipped : List String) (path : String)
    (location : List String) (all : List (String × FileTree)) :
    (children : List (String × FileTree)) → tree.Leads path location (.directory all) →
      (∀ entry ∈ children, entry ∈ all) → Table.Ascending children →
      ∃ findings, Gives path findings (classifyChildren tree skipped path children) ∧
        CoversAll (Hidden skipped) children findings
  | [], _, _, _ => by
      rw [classifyChildren]
      exact ⟨[], .nil, .nil⟩
  | (name, entry) :: rest, leads, inside, ordered => by
      -- Files are looked up by their paths, and so among all entries of the directory.
      obtain ⟨own, others⟩ := List.forall_mem_cons.mp inside
      have there := (plain.at? leads.there).mem_iff.mp own
      obtain ⟨early, gives, covers⟩ := classifyEntry_covers plain skipped (FilePath.push path name)
        name (location ++ [name]) entry (leads.push plain there)
      obtain ⟨late, givesLater, coversLater⟩ := classifyChildren_covers plain skipped path location
        all rest leads others (List.pairwise_cons.mp ordered).2
      rw [classifyChildren]
      exact ⟨early.map (Finding.below name) ++ late, gives.below.append givesLater,
        .cons ordered covers coversLater⟩

end

def ownName? (path : String) : Option String :=
  match (FilePath.components path).getLast? with
  | some (.name name) => some name
  | _ => none

private theorem not_endsInLink (plain : tree.Plain) (path : String) :
    endsInLink tree path = false := by
  unfold endsInLink
  dsimp only
  split
  · next name location _ _ =>
      have unlinked (target : String) :
          (tree.at? location).bind (FileTree.child? name) ≠ some (.link target) := by
        rw [← FileTree.at?_concat]
        exact plain.not_link
      split
      · next target linked => exact absurd linked (unlinked target)
      · rfl
  · rfl

/-- Without links, a directory that is classified is taken for what it is, like those below it. -/
theorem classify_eq (plain : tree.Plain) (skipped : List String)
    (there : tree.find? path = some (.directory children)) :
    classify tree path skipped = some
      (if ownName? path = some ".git" then {}
      else
        match roleOf tree path with
        | .chart => { charts := [path] }
        | .kustomization => { kustomizations := [path] }
        | .plain => classifyChildren tree skipped path children) := by
  unfold classify
  rw [there]
  dsimp only
  rw [not_endsInLink plain path, if_neg Bool.false_ne_true]
  have own : (match (FilePath.components path).getLast? with
      | some (.name name) => name
      | _ => "") = ".git" ↔ ownName? path = some ".git" := by
    unfold ownName?
    split <;> simp
  by_cases git : ownName? path = some ".git"
  · rw [if_pos git]
    exact if_pos (own.mpr git)
  · rw [if_neg git]
    refine (if_neg fun same => git (own.mp same)).trans ?_
    cases roleOf tree path <;> rfl

theorem classify_covers (plain : tree.Plain) (skipped : List String)
    (there : tree.find? path = some (.directory children)) :
    ∃ classes findings, classify tree path skipped = some classes ∧ Gives path findings classes ∧
      Covers (ownName? path) (Hidden skipped) (.directory children) findings := by
  obtain ⟨location, leads⟩ := FileTree.leads_of_find? there
  have below := classifyChildren_covers plain skipped path location children children leads
    (fun _ member => member) (plain.at? leads.there).ordered
  have means : ownName? path = some ".git" ↔ LeftOut (ownName? path) (Hidden skipped) [] := by
    simp [LeftOut, Hidden]
  obtain ⟨findings, gives, covers⟩ := directory_covers plain leads means below
  exact ⟨_, findings, classify_eq plain skipped there, gives, covers⟩

end

end GitDelivery.Manifest
