import GitDelivery.Proofs.Manifest.Walk

set_option autoImplicit false

/-! Classification is exact: in a tree without links every directory and every document that is to be
found is listed once, and nothing else is. -/

namespace GitDelivery.Manifest

section

variable {path : String} {own : Option String} {hides : List String → Prop} {root : FileTree}
  {findings : List Finding} {classes : Classification}

theorem Found.names {finding : Finding} (plain : root.Plain) (found : Found own hides root finding) :
    ∀ name ∈ finding.location, FilePath.IsName name := by
  obtain ⟨location, what⟩ := finding
  obtain ⟨_, found⟩ := found
  cases what with
  | chart =>
      obtain ⟨_, dir, there, _⟩ := found
      exact plain.names there
  | kustomization =>
      obtain ⟨_, dir, there, _⟩ := found
      exact plain.names there
  | document index content =>
      obtain ⟨_, _, _, _, _, _, there, _⟩ := found
      exact plain.names there

/-- Of two findings with one path, both are documents of a file. -/
theorem Covers.distinct (plain : root.Plain) (present : path ≠ "")
    (covers : Covers own hides root findings) :
    findings.Pairwise fun first second =>
      FilePath.pushAll path first.location = FilePath.pushAll path second.location →
        first.what.Before second.what := by
  refine covers.ordered.imp_of_mem ?_
  intro first second member secondMember before same
  have names := ((covers.mem first).mp member).names plain
  have secondNames := ((covers.mem second).mp secondMember).names plain
  rcases before with earlier | ⟨_, earlier⟩
  · rw [FilePath.pushAll_inj present names secondNames same] at earlier
    exact absurd earlier (List.lt_irrefl _)
  · exact earlier

theorem Finding.directory?_eq_some_iff {kind : Finding.What} {finding : Finding} {dir : String} :
    finding.directory? path kind = some dir ↔
      finding.what = kind ∧ FilePath.pushAll path finding.location = dir := by
  unfold Finding.directory?
  split
  · next same => simp [same]
  · next other => simp [other]

theorem Covers.mem_directories_iff {kind : Finding.What} {dir : String}
    (covers : Covers own hides root findings) :
    dir ∈ findings.filterMap (Finding.directory? path kind) ↔
      ∃ location, Found own hides root ⟨location, kind⟩ ∧ FilePath.pushAll path location = dir := by
  simp only [List.mem_filterMap, Finding.directory?_eq_some_iff, covers.mem]
  constructor
  · rintro ⟨⟨location, _⟩, found, rfl, same⟩
    exact ⟨location, found, same⟩
  · rintro ⟨location, found, same⟩
    exact ⟨⟨location, kind⟩, found, rfl, same⟩

private theorem Covers.nodup_directories {kind : Finding.What} (plain : root.Plain)
    (present : path ≠ "") (covers : Covers own hides root findings) (single : ¬ kind.Before kind) :
    (findings.filterMap (Finding.directory? path kind)).Nodup := by
  refine (covers.distinct plain present).filterMap _ ?_
  intro first second distinct dir isFirst other isSecond
  obtain ⟨firstKind, rfl⟩ := Finding.directory?_eq_some_iff.mp isFirst
  obtain ⟨secondKind, rfl⟩ := Finding.directory?_eq_some_iff.mp isSecond
  intro same
  have before := distinct same
  rw [firstKind, secondKind] at before
  exact single before

private theorem Covers.nodup_sources (plain : root.Plain) (present : path ≠ "")
    (covers : Covers own hides root findings) (bucket : Bucket) :
    (findings.filterMap (Finding.source? path bucket)).Nodup := by
  have means {finding : Finding} {source : Source}
      (gives : finding.source? path bucket = some source) :
      finding.what = .document source.index source.content ∧
        FilePath.pushAll path finding.location = source.path := by
    obtain ⟨location, what⟩ := finding
    unfold Finding.source? at gives
    split at gives
    · next index content isDocument =>
        split at gives
        · cases gives
          exact ⟨isDocument, rfl⟩
        · cases gives
    · cases gives
  refine (covers.distinct plain present).filterMap _ ?_
  rintro first second distinct source isFirst _ isSecond rfl
  obtain ⟨firstIs, firstPath⟩ := means isFirst
  obtain ⟨secondIs, secondPath⟩ := means isSecond
  have before := distinct (firstPath.trans secondPath.symm)
  rw [firstIs, secondIs] at before
  exact absurd before (Nat.lt_irrefl _)

def Described (own : Option String) (hides : List String → Prop) (root : FileTree)
    (location : List String) : Prop :=
  Found own hides root ⟨location, .chart⟩ ∨ Found own hides root ⟨location, .kustomization⟩

private theorem Described.names {location : List String} (plain : root.Plain)
    (described : Described own hides root location) : ∀ name ∈ location, FilePath.IsName name := by
  rcases described with found | found <;> exact found.names plain

private theorem Described.not_below {outer names : List String}
    (described : Described own hides root outer)
    (proper : names ≠ []) : ¬ Described own hides root (outer ++ names) := by
  have dirThere : ∃ dir, root.at? outer = some dir ∧ (IsChart dir ∨ IsKustomization dir) := by
    rcases described with ⟨_, _, dir, there, isChart⟩ | ⟨_, _, dir, there, isKustomization⟩
    · exact ⟨dir, there, .inl isChart⟩
    · exact ⟨dir, there, .inr isKustomization⟩
  have above : outer ≠ outer ++ names := fun same => proper (List.self_eq_append_right.mp same)
  have blocked : ¬ Reached own hides root (outer ++ names) := fun reached =>
    reached outer (List.prefix_append outer names) above (.inr dirThere)
  rintro (⟨reached, _⟩ | ⟨reached, _⟩) <;> exact blocked reached

theorem Gives.mem_directories_iff {dir : String} (gives : Gives path findings classes)
    (covers : Covers own hides root findings) :
    dir ∈ classes.charts ++ classes.kustomizations ↔
      ∃ location, Described own hides root location ∧ FilePath.pushAll path location = dir := by
  rw [List.mem_append, gives.charts, gives.kustomizations, covers.mem_directories_iff,
    covers.mem_directories_iff]
  constructor
  · rintro (⟨location, found, same⟩ | ⟨location, found, same⟩)
    · exact ⟨location, .inl found, same⟩
    · exact ⟨location, .inr found, same⟩
  · rintro ⟨location, found | found, same⟩
    · exact .inl ⟨location, found, same⟩
    · exact .inr ⟨location, found, same⟩

/-- Every directory is listed once, as a chart or as a kustomization. -/
theorem Gives.nodup_directories (plain : root.Plain) (present : path ≠ "")
    (gives : Gives path findings classes) (covers : Covers own hides root findings) :
    (classes.charts ++ classes.kustomizations).Nodup := by
  rw [gives.charts, gives.kustomizations, List.nodup_append]
  refine ⟨covers.nodup_directories plain present id, covers.nodup_directories plain present id, ?_⟩
  intro dir isChart other isKustomization same
  obtain ⟨location, found, rfl⟩ := covers.mem_directories_iff.mp isChart
  obtain ⟨place, foundToo, again⟩ := covers.mem_directories_iff.mp isKustomization
  have locations := FilePath.pushAll_inj present (found.names plain) (foundToo.names plain)
    (same.trans again.symm)
  change location = place at locations
  subst locations
  obtain ⟨_, _, one, there, chart⟩ := found
  obtain ⟨_, _, two, thereToo, notChart, _⟩ := foundToo
  cases there.symm.trans thereToo
  exact notChart chart

theorem Gives.apart (plain : root.Plain) (present : path ≠ "") (gives : Gives path findings classes)
    (covers : Covers own hides root findings) {outer : String} {names : List String}
    (listed : outer ∈ classes.charts ++ classes.kustomizations) (proper : names ≠ [])
    (are : ∀ name ∈ names, FilePath.IsName name) :
    FilePath.pushAll outer names ∉ classes.charts ++ classes.kustomizations := by
  obtain ⟨location, described, rfl⟩ := (gives.mem_directories_iff covers).mp listed
  intro listedToo
  obtain ⟨place, describedToo, same⟩ := (gives.mem_directories_iff covers).mp listedToo
  have whole : FilePath.pushAll path (location ++ names) =
      FilePath.pushAll (FilePath.pushAll path location) names := List.foldl_append
  have places := FilePath.pushAll_inj present (describedToo.names plain)
    (List.forall_mem_append.mpr ⟨described.names plain, are⟩) (same.trans whole.symm)
  subst places
  exact described.not_below proper describedToo

end

/-- Classifying a directory of a tree without links lists exactly what is to be found there: the
topmost directories that describe a chart or a kustomization, none twice and none below another, and
every document outside of them that declares a kind, once and in the class of the kind. The
directories and the documents of each class stand in the order of the walk. -/
theorem classify_partitions {tree : FileTree} {path : String} {children : List (String × FileTree)}
    (plain : tree.Plain) (there : tree.find? path = some (.directory children)) :
    ∃ classes findings, classify tree path hookDirectories = some classes ∧
      Gives path findings classes ∧
      Covers (ownName? path) (Hidden hookDirectories) (.directory children) findings ∧
      (classes.charts ++ classes.kustomizations).Nodup ∧
      (∀ outer ∈ classes.charts ++ classes.kustomizations, ∀ names : List String, names ≠ [] →
        (∀ name ∈ names, FilePath.IsName name) →
        FilePath.pushAll outer names ∉ classes.charts ++ classes.kustomizations) ∧
      ∀ bucket, (classes.bucket bucket).Nodup := by
  obtain ⟨location, leads⟩ := FileTree.leads_of_find? there
  obtain ⟨classes, findings, classified, gives, covers⟩ := classify_covers plain hookDirectories there
  have inner := plain.at? leads.there
  refine ⟨classes, findings, classified, gives, covers, ?_, ?_, ?_⟩
  · exact gives.nodup_directories inner leads.present covers
  · intro outer listed names proper are
    exact gives.apart inner leads.present covers listed proper are
  · intro bucket
    rw [gives.documents]
    exact covers.nodup_sources inner leads.present bucket

namespace HiddenChart

def chart : FileTree := .directory [("Chart.yaml", .file [])]

def resources : List (String × FileTree) :=
  [(".git", .directory []), ("prehook", chart), ("web", chart)]

def tree : FileTree := .directory [("deploy", .directory resources)]

private theorem plain : tree.Plain := by
  have chartPlain : chart.Plain :=
    .directory (by decide) (by decide) (List.forall_mem_singleton.mpr (.file []))
  have gitPlain : (FileTree.directory []).Plain := .directory (by decide) (by decide) (by simp)
  have resourcesPlain : (FileTree.directory resources).Plain := by
    refine .directory (by decide) (by decide) ?_
    simp [resources, gitPlain, chartPlain]
  exact .directory (by decide) (by decide) (List.forall_mem_singleton.mpr resourcesPlain)

private theorem there : tree.find? "deploy" = some (.directory resources) := by rfl

private theorem classified :
    classify tree "deploy" hookDirectories = some { charts := ["deploy/web"] } := by
  decide +kernel

/-- Only the chart among the resources is listed. -/
theorem only_chart_listed :
    tree.Plain ∧ tree.find? "deploy" = some (.directory resources) ∧
      ∃ classes findings, classify tree "deploy" hookDirectories = some classes ∧
        Gives "deploy" findings classes ∧
        Covers (some "deploy") (Hidden hookDirectories) (.directory resources) findings ∧
        classes.charts = ["deploy/web"] := by
  obtain ⟨classes, findings, same, gives, covers, _⟩ := classify_partitions plain there
  refine ⟨plain, there, classes, findings, same, gives, covers, ?_⟩
  rw [Option.some.inj (same.symm.trans classified)]

end HiddenChart
end GitDelivery.Manifest
