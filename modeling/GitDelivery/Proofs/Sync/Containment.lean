import GitDelivery.Proofs.FilePath.Joining
import GitDelivery.Proofs.FileTree.Rewriting
import GitDelivery.Proofs.Manifest.Reach
import GitDelivery.Proofs.Manifest.Targeting
import GitDelivery.Proofs.Sync.Rendering

set_option autoImplicit false

/-! Which files a tick opens, and where they are. The resource path goes down from the working copy by
names, but names can be those of links. The walk below it goes through no link; only the file that
describes a chart or a kustomization may be one. -/

namespace GitDelivery.Assembly

open Manifest (Classification)
open Work (Log)

section

variable {context : Context} {subscription : Subscription} {root path : String}
  {tree state : FileTree} {classes : Classification} {start copy final : List String}

/-- In the course of a tick a file is opened, in the state in which the tree is by then. -/
inductive Opens (context : Context) (subscription : Subscription) (root path : String)
    (tree : FileTree) (classes : Classification) : FileTree → String → Prop where
  | manifest {children : List (String × FileTree)} {below : List String} {name : String}
      {content : Bytes} (there : tree.find? path = some (.directory children))
      (reaches : Manifest.Reaches tree Manifest.hookDirectories path children below name (.file content))
      (isManifest : Manifest.isManifestName name = true) :
      Opens context subscription root path tree classes tree
        (FilePath.pushAll path (below ++ [name]))
  | chart {directory : String} (listed : directory ∈ classes.charts) :
      Opens context subscription root path tree classes tree
        (FilePath.push directory Manifest.chartFile)
  | kustomization {done rest : List String} {directory file : String} {log : Log} {state : FileTree}
      {batches : List (List String)} (listed : classes.kustomizations = done ++ directory :: rest)
      (renders : Renders context subscription root tree done log state batches)
      (chosen : Manifest.Kustomization.file? state directory = some file) :
      Opens context subscription root path tree classes state file

/-- A file stands under its own names below a directory, or a link there leads to it that stands for the
description of a chart or a kustomization. -/
inductive Stands (tree : FileTree) (start names final : List String) : Prop where
  | own (same : final = start ++ names)
  | linked {below : List String} {name target : String} (shape : names = below ++ [name])
      (describes : name ∈ Manifest.chartFile :: Manifest.kustomizationFiles)
      (isLink : tree.at? (start ++ names) = some (.link target))
      (leads : tree.resolveFrom FileTree.linkLimit (start ++ below) (FilePath.components target) =
        some final)

/-! ### States of the tree -/

theorem file?_mem {directory file : String}
    (chosen : Manifest.Kustomization.file? tree directory = some file) :
    tree.isFile file = true ∧
      ∃ name ∈ Manifest.kustomizationFiles, file = FilePath.push directory name := by
  have listed := List.mem_of_find?_eq_some chosen
  obtain ⟨name, member, rfl⟩ := List.mem_map.mp listed
  exact ⟨List.find?_some chosen, name, member, rfl⟩

private theorem file?_eq {other : FileTree} (same : tree.SameKinds other) (directory : String) :
    Manifest.Kustomization.file? tree directory = Manifest.Kustomization.file? other directory := by
  unfold Manifest.Kustomization.file?
  congr 1
  exact funext same.isFile_eq

theorem sameKinds_override {overrides : List PackageOverride} {relative directory : String}
    {changed : Bool} {laid : FileTree}
    (overridden : Manifest.Kustomization.override overrides relative directory tree =
      .ok (changed, laid)) : tree.SameKinds laid := by
  rcases Manifest.Kustomization.override_ok overridden with
    ⟨_, _, rfl⟩ | ⟨_, _, file, content, chosen, rfl⟩
  · exact .refl _
  · exact FileTree.sameKinds_rewrite (file?_mem chosen).1 content

theorem Renders.sameKinds {directories : List String} {log : Log} {batches : List (List String)}
    (renders : Renders context subscription root tree directories log state batches) :
    tree.SameKinds state := by
  induction renders with
  | nil tree => exact .refl tree
  | cons overridden _ _ ih => exact (sameKinds_override overridden).trans ih

theorem Renders.outside {directories : List String} {log : Log} {batches : List (List String)}
    (renders : Renders context subscription root tree directories log state batches)
    (inside : ∀ directory ∈ directories, ∀ file final,
      Manifest.Kustomization.file? tree directory = some file → tree.resolve file = some final →
        copy <+: final)
    {elsewhere : List String} (notAbove : ¬ elsewhere <+: copy) (notBelow : ¬ copy <+: elsewhere) :
    state.at? elsewhere = tree.at? elsewhere := by
  induction renders with
  | nil tree => rfl
  | @cons tree laid last directory rest changed build documents log others overridden built later ih =>
      have same := sameKinds_override overridden
      have onward : laid.at? elsewhere = tree.at? elsewhere := by
        rcases Manifest.Kustomization.override_ok overridden with
          ⟨_, _, rfl⟩ | ⟨_, _, file, content, chosen, rfl⟩
        · rfl
        · exact FileTree.at?_rewrite_of_outside (file?_mem chosen).1
            (fun final => inside directory List.mem_cons_self file final chosen) notAbove notBelow
            content
      rw [← onward]
      refine ih fun other member file final chosen resolved => ?_
      rw [← file?_eq same] at chosen
      rw [← same.resolve_eq] at resolved
      exact inside other (List.mem_cons_of_mem _ member) file final chosen resolved

/-! ### Where opened files are -/

theorem leads_of_listed {listed : Manifest.Listed} {directory : String} (proper : tree.Proper)
    (classified : Manifest.classify tree path Manifest.hookDirectories = some classes)
    (lists : classes.Lists listed)
    (described : listed = .chart directory ∨ listed = .kustomization directory) :
    ∃ start names children, tree.resolve path = some start ∧
      directory = FilePath.pushAll path names ∧ (∀ name ∈ names, FilePath.IsName name) ∧
      tree.Leads directory (start ++ names) (.directory children) := by
  obtain ⟨children, there, shown⟩ := Manifest.lists_of_classify classified lists
  obtain ⟨start, leads⟩ := FileTree.leads_of_find? there
  rcases shown with ⟨below, name, entry, reaches, shows⟩ | ⟨name, shows⟩
  · have names := reaches.names (proper.at? leads.there)
    cases shows with
    | document _ _ => rcases described with impossible | impossible <;> cases impossible
    | chart _ | kustomization _ =>
        rcases described with same | same <;> cases same
        exact ⟨start, below ++ [name], _, leads.resolved, rfl, names,
          reaches.leads proper leads fun target isLink => by cases isLink⟩
  · cases shows with
    | chart _ | kustomization _ =>
        rcases described with same | same <;> cases same
        refine ⟨start, [], children, leads.resolved, rfl, (fun name member => by cases member), ?_⟩
        rw [List.append_nil]
        exact leads

/-- The file that describes a listed directory is there, or what the link leads to that is there. -/
theorem stands_of_described {listed : Manifest.Listed} {directory name : String} (proper : tree.Proper)
    (classified : Manifest.classify tree path Manifest.hookDirectories = some classes)
    (lists : classes.Lists listed)
    (described : listed = .chart directory ∨ listed = .kustomization directory)
    (describes : name ∈ Manifest.chartFile :: Manifest.kustomizationFiles)
    (opened : tree.resolve (FilePath.push directory name) = some final) :
    ∃ start names, tree.resolve path = some start ∧
      FilePath.push directory name = FilePath.pushAll path names ∧
      (∀ part ∈ names, FilePath.IsName part) ∧ Stands tree start names final := by
  have isName : FilePath.IsName name := by
    have all : ∀ name ∈ Manifest.chartFile :: Manifest.kustomizationFiles, FilePath.IsName name := by
      decide
    exact all name describes
  obtain ⟨start, names, children, resolved, rfl, are, leads⟩ :=
    leads_of_listed proper classified lists described
  refine ⟨start, names ++ [name], resolved, (FilePath.pushAll_append path names [name]).symm,
    List.forall_mem_append.mpr ⟨are, fun part member => List.mem_singleton.mp member ▸ isName⟩, ?_⟩
  rcases leads.push_cases isName opened with same | ⟨target, isLink, led⟩
  · exact .own (by rw [same, List.append_assoc])
  · rw [List.append_assoc] at isLink
    exact .linked rfl describes isLink led

/-- Every file that is opened has a path below the resource path, and stands there. -/
theorem Opens.stands {file : String} (proper : tree.Proper)
    (classified : Manifest.classify tree path Manifest.hookDirectories = some classes)
    (opens : Opens context subscription root path tree classes state file)
    (opened : state.resolve file = some final) :
    ∃ start names, tree.resolve path = some start ∧ file = FilePath.pushAll path names ∧
      (∀ name ∈ names, FilePath.IsName name) ∧ Stands tree start names final := by
  cases opens with
  | @manifest children below name content there reaches _ =>
      obtain ⟨start, leads⟩ := FileTree.leads_of_find? there
      have stands := reaches.leads proper leads fun target isLink => by cases isLink
      cases stands.resolved.symm.trans opened
      exact ⟨start, below ++ [name], leads.resolved, rfl, reaches.names (proper.at? leads.there),
        .own rfl⟩
  | @chart directory listed =>
      have lists : classes.Lists (.chart directory) := listed
      exact stands_of_described proper classified lists (.inl rfl) List.mem_cons_self opened
  | @kustomization done rest directory file log state batches listed renders chosen =>
      have lists : classes.Lists (.kustomization directory) := by
        change directory ∈ classes.kustomizations
        rw [listed]
        exact List.mem_append_right done List.mem_cons_self
      obtain ⟨_, name, member, rfl⟩ := file?_mem chosen
      -- Rendering leads no path elsewhere.
      rw [← renders.sameKinds.resolve_eq] at opened
      exact stands_of_described proper classified lists (.inr rfl) (List.mem_cons_of_mem _ member)
        opened

/-- All states of the tree lead a path to the same place. -/
theorem Opens.resolve_eq {file : String}
    (opens : Opens context subscription root path tree classes state file) (other : String) :
    tree.resolve other = state.resolve other := by
  cases opens with
  | manifest _ _ _ => rfl
  | chart _ => rfl
  | kustomization _ renders _ => exact renders.sameKinds.resolve_eq other

/-- If no link leads out of the working copy, names lead from the resource path to what is inside. -/
theorem inside_of_accepted {given : Option String} {names : List String}
    (checkedOut : tree.resolve root = some copy) (tight : tree.Sealed copy)
    (accepted : FilePath.joinWithin root given = .ok path)
    (are : ∀ name ∈ names, FilePath.IsName name)
    (opened : tree.resolve (FilePath.pushAll path names) = some final) : copy <+: final := by
  obtain ⟨above, rfl, areAbove⟩ := FilePath.joinWithin_ok accepted
  rw [← FilePath.pushAll_append] at opened
  have walks := FileTree.walks_of_resolve_pushAll checkedOut
    (List.forall_mem_append.mpr ⟨areAbove, are⟩) opened
  exact tight.stays (List.prefix_refl copy) (Nat.le_refl _) walks

/-- Every file that a tick reads or rewrites stands at its own path below where the resource path leads,
but for the descriptions of charts and kustomizations that are links. If no link leads out of the
working copy, all of them are inside, and nothing outside is changed. -/
theorem opened_files_contained {given : Option String} (proper : tree.Proper)
    (checkedOut : tree.resolve root = some copy)
    (accepted : FilePath.joinWithin root given = .ok path)
    (classified : Manifest.classify tree path Manifest.hookDirectories = some classes) :
    (∀ state file final, Opens context subscription root path tree classes state file →
      state.resolve file = some final →
        ∃ start names, tree.resolve path = some start ∧ file = FilePath.pushAll path names ∧
          (∀ name ∈ names, FilePath.IsName name) ∧ Stands tree start names final) ∧
    (tree.Sealed copy →
      (∀ state file final, Opens context subscription root path tree classes state file →
        state.resolve file = some final → copy <+: final) ∧
      ∀ done rest log last batches, classes.kustomizations = done ++ rest →
        Renders context subscription root tree done log last batches →
          ∀ elsewhere, ¬ elsewhere <+: copy → ¬ copy <+: elsewhere →
            last.at? elsewhere = tree.at? elsewhere) := by
  refine ⟨fun state file final opens opened => opens.stands proper classified opened,
    fun tight => ⟨?_, ?_⟩⟩
  · intro state file final opens opened
    obtain ⟨_, names, _, rfl, are, _⟩ := opens.stands proper classified opened
    rw [← opens.resolve_eq] at opened
    exact inside_of_accepted checkedOut tight accepted are opened
  · intro done rest log last batches listed renders elsewhere notAbove notBelow
    refine renders.outside (fun directory member file final chosen opened => ?_) notAbove notBelow
    have lists : classes.Lists (.kustomization directory) := by
      change directory ∈ classes.kustomizations
      rw [listed]
      exact List.mem_append_left rest member
    obtain ⟨_, name, listedName, rfl⟩ := file?_mem chosen
    obtain ⟨_, names, _, same, are, _⟩ := stands_of_described proper classified lists (.inr rfl)
      (List.mem_cons_of_mem _ listedName) opened
    rw [same] at opened
    exact inside_of_accepted checkedOut tight accepted are opened

end

namespace LinkedPath

/-! Two working copies, one of which holds a link at the resource path. -/

def chart : FileTree :=
  .directory [("Chart.yaml", .file (Bytes.ofText "name: app\nversion: 1.0.0\n"))]

def holder : FileTree := .directory [("app", chart)]

def entries (target : String) : List (String × FileTree) :=
  [("base", holder), ("deploy", .link target)]

def copies (target : String) : FileTree :=
  .directory [("git", .directory [("other", holder), ("web", .directory (entries target))])]

def classes : Classification := { charts := ["git/web/deploy/app"] }

theorem holder_plain : holder.Plain := by
  have chart : chart.Plain := .directory (by decide) (by decide) (by simp [FileTree.Plain.file])
  exact .directory (by decide) (by decide) (by simp [chart])

private theorem directory_proper {children : List (String × FileTree)} (names : List String)
    (keys : Table.keys children = names) (ascending : names.Pairwise (· < ·))
    (are : ∀ name ∈ names, FilePath.IsName name) (inner : ∀ entry ∈ children, entry.2.Proper) :
    (FileTree.directory children).Proper := by
  subst keys
  exact .directory ascending (fun entry member => are _ (List.mem_map_of_mem member)) inner

theorem proper (target : String) : (copies target).Proper := by
  have web : (FileTree.directory (entries target)).Proper :=
    directory_proper ["base", "deploy"] rfl (by decide) (by decide)
      (by simp [entries, holder_plain.proper, FileTree.Proper.link])
  have git : (FileTree.directory [("other", holder), ("web", .directory (entries target))]).Proper :=
    directory_proper ["other", "web"] rfl (by decide) (by decide) (by simp [holder_plain.proper, web])
  exact directory_proper ["git"] rfl (by decide) (by decide) (by simp [git])

theorem checkedOut (target : String) : (copies target).resolve "git/web" = some ["git", "web"] := by
  rfl

theorem accepted : FilePath.joinWithin "git/web" (some "deploy") = .ok "git/web/deploy" := by
  have trimmed : Text.trim "deploy" = "deploy" := by decide +kernel
  have parts : FilePath.components "deploy" = [.name "deploy"] := by decide +kernel
  have joined : FilePath.pushAll "git/web" ["deploy"] = "git/web/deploy" := by decide +kernel
  unfold FilePath.joinWithin FilePath.relativeNames
  simp only [Option.getD_some, trimmed, parts]
  exact congrArg Except.ok joined

private theorem classified_inside :
    Manifest.classify (copies "base") "git/web/deploy" Manifest.hookDirectories = some classes := by
  decide +kernel

private theorem classified_outside :
    Manifest.classify (copies "../other") "git/web/deploy" Manifest.hookDirectories =
      some classes := by
  decide +kernel

private theorem link_of_entry {step target : String} {rest : List String}
    (isLink : (FileTree.directory (entries "base")).at? (step :: rest) = some (.link target)) :
    rest = [] ∧ target = "base" := by
  obtain ⟨inner, isEntry, later⟩ := Option.bind_eq_some_iff.mp isLink
  have among : inner = holder ∨ inner = .link "base" := by
    change Table.get? step (entries "base") = some inner at isEntry
    unfold entries Table.get? Table.get? Table.get? at isEntry
    split at isEntry
    · exact .inl (Option.some.inj isEntry).symm
    split at isEntry
    · exact .inr (Option.some.inj isEntry).symm
    · cases isEntry
  rcases among with rfl | rfl
  · exact absurd later holder_plain.not_link
  · cases rest with
    | nil =>
        cases later
        exact ⟨rfl, rfl⟩
    | cons next more => cases later

/-- The link stays in its working copy if its target does. -/
theorem tight : (copies "base").Sealed ["git", "web"] := by
  intro location name target final within isLink led
  obtain ⟨rest, rfl⟩ := within
  rw [List.append_assoc] at isLink
  have isEntry : (FileTree.directory (entries "base")).at? (rest ++ [name]) = some (.link target) :=
    isLink
  have top : rest = [] ∧ target = "base" := by
    cases rest with
    | nil => exact ⟨rfl, (link_of_entry isEntry).2⟩
    | cons step more =>
        have impossible := (link_of_entry isEntry).1
        exact absurd impossible (List.append_ne_nil_of_right_ne_nil more (List.cons_ne_nil name []))
  obtain ⟨rfl, rfl⟩ := top
  have target : (copies "base").resolveFrom FileTree.linkLimit ["git", "web"]
      (FilePath.components "base") = some ["git", "web", "base"] := by
    decide +kernel
  cases target.symm.trans led
  exact List.prefix_append ["git", "web"] ["base"]

private theorem leads_inside :
    (copies "base").resolve (FilePath.push "git/web/deploy/app" Manifest.chartFile) =
      some ["git", "web", "base", "app", "Chart.yaml"] := by
  decide +kernel

private theorem leads_outside :
    (copies "../other").resolve (FilePath.push "git/web/deploy/app" Manifest.chartFile) =
      some ["git", "other", "app", "Chart.yaml"] := by
  decide +kernel

def context : Context := { settings := Settings.standard, isNamespaced := fun _ => true }

def subscription : Subscription :=
  { metadata := { name := some "web", space := some "apps" }
    spec := ⟨"repo", none, none, none, [], none, none, none, [], []⟩
    status := none }

theorem opens_chart (target : String) :
    Opens context subscription "git/web" "git/web/deploy" (copies target) classes (copies target)
      (FilePath.push "git/web/deploy/app" Manifest.chartFile) :=
  .chart (List.mem_singleton_self _)

/-- A link that stays leaves the chart inside. -/
theorem chart_inside :
    (copies "base").Sealed ["git", "web"] ∧
      Opens context subscription "git/web" "git/web/deploy" (copies "base") classes (copies "base")
        (FilePath.push "git/web/deploy/app" Manifest.chartFile) ∧
      (copies "base").resolve (FilePath.push "git/web/deploy/app" Manifest.chartFile) =
        some ["git", "web", "base", "app", "Chart.yaml"] ∧
      ["git", "web"] <+: ["git", "web", "base", "app", "Chart.yaml"] := by
  refine ⟨tight, opens_chart "base", leads_inside, ?_⟩
  exact ((opened_files_contained (proper "base") (checkedOut "base") accepted classified_inside).2
    tight).1 _ _ _ (opens_chart "base") leads_inside

/-- A link to another working copy takes the chart from there. -/
theorem not_always_contained :
    ¬ ∀ (context : Context) (subscription : Subscription) (root path : String) (given : Option String)
      (tree : FileTree) (copy : List String) (classes : Classification),
      tree.Proper → tree.resolve root = some copy → FilePath.joinWithin root given = .ok path →
      Manifest.classify tree path Manifest.hookDirectories = some classes →
      ∀ state file final, Opens context subscription root path tree classes state file →
        state.resolve file = some final → copy <+: final := by
  intro always
  have impossible := always context subscription "git/web" "git/web/deploy" (some "deploy")
    (copies "../other") ["git", "web"] classes (proper "../other") (checkedOut "../other") accepted
    classified_outside _ _ _ (opens_chart "../other") leads_outside
  revert impossible
  decide

end LinkedPath

end GitDelivery.Assembly
