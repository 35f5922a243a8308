import GitDelivery.Proofs.Manifest.ChartIndex
import GitDelivery.Proofs.Resource.Status
import GitDelivery.Proofs.Text.Lowercase
import Mathlib.Data.List.Nodup

set_option autoImplicit false

/-! The releases that install the charts of an index: what they install, and which of them have the same
name. Charts are told apart by their names as they are written, and the names of releases have small
letters only. -/

namespace GitDelivery

theorem Json.get?_ofFields {pairs : Table Json} (distinct : (Table.keys pairs).Nodup) (key : String) :
    (ofFields pairs).get? key = Table.get? key pairs :=
  Table.get?_ofList_of_nodup distinct key

namespace Manifest

def KeepsNames (subscription : Subscription) : Prop :=
  ∀ package ∈ subscription.spec.overrides, package.displayName.bind Text.nonEmpty? = none

def releasedAs (release : Json) : Option Json :=
  release.at? ["metadata", "name"]

structure Installs (release : Json) (chart : Chart) : Prop where
  kind : release.at? ["kind"] = some (.text "HelmRelease")
  name : release.at? ["repo", "chartName"] = some (.text chart.name)
  version : release.at? ["repo", "version"] = some (.text chart.version)
  path : release.at? ["repo", "source", "git", "chartPath"] = some (.text chart.path)

section

variable {subscription : Subscription} {tree : FileTree} {root : String} {directories : List String}
  {charts last : List Chart} {index : ChartIndex}

/-! ### One release -/

namespace Chart

variable (subscription) (options : CloneOptions) (chart : Chart)

private theorem releasedAs_release :
    releasedAs (chart.release subscription options) =
      some (.text (chart.releaseName subscription)) := by
  simp [releasedAs, release, Json.at?, Json.get?_ofPresent, Json.get?_ofFields, Table.keys, Table.get?]

private theorem installs_release : Installs (chart.release subscription options) chart := by
  constructor <;> simp [release, Json.at?, Json.get?_ofPresent, Json.get?_ofFields, Table.keys, Table.get?]

variable {subscription}

private theorem releaseName_of_keepsNames (plain : KeepsNames subscription) :
    chart.releaseName subscription =
      Text.lowercase subscription.name ++ "-" ++ Text.lowercase chart.name := by
  have unnamed : ((chart.override? subscription).bind PackageOverride.displayName).bind
      Text.nonEmpty? = none := by
    cases chosen : chart.override? subscription with
    | none => rfl
    | some package => exact plain package (List.mem_of_find?_eq_some chosen)
  rw [releaseName, unnamed, Option.getD_none, Text.lowercase_append_dash]

theorem releasedAs_eq_iff (plain : KeepsNames subscription) (other : Chart) :
    releasedAs (chart.release subscription options) = releasedAs (other.release subscription options) ↔
      Text.lowercase chart.name = Text.lowercase other.name := by
  rw [releasedAs_release, releasedAs_release, releaseName_of_keepsNames chart plain,
    releaseName_of_keepsNames other plain]
  simp

end Chart

/-! ### The last chart of each name -/

namespace LastOfEach

variable (latest : LastOfEach charts last)

include latest

private theorem nodup_names : (last.map Chart.name).Nodup :=
  latest.ascending.imp fun {one other} less same => by
    subst same
    exact String.lt_irrefl one less

private theorem mem_charts {chart : Chart} (listed : chart ∈ last) : chart ∈ charts :=
  (List.mem_filter.mp (List.mem_of_getLast? ((latest.mem_iff chart).mp listed))).1

private theorem exists_of_mem {chart : Chart} (present : chart ∈ charts) :
    ∃ one ∈ last, one.name = chart.name := by
  have member : chart ∈ charts.filter (·.name = chart.name) := by simpa using present
  cases final : (charts.filter (·.name = chart.name)).getLast? with
  | none =>
      rw [List.getLast?_eq_none_iff.mp final] at member
      cases member
  | some one =>
      have named : one.name = chart.name := by
        simpa using (List.mem_filter.mp (List.mem_of_getLast? final)).2
      refine ⟨one, (latest.mem_iff one).mpr ?_, named⟩
      rwa [named]

/-- What depends on the name only is different for each of the last charts exactly if it tells the names
of all charts apart. -/
theorem nodup_map_iff {α β : Type} {label : Chart → α} {mark : String → β}
    (alike : ∀ one other, label one = label other ↔ mark one.name = mark other.name) :
    (last.map label).Nodup ↔
      ∀ one ∈ charts, ∀ other ∈ charts, mark one.name = mark other.name → one.name = other.name := by
  rw [List.nodup_map_iff_inj_on (latest.nodup_names.of_map Chart.name)]
  constructor
  · intro apart one present other also same
    obtain ⟨left, leftListed, leftNamed⟩ := latest.exists_of_mem present
    obtain ⟨right, rightListed, rightNamed⟩ := latest.exists_of_mem also
    rw [← leftNamed, ← rightNamed] at same
    have equal := apart left leftListed right rightListed ((alike left right).mpr same)
    rw [← leftNamed, ← rightNamed, equal]
  · intro apart one listed other also same
    have named := apart one (latest.mem_charts listed) other (latest.mem_charts also)
      ((alike one other).mp same)
    exact List.inj_on_of_nodup_map latest.nodup_names listed also named

end LastOfEach

/-! ### All releases of an index -/

namespace ChartIndex

/-- If each directory holds a chart, the index is built, and the wanted charts are added in their order. -/
theorem addAll_of_describes (described : List.Forall₂ (Describes tree root) directories charts)
    (index : ChartIndex) :
    addAll subscription tree root index directories =
      .ok ((charts.filter (Chart.isWanted subscription)).foldl
        (fun index chart => index.add chart) index) := by
  induction described generalizing index with
  | nil => rfl
  | @cons directory chart directories charts first _ ih =>
      rw [addAll, first.1]
      change (if chart.isWanted subscription then
          addAll subscription tree root
            (index.add ⟨chart.name, chart.version, FilePath.relativeTo root directory⟩) directories
        else addAll subscription tree root index directories) = _
      rw [← first.2]
      by_cases wanted : chart.isWanted subscription
      · rw [if_pos wanted, List.filter_cons_of_pos wanted, List.foldl_cons, ih]
      · rw [if_neg wanted, List.filter_cons_of_neg wanted, ih]

private theorem Holds.addEach (holds : Holds index charts) (more : List Chart) :
    Holds (more.foldl (fun index chart => index.add chart) index) (charts ++ more) := by
  induction more generalizing index charts with
  | nil => rwa [List.append_nil]
  | cons chart more ih =>
      have whole := ih (holds.add chart)
      rwa [List.append_assoc] at whole

end ChartIndex

/-- Where each directory holds a chart, the index is built, and its releases install the last wanted chart
of each name. If no override renames one, their names are different exactly if no two wanted charts have
names that differ in capital letters only. -/
theorem releases_apart_iff (options : CloneOptions) (plain : KeepsNames subscription)
    (described : List.Forall₂ (Describes tree root) directories charts) :
    ∃ index, ChartIndex.ofDirectories subscription tree root directories = .ok index ∧
      LastOfEach (charts.filter (Chart.isWanted subscription)) index.lastCharts ∧
      (∀ chart ∈ index.lastCharts, Installs (chart.release subscription options) chart) ∧
      ((index.lastCharts.map fun chart => releasedAs (chart.release subscription options)).Nodup ↔
        ∀ one ∈ charts.filter (Chart.isWanted subscription),
          ∀ other ∈ charts.filter (Chart.isWanted subscription),
            Text.lowercase one.name = Text.lowercase other.name → one.name = other.name) := by
  have latest := (ChartIndex.Holds.empty.addEach (charts.filter (Chart.isWanted subscription))).lastCharts
  exact ⟨_, ChartIndex.addAll_of_describes described [], latest,
    fun chart _ => chart.installs_release subscription options,
    latest.nodup_map_iff fun one other => one.releasedAs_eq_iff options plain other⟩

end

namespace TwoCharts

/-! A chart of one name in two directories, and one of another name in a third. -/

def options : CloneOptions := ⟨.branch "main", 1, "/", ⟨"https://git.example.com/org/repo.git", {}⟩, none⟩

def subscription : Subscription :=
  { metadata := { name := some "shop", space := some "apps" }
    spec := ⟨"repo", none, none, none, [⟨"web", none, []⟩], none, none, none, [], []⟩
    status := none }

def file (name version : String) : FileTree :=
  .directory [("Chart.yaml", .file (Bytes.ofText
    ("\x7b'name': '" ++ name ++ "', 'version': '" ++ version ++ "'\x7d")))]

/-- Directories `a` and `b` with charts of those names, and `c` with another version of the second. -/
def tree (first second : String) : FileTree :=
  .directory [("a", file first "1.0.0"), ("b", file second "1.0.0"), ("c", file second "2.0.0")]

def directories : List String := ["/a", "/b", "/c"]

theorem plain : KeepsNames subscription := by
  intro package member
  obtain rfl : package = ⟨"web", none, []⟩ := List.mem_singleton.mp member
  rfl

def apartCharts : List Chart := [⟨"api", "1.0.0", "a"⟩, ⟨"web", "1.0.0", "b"⟩, ⟨"web", "2.0.0", "c"⟩]

private theorem apart_described :
    List.Forall₂ (Describes (tree "api" "web") "/") directories apartCharts := by
  refine .cons ?_ (.cons ?_ (.cons ?_ .nil))
  all_goals constructor <;> decide +kernel

/-- The releases of `api` and `web` are apart, and that of `web` installs the version found last. -/
theorem api_and_web_apart :
    KeepsNames subscription ∧
      List.Forall₂ (Describes (tree "api" "web") "/") directories apartCharts ∧
      ∃ index, ChartIndex.ofDirectories subscription (tree "api" "web") "/" directories = .ok index ∧
        index.lastCharts = [⟨"api", "1.0.0", "a"⟩, ⟨"web", "2.0.0", "c"⟩] ∧
        (∀ chart ∈ index.lastCharts, Installs (chart.release subscription options) chart) ∧
        (index.lastCharts.map fun chart => releasedAs (chart.release subscription options)).Nodup := by
  obtain ⟨index, indexed, -, installs, apart⟩ := releases_apart_iff options plain apart_described
  cases indexed.symm.trans (ChartIndex.addAll_of_describes apart_described [])
  exact ⟨plain, apart_described, _, indexed, rfl, installs, apart.mpr (by decide +kernel)⟩

/-- Charts `Web` and `web` are two charts of the index, and have one release name. -/
theorem not_always_apart :
    ¬ ∀ (subscription : Subscription) (options : CloneOptions) (tree : FileTree) (root : String)
      (directories : List String) (index : ChartIndex), KeepsNames subscription →
        ChartIndex.ofDirectories subscription tree root directories = .ok index →
        (index.lastCharts.map fun chart => releasedAs (chart.release subscription options)).Nodup := by
  intro always
  have described : List.Forall₂ (Describes (tree "Web" "web") "/") ["/a", "/b"]
      [⟨"Web", "1.0.0", "a"⟩, ⟨"web", "1.0.0", "b"⟩] := by
    refine .cons ?_ (.cons ?_ .nil)
    all_goals constructor <;> decide +kernel
  have indexed : ChartIndex.ofDirectories subscription (tree "Web" "web") "/" ["/a", "/b"] =
      .ok [("Web", [⟨"Web", "1.0.0", "a"⟩]), ("web", [⟨"web", "1.0.0", "b"⟩])] :=
    ChartIndex.addAll_of_describes described []
  have apart := always subscription options (tree "Web" "web") "/" ["/a", "/b"] _ plain indexed
  have same : releasedAs (Chart.release subscription options ⟨"Web", "1.0.0", "a"⟩) =
      releasedAs (Chart.release subscription options ⟨"web", "1.0.0", "b"⟩) :=
    (Chart.releasedAs_eq_iff options _ plain _).mpr (by decide +kernel)
  exact (List.nodup_cons.mp apart).1 (List.mem_singleton.mpr same)

end TwoCharts

end Manifest

end GitDelivery
