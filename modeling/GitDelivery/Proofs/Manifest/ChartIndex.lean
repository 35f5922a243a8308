import GitDelivery.Manifest.Chart
import GitDelivery.Proofs.Table
import Mathlib.Data.List.Forall2

set_option autoImplicit false

/-! The charts that an index holds, and those that are released of it: for every name the chart that
was found last, by ascending names. -/

namespace GitDelivery.Manifest

def Describes (tree : FileTree) (root directory : String) (chart : Chart) : Prop :=
  ChartIndex.describe tree (FilePath.push directory chartFile) = .ok (chart.name, chart.version) ∧
    chart.path = FilePath.relativeTo root directory

def Chart.isWanted (subscription : Subscription) (chart : Chart) : Bool :=
  ChartIndex.wants subscription chart.name chart.version

/-- Of some charts the last of each name, by ascending names. There is one such list. -/
structure LastOfEach (charts last : List Chart) : Prop where
  ascending : (last.map Chart.name).Pairwise (· < ·)
  mem_iff : ∀ chart, chart ∈ last ↔ (charts.filter (·.name = chart.name)).getLast? = some chart

namespace ChartIndex

variable {subscription : Subscription} {tree : FileTree} {root : String}
  {index after : ChartIndex} {charts : List Chart}

/-- An index holds some charts: under each name those of that name, in order, and no name without a
chart. -/
structure Holds (index : ChartIndex) (charts : List Chart) : Prop where
  ascending : Table.Ascending index
  get? : ∀ name, (Table.get? name index).getD [] = charts.filter (·.name = name)
  inhabited : ∀ name, Table.get? name index ≠ some []

theorem Holds.empty : Holds [] [] where
  ascending := List.Pairwise.nil
  get? _ := rfl
  inhabited _ := by
    intro impossible
    cases impossible

theorem Holds.add (holds : Holds index charts) (chart : Chart) :
    Holds (index.add chart) (charts ++ [chart]) where
  ascending := holds.ascending.insert
  get? name := by
    rw [List.filter_append]
    by_cases same : name = chart.name
    · subst same
      rw [ChartIndex.add, Table.get?_insert_self, holds.get?]
      simp
    · rw [ChartIndex.add, Table.get?_insert_of_ne same, holds.get?]
      simp [Ne.symm same]
  inhabited name := by
    by_cases same : name = chart.name
    · subst same
      rw [ChartIndex.add, Table.get?_insert_self]
      simp
    · rw [ChartIndex.add, Table.get?_insert_of_ne same]
      exact holds.inhabited name

theorem Holds.last (holds : Holds index charts) {name : String} {found : List Chart}
    (member : (name, found) ∈ index) :
    ∃ chart, found.getLast? = some chart ∧ chart.name = name ∧
      (charts.filter (·.name = name)).getLast? = some chart := by
  have known := holds.ascending.mem_iff_get?.mp member
  have listed := holds.get? name
  rw [known, Option.getD_some] at listed
  cases last : found.getLast? with
  | none =>
      obtain rfl := List.getLast?_eq_none_iff.mp last
      exact absurd known (holds.inhabited name)
  | some chart =>
      have present := List.mem_of_getLast? last
      rw [listed] at present last
      exact ⟨chart, rfl, by simpa using (List.mem_filter.mp present).2, last⟩

private theorem names_lastCharts (entries : ChartIndex)
    (lasts : ∀ name found, (name, found) ∈ entries →
      ∃ chart, found.getLast? = some chart ∧ chart.name = name) :
    entries.lastCharts.map Chart.name = entries.keys := by
  induction entries with
  | nil => rfl
  | cons entry rest ih =>
      obtain ⟨name, found⟩ := entry
      obtain ⟨chart, last, named⟩ := lasts name found List.mem_cons_self
      have others := ih fun other found member => lasts other found (List.mem_cons_of_mem _ member)
      have first : ChartIndex.lastCharts ((name, found) :: rest) = chart :: lastCharts rest :=
        List.filterMap_cons_some last
      rw [first, List.map_cons, named, others]
      rfl

theorem Holds.lastCharts (holds : Holds index charts) : LastOfEach charts index.lastCharts where
  ascending := by
    have names := names_lastCharts index fun name found member => by
      obtain ⟨chart, last, named, _⟩ := holds.last member
      exact ⟨chart, last, named⟩
    rw [names]
    exact holds.ascending
  mem_iff chart := by
    unfold ChartIndex.lastCharts
    rw [List.mem_filterMap]
    constructor
    · rintro ⟨⟨name, found⟩, member, last⟩
      obtain ⟨other, same, named, filtered⟩ := holds.last member
      obtain rfl : other = chart := Option.some.inj (same.symm.trans last)
      rw [named]
      exact filtered
    · intro last
      rw [← holds.get?] at last
      cases known : Table.get? chart.name index with
      | none =>
          rw [known] at last
          cases last
      | some found =>
          rw [known] at last
          exact ⟨(chart.name, found), holds.ascending.mem_iff_get?.mpr known, last⟩

/-- Directories are added one after the other. Those whose charts are not wanted are left out, but they
must hold charts all the same. -/
theorem addAll_ok {directories : List String} (holds : Holds index charts)
    (added : addAll subscription tree root index directories = .ok after) :
    ∃ found, List.Forall₂ (Describes tree root) directories found ∧
      Holds after (charts ++ found.filter (Chart.isWanted subscription)) := by
  -- The directories that come later are added to an index that holds the charts of those before.
  induction directories generalizing index charts with
  | nil =>
      cases added
      exact ⟨[], .nil, by simpa using holds⟩
  | cons directory rest ih =>
      cases described : describe tree (FilePath.push directory chartFile) with
      | error error =>
          rw [addAll, described] at added
          cases added
      | ok pair =>
          obtain ⟨name, version⟩ := pair
          let chart : Chart := ⟨name, version, FilePath.relativeTo root directory⟩
          rw [addAll, described] at added
          change (if wants subscription name version then _ else _) = _ at added
          by_cases wanted : wants subscription name version = true
          · rw [if_pos wanted] at added
            obtain ⟨found, each, held⟩ := ih (holds.add chart) added
            refine ⟨chart :: found, .cons ⟨described, rfl⟩ each, ?_⟩
            rw [List.filter_cons_of_pos (show chart.isWanted subscription = true from wanted)]
            rwa [List.append_assoc] at held
          · rw [if_neg wanted] at added
            obtain ⟨found, each, held⟩ := ih holds added
            refine ⟨chart :: found, .cons ⟨described, rfl⟩ each, ?_⟩
            rwa [List.filter_cons_of_neg (show ¬ chart.isWanted subscription = true from wanted)]

theorem addAll_error {directories : List String} {error : ChartError}
    (failed : addAll subscription tree root index directories = .error error) :
    ∃ directory ∈ directories,
      describe tree (FilePath.push directory chartFile) = .error error := by
  induction directories generalizing index with
  | nil => cases failed
  | cons directory rest ih =>
      cases described : describe tree (FilePath.push directory chartFile) with
      | error other =>
          rw [addAll, described] at failed
          cases failed
          exact ⟨directory, List.mem_cons_self, described⟩
      | ok pair =>
          obtain ⟨name, version⟩ := pair
          rw [addAll, described] at failed
          change (if wants subscription name version then _ else _) = _ at failed
          have later : ∃ index', addAll subscription tree root index' rest = .error error := by
            split at failed
            · exact ⟨_, failed⟩
            · exact ⟨_, failed⟩
          obtain ⟨index', failed⟩ := later
          obtain ⟨other, member, same⟩ := ih failed
          exact ⟨other, List.mem_cons_of_mem _ member, same⟩

end ChartIndex

/-- The charts of directories that a subscription releases: the last of each name among those it wants,
or none if some directory holds no chart. -/
inductive Releases (subscription : Subscription) (tree : FileTree) (root : String)
    (directories : List String) : List Chart → Prop where
  | indexed {found last : List Chart}
      (described : List.Forall₂ (Describes tree root) directories found)
      (latest : LastOfEach (found.filter (Chart.isWanted subscription)) last) :
      Releases subscription tree root directories last
  | failed {directory : String} {error : ChartError} (member : directory ∈ directories)
      (failed : ChartIndex.describe tree (FilePath.push directory chartFile) = .error error) :
      Releases subscription tree root directories []

end GitDelivery.Manifest
