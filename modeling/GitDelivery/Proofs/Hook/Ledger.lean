import GitDelivery.Hook.Registry
import Mathlib.Data.List.Induction
import Mathlib.Data.List.Nodup

set_option autoImplicit false

/-! Which jobs a ledger has after jobs were registered, and after jobs of templates were enrolled. A
template is known by its name: of templates that share one, only the last has a job. -/

namespace GitDelivery

/-! ### Registering jobs -/

def lastUnder? (name : String) (registered : List (String × HookJob)) : Option HookJob :=
  ((registered.filter (·.1 = name)).getLast?).map Prod.snd

private theorem lastUnder?_concat (name template : String) (job : HookJob)
    (registered : List (String × HookJob)) :
    lastUnder? name (registered ++ [(template, job)]) =
      if template = name then some job else lastUnder? name registered := by
  unfold lastUnder?
  rw [List.filter_append]
  by_cases same : template = name
  · simp [same]
  · simp [same]

theorem eraseDups_concat (names : List String) (name : String) :
    (names ++ [name]).eraseDups =
      if name ∈ names then names.eraseDups else names.eraseDups ++ [name] := by
  rw [List.eraseDups_append]
  by_cases known : name ∈ names
  · simp [List.removeAll, known]
  · simp [List.removeAll, known, List.eraseDups_cons]

private theorem nodup_eraseDups (names : List String) : names.eraseDups.Nodup := by
  induction names using List.reverseRecOn with
  | nil => exact List.nodup_nil
  | append_singleton names name ih =>
      rw [eraseDups_concat]
      split
      · exact ih
      · next new =>
          have absent : name ∉ names.eraseDups := fun known => new (List.mem_eraseDups.mp known)
          rw [← List.concat_eq_append]
          exact ih.concat absent

/-- Of the jobs that were registered, the last one is kept for each name, in the order in which the names
first came up. -/
structure KeepsLast (registered kept : List (String × HookJob)) : Prop where
  names : kept.map Prod.fst = (registered.map Prod.fst).eraseDups
  last : ∀ name job, (name, job) ∈ kept → lastUnder? name registered = some job

namespace KeepsLast

variable {registered kept : List (String × HookJob)}

private theorem distinct (keeps : KeepsLast registered kept) : (kept.map Prod.fst).Nodup := by
  rw [keeps.names]
  exact nodup_eraseDups _

theorem empty : KeepsLast [] [] :=
  ⟨rfl, fun _ _ member => absurd member List.not_mem_nil⟩

theorem register {ledger : JobLedger} (keeps : KeepsLast registered ledger.current)
    (template : String) (job : HookJob) :
    KeepsLast (registered ++ [(template, job)]) (ledger.register template job).current := by
  constructor
  · rw [JobLedger.names_register, keeps.names, List.map_append, List.map_singleton, eraseDups_concat]
    simp only [List.mem_eraseDups]
  · intro name found member
    rw [lastUnder?_concat]
    rcases JobLedger.mem_register keeps.distinct member with ⟨rfl, rfl⟩ | ⟨other, kept⟩
    · exact if_pos rfl
    · rw [if_neg (Ne.symm other)]
      exact keeps.last name found kept

end KeepsLast

/-! ### Jobs of templates -/

def lastNamed? (name : String) (templates : List HookJob) : Option HookJob :=
  (templates.filter (·.metadata.anyName = name)).getLast?

theorem anyName_of_lastNamed? {name : String} {templates : List HookJob} {template : HookJob}
    (last : lastNamed? name templates = some template) :
    template ∈ templates ∧ template.metadata.anyName = name := by
  have member := List.mem_of_getLast? last
  simpa using List.mem_filter.mp member

theorem exists_lastNamed? {name : String} {templates : List HookJob} {template : HookJob}
    (member : template ∈ templates) (named : template.metadata.anyName = name) :
    ∃ last, lastNamed? name templates = some last := by
  have inside : template ∈ templates.filter (·.metadata.anyName = name) :=
    List.mem_filter.mpr ⟨member, decide_eq_true named⟩
  exact ⟨_, List.getLast?_eq_some_getLast (List.ne_nil_of_mem inside)⟩

/-- Jobs are made of templates: one for each name, in the order in which the names first come up, of
the last template of the name. There is one such list. -/
structure MadeOf (makeJob : HookJob → HookJob) (templates : List HookJob)
    (jobs : List (String × HookJob)) : Prop where
  names : jobs.map Prod.fst = (templates.map (·.metadata.anyName)).eraseDups
  last : ∀ name job, (name, job) ∈ jobs →
    ∃ template, lastNamed? name templates = some template ∧ job = makeJob template

namespace MadeOf

variable {makeJob : HookJob → HookJob} {templates : List HookJob} {jobs : List (String × HookJob)}

theorem empty (made : MadeOf makeJob [] jobs) : jobs = [] :=
  List.map_eq_nil_iff.mp made.names

theorem unique (made : MadeOf makeJob templates jobs) {name : String} {first second : HookJob}
    (one : (name, first) ∈ jobs) (other : (name, second) ∈ jobs) : first = second := by
  obtain ⟨early, earlyLast, rfl⟩ := made.last name first one
  obtain ⟨late, lateLast, rfl⟩ := made.last name second other
  rw [Option.some.inj (earlyLast.symm.trans lateLast)]

theorem mem (made : MadeOf makeJob templates jobs) {name : String} {template : HookJob}
    (last : lastNamed? name templates = some template) : (name, makeJob template) ∈ jobs := by
  obtain ⟨member, named⟩ := anyName_of_lastNamed? last
  have known : name ∈ jobs.map Prod.fst := by
    rw [made.names, List.mem_eraseDups]
    exact List.mem_map.mpr ⟨template, member, named⟩
  obtain ⟨⟨_, job⟩, inside, rfl⟩ := List.mem_map.mp known
  obtain ⟨other, same, rfl⟩ := made.last _ job inside
  rw [Option.some.inj (last.symm.trans same)]
  exact inside

end MadeOf

namespace HookRecord

private theorem lastUnder?_templates (makeJob : HookJob → HookJob) (name : String)
    (templates : List HookJob) :
    lastUnder? name (templates.map fun template => (template.metadata.anyName, makeJob template)) =
      (lastNamed? name templates).map makeJob := by
  unfold lastUnder? lastNamed?
  rw [List.filter_map, List.getLast?_map, Option.map_map]
  rfl

private theorem enroll_keepsLast (makeJob : HookJob → HookJob) (templates : List HookJob)
    {ledger : JobLedger} (blank : ledger.current = []) :
    KeepsLast (templates.map fun template => (template.metadata.anyName, makeJob template))
      (enroll makeJob templates ledger).current := by
  induction templates using List.reverseRecOn with
  | nil =>
      change KeepsLast [] ledger.current
      rw [blank]
      exact .empty
  | append_singleton templates template ih =>
      have next : enroll makeJob (templates ++ [template]) ledger =
          (enroll makeJob templates ledger).register template.metadata.anyName
            (makeJob template) := by
        unfold enroll
        rw [List.foldl_append]
        rfl
      rw [next, List.map_append]
      exact ih.register template.metadata.anyName (makeJob template)

/-- Enrolling one template after the others keeps one job for each name, of the last template. -/
theorem enroll_madeOf (makeJob : HookJob → HookJob) (templates : List HookJob) {ledger : JobLedger}
    (blank : ledger.current = []) :
    MadeOf makeJob templates (enroll makeJob templates ledger).current := by
  have keeps := enroll_keepsLast makeJob templates blank
  constructor
  · rw [keeps.names, List.map_map]
    rfl
  · intro name job member
    have last := keeps.last name job member
    rw [lastUnder?_templates] at last
    obtain ⟨template, found, made⟩ := Option.map_eq_some_iff.mp last
    exact ⟨template, found, made.symm⟩

end HookRecord

end GitDelivery
