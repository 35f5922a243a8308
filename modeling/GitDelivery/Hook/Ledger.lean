import GitDelivery.Resource.HookJob

set_option autoImplicit false

/-! The hook jobs of one side of a deployment: which are to run now, and which were submitted. -/

namespace GitDelivery

/-- The jobs registered for one template: the latest is the one to run, and those before it are oldest
first. -/
structure TemplateJobs where
  template : String
  earlier : List HookJob
  latest : HookJob

/-- A job replaces the latest one if it has the same name, and comes after it otherwise. -/
def TemplateJobs.add (job : HookJob) (jobs : TemplateJobs) : TemplateJobs :=
  if jobs.latest.metadata.name = job.metadata.name then { jobs with latest := job }
  else { jobs with earlier := jobs.earlier ++ [jobs.latest], latest := job }

@[simp] theorem TemplateJobs.add_template (job : HookJob) (jobs : TemplateJobs) :
    (jobs.add job).template = jobs.template := by
  unfold add
  split <;> rfl

@[simp] theorem TemplateJobs.add_latest (job : HookJob) (jobs : TemplateJobs) :
    (jobs.add job).latest = job := by
  unfold add
  split <;> rfl

/-- The jobs of each template, in the order in which the templates came up, and the jobs that were
submitted, oldest first. -/
structure JobLedger where
  templates : List TemplateJobs := []
  applied : List ObjectKey := []

namespace JobLedger

/-- The job to run for each template. -/
def current (ledger : JobLedger) : List (String × HookJob) :=
  ledger.templates.map fun jobs => (jobs.template, jobs.latest)

/-- An empty ledger that remembers what was submitted before. -/
def continuing (previous : JobLedger) : JobLedger :=
  { applied := previous.applied }

def isEmpty (ledger : JobLedger) : Bool :=
  ledger.templates.isEmpty

theorem isEmpty_iff {ledger : JobLedger} : ledger.isEmpty = true ↔ ledger.current = [] := by
  simp [isEmpty, current]

private def place (template : String) (job : HookJob) : List TemplateJobs → List TemplateJobs
  | [] => [⟨template, [], job⟩]
  | jobs :: rest =>
    if jobs.template = template then jobs.add job :: rest else jobs :: place template job rest

/-- Makes a job the one to run for its template. -/
def register (template : String) (job : HookJob) (ledger : JobLedger) : JobLedger :=
  { ledger with templates := place template job ledger.templates }

/-- The templates keep their order; a new one comes last. -/
theorem names_register (template : String) (job : HookJob) (ledger : JobLedger) :
    (ledger.register template job).current.map Prod.fst =
      if template ∈ ledger.current.map Prod.fst then ledger.current.map Prod.fst
      else ledger.current.map Prod.fst ++ [template] := by
  unfold register current
  induction ledger.templates with
  | nil => rfl
  | cons jobs rest ih =>
      by_cases same : jobs.template = template
      · simp [place, same]
      · have other : template ≠ jobs.template := Ne.symm same
        simp only [place, if_neg same, List.map_cons, List.mem_cons, other, false_or, ih]
        split <;> rfl

/-- The job of a template is the one registered last; those of other templates stay. -/
theorem mem_register {template name : String} {job found : HookJob} {ledger : JobLedger}
    (distinct : (ledger.current.map Prod.fst).Nodup)
    (member : (name, found) ∈ (ledger.register template job).current) :
    (name = template ∧ found = job) ∨ (name ≠ template ∧ (name, found) ∈ ledger.current) := by
  obtain ⟨templates, applied⟩ := ledger
  unfold register current at *
  dsimp only at *
  induction templates with
  | nil =>
      cases List.mem_singleton.mp member
      exact .inl ⟨rfl, rfl⟩
  | cons jobs rest ih =>
      obtain ⟨single, others⟩ := List.nodup_cons.mp distinct
      by_cases same : jobs.template = template
      · rw [place, if_pos same, List.map_cons, TemplateJobs.add_template,
          TemplateJobs.add_latest] at member
        rcases List.mem_cons.mp member with here | later
        · cases here
          exact .inl ⟨same, rfl⟩
        · have inRest := List.mem_map_of_mem (f := Prod.fst) later
          refine .inr ⟨?_, List.mem_cons_of_mem _ later⟩
          intro again
          rw [again, ← same] at inRest
          exact single inRest
      · rw [place, if_neg same] at member
        rcases List.mem_cons.mp member with here | later
        · cases here
          exact .inr ⟨same, List.mem_cons_self⟩
        · rcases ih others later with new | ⟨different, kept⟩
          · exact .inl new
          · exact .inr ⟨different, List.mem_cons_of_mem _ kept⟩

/-- A job takes the place of the first one under the name of its template, or comes last. -/
theorem current_register (template : String) (job : HookJob) (ledger : JobLedger) :
    (ledger.register template job).current =
      ledger.current.takeWhile (·.1 ≠ template) ++
        (template, job) :: (ledger.current.dropWhile (·.1 ≠ template)).drop 1 := by
  unfold register current
  induction ledger.templates with
  | nil => rfl
  | cons jobs rest ih =>
      by_cases same : jobs.template = template
      · simp [place, same]
      · simp [place, same, ih]

def latest (ledger : JobLedger) : List HookJob :=
  ledger.current.map Prod.snd

/-- The last of a list, at most so many. -/
def lastOf {α : Type} (limit : Nat) (items : List α) : List α :=
  items.drop (items.length - limit)

/-- Notes that a job was submitted, unless that is noted already. At least one job is remembered,
whatever the limit. -/
def recordApplied (limit : Nat) (key : ObjectKey) (ledger : JobLedger) : JobLedger :=
  if ledger.applied.contains key then ledger
  else { ledger with applied := lastOf (max limit 1) (ledger.applied ++ [key]) }

@[simp] theorem current_recordApplied (limit : Nat) (key : ObjectKey) (ledger : JobLedger) :
    (ledger.recordApplied limit key).current = ledger.current := by
  unfold recordApplied
  split <;> rfl

def lastApplied? (ledger : JobLedger) : Option ObjectKey :=
  ledger.applied.getLast?

def history (ledger : JobLedger) : List String :=
  ledger.applied.map ObjectKey.text

/-- The job submitted last as text, empty if there is none. -/
def lastAppliedText (ledger : JobLedger) : String :=
  (ledger.lastApplied?.map ObjectKey.text).getD ""

end JobLedger

end GitDelivery
