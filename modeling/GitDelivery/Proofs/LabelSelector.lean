import GitDelivery.LabelSelector

set_option autoImplicit false

/-! What selectors ask of labels, and what evaluation finds of it. It stops at the first condition that
does not hold, so that a requirement with an unknown operator is reported only if everything before it
holds, and is passed over in silence otherwise. -/

namespace GitDelivery

/-! ### Single requirements -/

namespace LabelRequirement

variable {labels : Table String} {requirement : LabelRequirement}

def operators : List String := ["In", "NotIn", "Exists", "DoesNotExist"]

def IsKnown (requirement : LabelRequirement) : Prop :=
  requirement.operator ∈ operators

instance : Decidable requirement.IsKnown :=
  inferInstanceAs (Decidable (requirement.operator ∈ operators))

inductive Meets (labels : Table String) (requirement : LabelRequirement) : Prop where
  | among {value : String} (asks : requirement.operator = "In")
      (found : Table.get? requirement.key labels = some value)
      (listed : value ∈ requirement.values)
  | outside (asks : requirement.operator = "NotIn")
      (free : ∀ value ∈ requirement.values, Table.get? requirement.key labels ≠ some value)
  | present {value : String} (asks : requirement.operator = "Exists")
      (found : Table.get? requirement.key labels = some value)
  | absent (asks : requirement.operator = "DoesNotExist")
      (missing : Table.get? requirement.key labels = none)

theorem Meets.isKnown (meets : Meets labels requirement) : requirement.IsKnown := by
  unfold IsKnown operators
  cases meets with
  | among asks | outside asks | present asks | absent asks => simp [asks]

end LabelRequirement

namespace LabelSelector

open LabelRequirement (Meets)

variable {labels : Table String} {requirement : LabelRequirement}
  {requirements : List LabelRequirement} {selector : LabelSelector} {error : SelectorError}

theorem hasOneOf_iff {key : String} {values : List String} :
    hasOneOf key values labels = true ↔ ∃ value ∈ values, Table.get? key labels = some value := by
  unfold hasOneOf
  cases Table.get? key labels with
  | none => simp
  | some value => simp

theorem requirementHolds_of_isKnown (labels : Table String) (known : requirement.IsKnown) :
    ∃ verdict, requirementHolds labels requirement = .ok verdict ∧
      (verdict = true ↔ Meets labels requirement) := by
  unfold LabelRequirement.IsKnown LabelRequirement.operators at known
  simp only [List.mem_cons, List.not_mem_nil, or_false] at known
  unfold requirementHolds
  rcases known with asks | asks | asks | asks
  · refine ⟨_, if_pos asks, hasOneOf_iff.trans ⟨?_, ?_⟩⟩
    · rintro ⟨value, listed, found⟩
      exact .among asks found listed
    · intro meets
      cases meets with
      | among _ found listed => exact ⟨_, listed, found⟩
      | outside other | present other | absent other => simp [asks] at other
  · simp only [asks]
    refine ⟨_, rfl, ?_⟩
    rw [Bool.not_eq_true', ← Bool.not_eq_true, hasOneOf_iff]
    constructor
    · intro free
      exact .outside asks fun value listed found => free ⟨value, listed, found⟩
    · rintro meets ⟨value, listed, found⟩
      cases meets with
      | outside _ free => exact free value listed found
      | among other | present other | absent other => simp [asks] at other
  · simp only [asks]
    refine ⟨_, rfl, Option.isSome_iff_exists.trans ⟨?_, ?_⟩⟩
    · rintro ⟨value, found⟩
      exact .present asks found
    · intro meets
      cases meets with
      | present _ found => exact ⟨_, found⟩
      | among other | outside other | absent other => simp [asks] at other
  · simp only [asks]
    refine ⟨_, rfl, Option.isNone_iff_eq_none.trans ⟨.absent asks, ?_⟩⟩
    intro meets
    cases meets with
    | absent _ missing => exact missing
    | among other | outside other | present other => simp [asks] at other

private theorem requirementHolds_of_not_isKnown (unknown : ¬requirement.IsKnown) :
    requirementHolds labels requirement =
      .error (.unsupportedOperator requirement.operator requirement.key) := by
  unfold LabelRequirement.IsKnown LabelRequirement.operators at unknown
  simp only [List.mem_cons, List.not_mem_nil, or_false, not_or] at unknown
  obtain ⟨notIn, notNotIn, notExists, notMissing⟩ := unknown
  unfold requirementHolds
  rw [if_neg notIn, if_neg notNotIn, if_neg notExists, if_neg notMissing]

/-! ### All requirements -/

theorem allHold_of_meets (meets : Meets labels requirement) :
    allHold labels (requirement :: requirements) = allHold labels requirements := by
  obtain ⟨verdict, held, agree⟩ := requirementHolds_of_isKnown labels meets.isKnown
  rw [agree.mpr meets] at held
  rw [allHold, held]
  rfl

theorem allHold_of_not_meets (known : requirement.IsKnown) (fails : ¬Meets labels requirement) :
    allHold labels (requirement :: requirements) = .ok false := by
  obtain ⟨verdict, held, agree⟩ := requirementHolds_of_isKnown labels known
  cases verdict with
  | true => exact absurd (agree.mp rfl) fails
  | false =>
      rw [allHold, held]
      rfl

theorem allHold_of_not_isKnown (unknown : ¬requirement.IsKnown) :
    allHold labels (requirement :: requirements) =
      .error (.unsupportedOperator requirement.operator requirement.key) := by
  rw [allHold, requirementHolds_of_not_isKnown unknown]
  rfl

theorem allHold_true_iff :
    allHold labels requirements = .ok true ↔
      ∀ requirement ∈ requirements, Meets labels requirement := by
  induction requirements with
  | nil => simp [allHold]
  | cons first rest ih =>
      rw [List.forall_mem_cons]
      by_cases known : first.IsKnown
      · by_cases meets : Meets labels first
        · rw [allHold_of_meets meets, ih, and_iff_right meets]
        · rw [allHold_of_not_meets known meets]
          simp [meets]
      · rw [allHold_of_not_isKnown known]
        have fails : ¬Meets labels first := fun meets => known meets.isKnown
        simp [fails]

/-- The first requirement that has no meaning is reported if all before it hold. -/
theorem allHold_error_iff :
    allHold labels requirements = .error error ↔
      ∃ before requirement after, requirements = before ++ requirement :: after ∧
        (∀ earlier ∈ before, Meets labels earlier) ∧ ¬requirement.IsKnown ∧
        error = .unsupportedOperator requirement.operator requirement.key := by
  induction requirements with
  | nil => simp [allHold]
  | cons first rest ih =>
      by_cases known : first.IsKnown
      · by_cases meets : Meets labels first
        · rw [allHold_of_meets meets, ih]
          constructor
          · rintro ⟨before, requirement, after, rfl, all, unknown⟩
            exact ⟨first :: before, requirement, after, rfl, List.forall_mem_cons.mpr ⟨meets, all⟩,
              unknown⟩
          · rintro ⟨before, requirement, after, whole, all, unknown⟩
            cases before with
            | nil =>
                cases whole
                exact absurd known unknown.1
            | cons _ before =>
                cases whole
                exact ⟨before, requirement, after, rfl, (List.forall_mem_cons.mp all).2, unknown⟩
        · rw [allHold_of_not_meets known meets]
          refine iff_of_false nofun ?_
          rintro ⟨before, requirement, after, whole, all, unknown, -⟩
          cases before with
          | nil =>
              cases whole
              exact unknown known
          | cons _ before =>
              cases whole
              exact meets (List.forall_mem_cons.mp all).1
      · rw [allHold_of_not_isKnown known]
        constructor
        · intro same
          exact ⟨[], first, rest, rfl, List.forall_mem_nil _, known, (Except.error.inj same).symm⟩
        · rintro ⟨before, requirement, after, whole, all, unknown, rfl⟩
          cases before with
          | nil =>
              cases whole
              rfl
          | cons _ before =>
              cases whole
              exact absurd (List.forall_mem_cons.mp all).1.isKnown known

/-! ### Selectors -/

def HasLabels (selector : LabelSelector) (labels : Table String) : Prop :=
  ∀ label ∈ selector.labels, Table.get? label.1 labels = some label.2

def Admits (selector : LabelSelector) (labels : Table String) : Prop :=
  selector.HasLabels labels ∧ ∀ requirement ∈ selector.requirements, Meets labels requirement

/-- Evaluation comes to a requirement with an unknown operator: everything before it holds. -/
def ComesTo (selector : LabelSelector) (labels : Table String) (requirement : LabelRequirement) : Prop :=
  selector.HasLabels labels ∧ ¬requirement.IsKnown ∧
    ∃ before after, selector.requirements = before ++ requirement :: after ∧
      ∀ earlier ∈ before, Meets labels earlier

/-- Evaluation fails exactly if some operator is unknown, and otherwise says whether everything holds. -/
structure Evaluates (selector : LabelSelector) (labels : Table String) : Prop where
  fails_iff : (∃ error, selector.selects labels = .error error) ↔
    ∃ requirement ∈ selector.requirements, ¬requirement.IsKnown
  holds_iff : (∀ requirement ∈ selector.requirements, requirement.IsKnown) →
    ∃ verdict, selector.selects labels = .ok verdict ∧ (verdict = true ↔ selector.Admits labels)

def withRequirements (selector : LabelSelector) (requirements : List LabelRequirement) :
    LabelSelector :=
  { selector with requirements := requirements }

/-- Whether evaluation fails, and what it says if it does not, is the same in every order of the
requirements. -/
def IsOrderFree (selector : LabelSelector) (labels : Table String) : Prop :=
  ∀ requirements : List LabelRequirement, requirements.Perm selector.requirements →
    ((selector.withRequirements requirements).selects labels).toOption =
      (selector.selects labels).toOption

theorem selects_of_hasLabels (there : selector.HasLabels labels) :
    selector.selects labels = allHold labels selector.requirements := by
  refine if_pos (List.all_eq_true.mpr ?_)
  intro label member
  exact decide_eq_true (there label member)

private theorem selects_withRequirements (there : selector.HasLabels labels) :
    (selector.withRequirements requirements).selects labels = allHold labels requirements := by
  have also : (selector.withRequirements requirements).HasLabels labels := there
  exact selects_of_hasLabels also

theorem selects_of_not_hasLabels (missing : ¬selector.HasLabels labels) :
    selector.selects labels = .ok false := by
  refine if_neg fun all => missing ?_
  intro label member
  exact of_decide_eq_true (List.all_eq_true.mp all label member)

theorem selects_true_iff : selector.selects labels = .ok true ↔ selector.Admits labels := by
  unfold Admits
  by_cases there : selector.HasLabels labels
  · rw [selects_of_hasLabels there, allHold_true_iff, and_iff_right there]
  · rw [selects_of_not_hasLabels there]
    simp [there]

theorem selects_error_iff :
    selector.selects labels = .error error ↔
      ∃ requirement, selector.ComesTo labels requirement ∧
        error = .unsupportedOperator requirement.operator requirement.key := by
  by_cases there : selector.HasLabels labels
  · rw [selects_of_hasLabels there, allHold_error_iff]
    constructor
    · rintro ⟨before, requirement, after, whole, all, unknown, same⟩
      exact ⟨requirement, ⟨there, unknown, before, after, whole, all⟩, same⟩
    · rintro ⟨requirement, ⟨_, unknown, before, after, whole, all⟩, same⟩
      exact ⟨before, requirement, after, whole, all, unknown, same⟩
  · rw [selects_of_not_hasLabels there]
    refine iff_of_false nofun ?_
    rintro ⟨requirement, comes, -⟩
    exact there comes.1

theorem fails_iff :
    (∃ error, selector.selects labels = .error error) ↔
      ∃ requirement, selector.ComesTo labels requirement := by
  simp only [selects_error_iff]
  constructor
  · rintro ⟨_, requirement, comes, -⟩
    exact ⟨requirement, comes⟩
  · rintro ⟨requirement, comes⟩
    exact ⟨_, requirement, comes, rfl⟩

theorem verdict_of_known
    (known : ∀ requirement ∈ selector.requirements, requirement.IsKnown) :
    ∃ verdict, selector.selects labels = .ok verdict ∧ (verdict = true ↔ selector.Admits labels) := by
  cases outcome : selector.selects labels with
  | error error =>
      obtain ⟨requirement, ⟨_, unknown, before, after, whole, _⟩, -⟩ := selects_error_iff.mp outcome
      have member : requirement ∈ selector.requirements := by simp [whole]
      exact absurd (known requirement member) unknown
  | ok verdict =>
      refine ⟨verdict, rfl, ?_⟩
      rw [← selects_true_iff, outcome]
      simp

/-- If all else holds, the first of the requirements with unknown operators is come to. -/
theorem exists_comesTo (there : selector.HasLabels labels)
    (others : ∀ requirement ∈ selector.requirements, requirement.IsKnown → Meets labels requirement)
    (unknown : ∃ requirement ∈ selector.requirements, ¬requirement.IsKnown) :
    ∃ requirement, selector.ComesTo labels requirement := by
  obtain ⟨some, listed, foreign⟩ := unknown
  have found : (selector.requirements.find? fun requirement => ¬requirement.IsKnown).isSome := by
    rw [List.find?_isSome]
    exact ⟨some, listed, by simp [foreign]⟩
  obtain ⟨requirement, first⟩ := Option.isSome_iff_exists.mp found
  obtain ⟨stranger, before, after, whole, earlier⟩ := List.find?_eq_some_iff_append.mp first
  refine ⟨requirement, there, by simpa using stranger, before, after, whole, ?_⟩
  intro other member
  refine others other (by simp [whole, member]) ?_
  simpa using earlier other member

theorem evaluates_iff :
    selector.Evaluates labels ↔
      (∀ requirement ∈ selector.requirements, requirement.IsKnown) ∨
        ∃ requirement, selector.ComesTo labels requirement := by
  constructor
  · intro evaluates
    by_cases known : ∀ requirement ∈ selector.requirements, requirement.IsKnown
    · exact .inl known
    · refine .inr (fails_iff.mp (evaluates.fails_iff.mpr ?_))
      simpa using known
  · intro decided
    refine ⟨?_, verdict_of_known⟩
    rw [fails_iff]
    constructor
    · rintro ⟨requirement, _, unknown, before, after, whole, _⟩
      exact ⟨requirement, by simp [whole], unknown⟩
    · rintro ⟨requirement, member, unknown⟩
      exact decided.resolve_left fun known => unknown (known requirement member)

private theorem toOption_of_same {one other : Except SelectorError Bool}
    (fails : (∃ error, one = .error error) ↔ ∃ error, other = .error error)
    (holds : one = .ok true ↔ other = .ok true) : one.toOption = other.toOption := by
  cases one with
  | error first =>
      obtain ⟨second, rfl⟩ := fails.mp ⟨first, rfl⟩
      rfl
  | ok verdict =>
      cases other with
      | error second =>
          obtain ⟨_, impossible⟩ := fails.mpr ⟨second, rfl⟩
          cases impossible
      | ok outcome => cases verdict <;> cases outcome <;> simp_all

/-- Whichever requirements stand first, they decide in the same way: the labels do not, all operators are
known, or everything holds but for the requirements with unknown ones. -/
def IsDecided (selector : LabelSelector) (labels : Table String) : Prop :=
  ¬selector.HasLabels labels ∨
    (∀ requirement ∈ selector.requirements, requirement.IsKnown) ∨
    ∀ requirement ∈ selector.requirements, requirement.IsKnown → Meets labels requirement

theorem IsDecided.fails_iff (decided : selector.IsDecided labels) :
    (∃ error, selector.selects labels = .error error) ↔
      selector.HasLabels labels ∧ ∃ requirement ∈ selector.requirements, ¬requirement.IsKnown := by
  rw [LabelSelector.fails_iff]
  constructor
  · rintro ⟨requirement, there, unknown, before, after, whole, _⟩
    exact ⟨there, requirement, by simp [whole], unknown⟩
  · rintro ⟨there, unknown⟩
    rcases decided with missing | known | others
    · exact absurd there missing
    · obtain ⟨requirement, member, strange⟩ := unknown
      exact absurd (known requirement member) strange
    · exact exists_comesTo there others unknown

/-- Of two requirements one of which has an unknown operator and the other does not hold, the first
decides. -/
theorem isOrderFree_iff : selector.IsOrderFree labels ↔ selector.IsDecided labels := by
  constructor
  · intro free
    by_cases there : selector.HasLabels labels
    · by_cases known : ∀ requirement ∈ selector.requirements, requirement.IsKnown
      · exact .inr (.inl known)
      · refine .inr (.inr fun other listed meant => Classical.byContradiction fun fails => ?_)
        obtain ⟨stranger, strange, unknown⟩ :
            ∃ requirement ∈ selector.requirements, ¬requirement.IsKnown := by simpa using known
        have strangerFirst := free _ (List.perm_cons_erase strange).symm
        have otherFirst := free _ (List.perm_cons_erase listed).symm
        have same := strangerFirst.trans otherFirst.symm
        rw [selects_withRequirements there, selects_withRequirements there,
          allHold_of_not_isKnown unknown, allHold_of_not_meets meant fails] at same
        cases same
    · exact .inl there
  · intro decided requirements perm
    have each (condition : LabelRequirement → Prop) :
        (∀ requirement ∈ requirements, condition requirement) ↔
          ∀ requirement ∈ selector.requirements, condition requirement :=
      forall_congr' fun _ => imp_congr_left perm.mem_iff
    have still : (selector.withRequirements requirements).IsDecided labels :=
      decided.imp_right (Or.imp (each _).mpr (each _).mpr)
    refine toOption_of_same ?_ ?_
    · rw [still.fails_iff, decided.fails_iff]
      simp only [withRequirements, perm.mem_iff]
      rfl
    · rw [selects_true_iff, selects_true_iff]
      exact and_congr_right fun _ => each _

/-- Evaluation is the conjunction of all conditions exactly if no operator is unknown or everything before
one that is unknown holds, and the same in every order exactly if all else holds, not only what is before.
It says that all holds exactly if it does, and it reports the unknown operator that it comes to. -/
theorem conjunction_iff (selector : LabelSelector) (labels : Table String) :
    (selector.Evaluates labels ↔
        (∀ requirement ∈ selector.requirements, requirement.IsKnown) ∨
          ∃ requirement, selector.ComesTo labels requirement) ∧
      (selector.IsOrderFree labels ↔
        ¬selector.HasLabels labels ∨
          (∀ requirement ∈ selector.requirements, requirement.IsKnown) ∨
          ∀ requirement ∈ selector.requirements, requirement.IsKnown → Meets labels requirement) ∧
      (selector.selects labels = .ok true ↔ selector.Admits labels) ∧
      ∀ error, selector.selects labels = .error error ↔
        ∃ requirement, selector.ComesTo labels requirement ∧
          error = .unsupportedOperator requirement.operator requirement.key :=
  ⟨evaluates_iff, isOrderFree_iff, selects_true_iff, fun _ => selects_error_iff⟩

def teamAndVersion : LabelSelector :=
  ⟨[], [⟨"team", "Exists", []⟩, ⟨"version", "Gt", ["1"]⟩]⟩

/-- The missing team hides the unknown operator behind it, and does not hide it when it comes last. -/
theorem not_always_conjunction :
    ¬∀ (selector : LabelSelector) (labels : Table String),
      selector.Evaluates labels ∧ selector.IsOrderFree labels := by
  intro always
  have evaluated : teamAndVersion.selects [("version", "2")] = .ok false := rfl
  obtain ⟨error, failed⟩ := (always teamAndVersion [("version", "2")]).1.fails_iff.mpr
    ⟨⟨"version", "Gt", ["1"]⟩, by decide, by decide⟩
  rw [evaluated] at failed
  cases failed

end LabelSelector

end GitDelivery
