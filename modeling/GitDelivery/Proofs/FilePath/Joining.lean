import GitDelivery.Proofs.FilePath

set_option autoImplicit false

/-! Joining a path to a root: which paths are accepted, where they lead, and how the way down from the
root is told again from where they lead. -/

namespace GitDelivery.FilePath

/-! ### Paths that are accepted -/

def steps (path : String) : List String :=
  (Text.splitAll '/' path).filter fun piece => piece ≠ "" ∧ piece ≠ "."

private theorem descending?_pieces (pieces : List String) :
    descending? (pieces.filterMap component?) =
      if ".." ∈ pieces then none
      else some (pieces.filter fun piece => piece ≠ "" ∧ piece ≠ ".") := by
  induction pieces with
  | nil => rfl
  | cons piece rest ih =>
      by_cases blank : piece = "" ∨ piece = "."
      · have nothing : component? piece = none := by
          rcases blank with rfl | rfl <;> rfl
        have other : piece ≠ ".." := by
          rcases blank with rfl | rfl <;> decide
        rw [List.filterMap_cons_none nothing, ih]
        rcases blank with rfl | rfl <;> simp
      · rw [not_or] at blank
        by_cases up : piece = ".."
        · subst up
          have leads : component? ".." = some .up := rfl
          rw [List.filterMap_cons_some leads, if_pos List.mem_cons_self]
          rfl
        · have named : component? piece = some (.name piece) := by
            simp [component?, blank, up]
          rw [List.filterMap_cons_some named, descending?, ih]
          by_cases later : ".." ∈ rest
          · simp [later]
          · simp [later, blank, Ne.symm up]

/-- A path goes down by its steps, unless it starts at the top or has a step up. -/
theorem descending?_components (path : String) :
    descending? (components path) =
      if path.toList.head? = some '/' ∨ ".." ∈ Text.splitAll '/' path then none
      else some (steps path) := by
  rw [components_eq]
  by_cases absolute : path.toList.head? = some '/'
  · rw [if_pos absolute, if_pos (.inl absolute)]
    rfl
  · have unled : descending? ((if (Text.splitAll '/' path).head? = some "." then [.here] else []) ++
        (Text.splitAll '/' path).filterMap component?) =
        descending? ((Text.splitAll '/' path).filterMap component?) := by
      split <;> rfl
    rw [if_neg absolute, unled, descending?_pieces]
    simp only [absolute, false_or]
    rfl

/-- A path that stays below the place where it starts. -/
structure LeadsDown (path : String) : Prop where
  noNull : '\x00' ∉ path.toList
  relative : path.toList.head? ≠ some '/'
  noUp : ".." ∉ Text.splitAll '/' path

instance (path : String) : Decidable (LeadsDown path) :=
  decidable_of_iff ('\x00' ∉ path.toList ∧ path.toList.head? ≠ some '/' ∧
      ".." ∉ Text.splitAll '/' path)
    ⟨fun ⟨noNull, relative, noUp⟩ => ⟨noNull, relative, noUp⟩,
      fun leads => ⟨leads.noNull, leads.relative, leads.noUp⟩⟩

/-- What is meant by a path that may be left out: nothing, or the text without blanks around it. -/
def meant (given : Option String) : String :=
  Text.trim (given.getD "")

theorem LeadsDown.steps {path name : String} (leads : LeadsDown path) (listed : name ∈ steps path) :
    IsName name := by
  obtain ⟨piece, somewhere⟩ := List.mem_filter.mp listed
  obtain ⟨present, notHere⟩ := of_decide_eq_true somewhere
  have notUp : name ≠ ".." := fun up => leads.noUp (up ▸ piece)
  exact ⟨present, notHere, notUp, Text.not_mem_of_mem_splitAll piece⟩

def refusal (path : String) : JoinError :=
  if '\x00' ∈ path.toList then .containsNull path else .escapes path

private theorem relativeNames_eq (path : String) :
    relativeNames path =
      if LeadsDown (Text.trim path) then .ok (steps (Text.trim path))
      else .error (refusal (Text.trim path)) := by
  unfold relativeNames
  generalize Text.trim path = trimmed
  dsimp only
  by_cases blank : trimmed = ""
  · subst blank
    have leads : LeadsDown "" := by decide
    rw [if_pos leads]
    rfl
  · by_cases null : '\x00' ∈ trimmed.toList
    · have refused : ¬LeadsDown trimmed := fun leads => leads.noNull null
      simp [blank, null, refused, refusal]
    · rw [descending?_components]
      by_cases escapes : trimmed.toList.head? = some '/' ∨ ".." ∈ Text.splitAll '/' trimmed
      · have refused : ¬LeadsDown trimmed := fun leads => escapes.elim leads.relative leads.noUp
        simp [blank, null, refused, refusal, escapes]
      · have leads : LeadsDown trimmed :=
          ⟨null, fun absolute => escapes (.inl absolute), fun up => escapes (.inr up)⟩
        simp [blank, null, leads, escapes]

theorem joinWithin_eq (root : String) (given : Option String) :
    joinWithin root given =
      if LeadsDown (meant given) then .ok (pushAll root (steps (meant given)))
      else .error (refusal (meant given)) := by
  unfold joinWithin meant
  rw [relativeNames_eq]
  split <;> rfl

theorem joinWithin_ok {root joined : String} {given : Option String}
    (accepted : joinWithin root given = .ok joined) :
    ∃ names, joined = pushAll root names ∧ ∀ name ∈ names, IsName name := by
  rw [joinWithin_eq] at accepted
  by_cases leads : LeadsDown (meant given)
  · rw [if_pos leads] at accepted
    exact ⟨steps (meant given), (Except.ok.inj accepted).symm, fun _ listed => leads.steps listed⟩
  · rw [if_neg leads] at accepted
    exact nomatch accepted

/-! ### Seen from the root -/

private theorem dropLeading?_append (leading rest : List Component) :
    dropLeading? leading (leading ++ rest) = some rest := by
  induction leading with
  | nil => rfl
  | cons first leading ih =>
      rw [List.cons_append, dropLeading?, if_pos rfl]
      exact ih

theorem relativeTo_pushAll {root : String} {names : List String}
    (are : ∀ name ∈ names, IsName name) :
    relativeTo root (pushAll root names) = "/".intercalate names := by
  unfold relativeTo
  dsimp only
  rw [components_below are, dropLeading?_append, Option.getD_some, List.map_map]
  exact congrArg "/".intercalate (List.map_id names)

/-- Joining accepts exactly the paths that stay below the root. An accepted path leads from the root down
by its steps and by nothing else, and seen from the root it is these steps again. -/
theorem joins_exactly (root : String) (given : Option String) :
    ((∃ joined, joinWithin root given = .ok joined) ↔
        meant given = "" ∨ LeadsDown (meant given)) ∧
      ∀ joined, joinWithin root given = .ok joined →
        joined = pushAll root (steps (meant given)) ∧
          (∀ step ∈ steps (meant given), IsName step) ∧
          components joined = components root ++ (steps (meant given)).map .name ∧
          relativeTo root joined = "/".intercalate (steps (meant given)) := by
  rw [joinWithin_eq]
  by_cases leads : LeadsDown (meant given)
  · rw [if_pos leads]
    have are : ∀ step ∈ steps (meant given), IsName step := fun _ listed => leads.steps listed
    constructor
    · exact ⟨fun _ => .inr leads, fun _ => ⟨_, rfl⟩⟩
    · intro joined accepted
      have shape := Except.ok.inj accepted
      subst shape
      exact ⟨rfl, are, components_below are, relativeTo_pushAll are⟩
  · rw [if_neg leads]
    have filled : meant given ≠ "" := by
      intro blank
      rw [blank] at leads
      exact leads (by decide)
    constructor
    · constructor
      · rintro ⟨joined, accepted⟩
        exact nomatch accepted
      · intro accepted
        exact absurd accepted (not_or.mpr ⟨filled, leads⟩)
    · intro joined accepted
      exact nomatch accepted

/-- Blanks around a path, points and repeated slashes do not count. -/
theorem joins_apps_web :
    joinWithin "/repo" (some " ./apps//./web/ ") = .ok "/repo/apps/web" ∧
      relativeTo "/repo" "/repo/apps/web" = "/".intercalate ["apps", "web"] := by
  have stepsAre : steps (meant (some " ./apps//./web/ ")) = ["apps", "web"] := by decide
  have accepted : joinWithin "/repo" (some " ./apps//./web/ ") = .ok "/repo/apps/web" := by
    rw [joinWithin_eq, if_pos (by decide), stepsAre]
    exact congrArg Except.ok (by decide)
  obtain ⟨-, -, -, seen⟩ := (joins_exactly "/repo" (some " ./apps//./web/ ")).2 _ accepted
  rw [stepsAre] at seen
  exact ⟨accepted, seen⟩

end GitDelivery.FilePath
