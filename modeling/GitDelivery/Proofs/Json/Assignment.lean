import GitDelivery.Proofs.Json.Difference

set_option autoImplicit false

/-! Assigning at a path of keys: when it can be done, what is read afterwards, and that assignments at
paths that part change nothing for each other. All is said of a value that may not be there yet, so that
following a path by one key gives the same situation again. -/

namespace GitDelivery.Json

variable {value written : Json} {old : Option Json} {path : List String}

/-- Assigning in what may not be there yet: an object is made for the keys that lead on, and at the end
the value is laid over what is there. -/
def assignAt (value : Json) : List String → Option Json → Except PathError Json
  | [], old => .ok (layOver old value)
  | key :: path, old => assign value (key :: path) (old.getD (.object []))

private theorem assign_cons (key : String) (path : List String) (fields : Table Json) :
    assign value (key :: path) (.object fields) =
      (assignAt value path (Table.get? key fields)).map fun child =>
        .object (Table.insert key child fields) := by
  cases path with
  | nil => exact assign_leaf key fields
  | cons next path => exact assign_step key next path fields

theorem assignAt_cons_ok_iff {key : String} :
    assignAt value (key :: path) old = .ok written ↔
      ∃ fields child, entriesOf? old = some fields ∧
        assignAt value path (Table.get? key fields) = .ok child ∧
        written = .object (Table.insert key child fields) := by
  rw [assignAt]
  cases known : entriesOf? old with
  | none =>
      cases old with
      | none => cases known
      | some before =>
          have shape : before.fields? = none := known
          rw [Option.getD_some]
          cases path <;> simp [assign, shape]
  | some fields =>
      rw [getD_of_entriesOf known, assign_cons]
      cases below : assignAt value path (Table.get? key fields) with
      | error failure => simp [Except.map, below]
      | ok child => simp [Except.map, below, eq_comm]

/-! ### What stands in the way -/

/-- Something other than an object stands on the way to the end of a path, before the end. -/
def Blocked (path : List String) (old : Option Json) : Prop :=
  ∃ above inner, above <+: path ∧ above ≠ path ∧ old.bind (at? above) = some inner ∧
    inner.isObject = false

theorem not_blocked_nil : ¬Blocked [] old := by
  rintro ⟨above, inner, leads, proper, -⟩
  exact proper (List.prefix_nil.mp leads)

private theorem eq_object_of_entriesOf {inner : Json} {fields : Table Json}
    (known : entriesOf? (some inner) = some fields) : inner = .object fields :=
  getD_of_entriesOf known

theorem bind_at?_cons {fields : Table Json} (known : entriesOf? old = some fields) (key : String)
    (path : List String) :
    old.bind (at? (key :: path)) = (Table.get? key fields).bind (at? path) := by
  rw [← bind_get?_of_entries known key, Option.bind_assoc]
  rfl

theorem blocked_cons_iff {key : String} :
    Blocked (key :: path) old ↔
      entriesOf? old = none ∨
        ∃ fields, entriesOf? old = some fields ∧ Blocked path (Table.get? key fields) := by
  cases known : entriesOf? old with
  | none =>
      cases old with
      | none => cases known
      | some before =>
          have shape : before.isObject = false := by
            cases before with
            | object fields => cases known
            | _ => rfl
          have here : Blocked (key :: path) (some before) :=
            ⟨[], before, List.nil_prefix, List.cons_ne_nil key path |>.symm, rfl, shape⟩
          exact ⟨fun _ => .inl rfl, fun _ => here⟩
  | some fields =>
      constructor
      · rintro ⟨above, inner, leads, proper, reached, shape⟩
        cases above with
        | nil =>
            obtain ⟨before, rfl, same⟩ := Option.bind_eq_some_iff.mp reached
            obtain rfl : before = inner := Option.some.inj same
            rw [eq_object_of_entriesOf known] at shape
            cases shape
        | cons first above =>
            obtain ⟨rfl, deeper⟩ := List.cons_prefix_cons.mp leads
            rw [bind_at?_cons known] at reached
            have further : above ≠ path := fun same => proper (congrArg (first :: ·) same)
            exact .inr ⟨fields, rfl, above, inner, deeper, further, reached, shape⟩
      · intro blocked
        rcases blocked with absent | ⟨_, same, above, inner, leads, proper, reached, shape⟩
        · cases absent
        · cases same
          refine ⟨key :: above, inner, List.cons_prefix_cons.mpr ⟨rfl, leads⟩, ?_, ?_, shape⟩
          · exact fun same => proper (List.cons.inj same).2
          · rw [bind_at?_cons known]
            exact reached

/-- An assignment can be done exactly if nothing stands in the way. -/
theorem assignAt_ok_iff : (∃ written, assignAt value path old = .ok written) ↔ ¬Blocked path old := by
  induction path generalizing old with
  | nil => exact ⟨fun _ => not_blocked_nil, fun _ => ⟨_, rfl⟩⟩
  | cons key path ih =>
      rw [blocked_cons_iff]
      constructor
      · rintro ⟨written, assigned⟩ blocked
        obtain ⟨fields, child, known, below, -⟩ := assignAt_cons_ok_iff.mp assigned
        have free := ih.mp ⟨child, below⟩
        rcases blocked with absent | ⟨_, same, blocked⟩
        · rw [known] at absent
          cases absent
        · rw [known] at same
          cases same
          exact free blocked
      · intro free
        rw [not_or] at free
        obtain ⟨fields, known⟩ := Option.ne_none_iff_exists'.mp free.1
        obtain ⟨child, below⟩ := ih.mpr fun blocked => free.2 ⟨fields, known, blocked⟩
        exact ⟨_, assignAt_cons_ok_iff.mpr ⟨fields, child, known, below, rfl⟩⟩

/-! ### What is read afterwards -/

/-- What stands at the end of a path when a value has been assigned there: objects merge, and anything
else gives way to the value. -/
def settled (old : Option Json) (value : Json) : Json :=
  match old with
  | some before => if before.isObject && value.isObject then before.merge value else value
  | none => value

theorem layOver_eq_settled (old : Option Json) (value : Json) : layOver old value = settled old value := by
  cases old with
  | none => rfl
  | some before => cases before <;> cases value <;> rfl

theorem at?_assignAt (assigned : assignAt value path old = .ok written) :
    at? path written = some (settled (old.bind (at? path)) value) := by
  induction path generalizing old written with
  | nil =>
      have same : layOver old value = written := Except.ok.inj assigned
      rw [← same, layOver_eq_settled]
      cases old <;> rfl
  | cons key path ih =>
      obtain ⟨fields, child, known, below, rfl⟩ := assignAt_cons_ok_iff.mp assigned
      rw [at?_insert_self, bind_at?_cons known]
      exact ih below

/-- Paths that part: neither leads on from the end of the other. -/
def Part (one other : List String) : Prop :=
  ¬one <+: other ∧ ¬other <+: one

theorem Part.cons {key : String} {one other : List String} (part : Part (key :: one) (key :: other)) :
    Part one other :=
  ⟨fun leads => part.1 (List.cons_prefix_cons.mpr ⟨rfl, leads⟩),
    fun leads => part.2 (List.cons_prefix_cons.mpr ⟨rfl, leads⟩)⟩

theorem at?_assignAt_of_part {other : List String} (assigned : assignAt value path old = .ok written)
    (part : Part path other) : at? other written = old.bind (at? other) := by
  induction path generalizing old written other with
  | nil => exact absurd List.nil_prefix part.1
  | cons key path ih =>
      cases other with
      | nil => exact absurd List.nil_prefix part.2
      | cons first other =>
          obtain ⟨fields, child, known, below, rfl⟩ := assignAt_cons_ok_iff.mp assigned
          rw [bind_at?_cons known]
          by_cases same : first = key
          · subst same
            rw [at?_insert_self]
            exact ih below part.cons
          · rw [at?_insert_of_ne same]
            rfl

/-- All that the path of an assignment comes through is an object afterwards. -/
theorem object_above_assignAt {above : List String} (assigned : assignAt value path old = .ok written)
    (leads : above <+: path) (proper : above ≠ path) :
    ∃ fields, at? above written = some (.object fields) := by
  induction path generalizing old written above with
  | nil => exact absurd (List.prefix_nil.mp leads) proper
  | cons key path ih =>
      obtain ⟨fields, child, known, below, rfl⟩ := assignAt_cons_ok_iff.mp assigned
      cases above with
      | nil => exact ⟨_, rfl⟩
      | cons first above =>
          obtain ⟨rfl, deeper⟩ := List.cons_prefix_cons.mp leads
          rw [at?_insert_self]
          exact ih below deeper fun same => proper (congrArg (first :: ·) same)

/-! ### Two assignments -/

/-- Assignments at paths that part can be done in both orders if each can be done alone, and give the
same. -/
theorem assignAt_comm {other : List String} {second left right : Json} (part : Part path other)
    (one : assignAt value path old = .ok left) (two : assignAt second other old = .ok right) :
    ∃ both, assignAt second other (some left) = .ok both ∧
      assignAt value path (some right) = .ok both := by
  induction path generalizing old left right other with
  | nil => exact absurd List.nil_prefix part.1
  | cons key path ih =>
      cases other with
      | nil => exact absurd List.nil_prefix part.2
      | cons first other =>
          obtain ⟨fields, child, known, below, rfl⟩ := assignAt_cons_ok_iff.mp one
          obtain ⟨_, inner, same, beside, rfl⟩ := assignAt_cons_ok_iff.mp two
          obtain rfl := Option.some.inj (known.symm.trans same)
          by_cases same : first = key
          · -- One entry is written twice, and the paths part further down.
            subst same
            obtain ⟨both, after, before⟩ := ih part.cons below beside
            refine ⟨.object (Table.insert first both fields), ?_, ?_⟩
            · apply assignAt_cons_ok_iff.mpr
              refine ⟨_, both, rfl, ?_, ?_⟩
              · rw [Table.get?_insert_self]
                exact after
              · rw [Table.insert_insert]
            · apply assignAt_cons_ok_iff.mpr
              refine ⟨_, both, rfl, ?_, ?_⟩
              · rw [Table.get?_insert_self]
                exact before
              · rw [Table.insert_insert]
          · -- The paths part here: each writes an entry that the other one does not look at.
            refine ⟨.object (Table.insert first inner (Table.insert key child fields)), ?_, ?_⟩
            · apply assignAt_cons_ok_iff.mpr
              refine ⟨_, inner, rfl, ?_, rfl⟩
              rw [Table.get?_insert_of_ne same]
              exact beside
            · apply assignAt_cons_ok_iff.mpr
              refine ⟨_, child, rfl, ?_, ?_⟩
              · rw [Table.get?_insert_of_ne (Ne.symm same)]
                exact below
              · rw [Table.insert_comm same]

end GitDelivery.Json
