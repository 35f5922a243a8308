import GitDelivery.Proofs.Json.Difference
import GitDelivery.Proofs.Text

set_option autoImplicit false

/-! What package overrides do to the texts of an object. An entry that fails leaves the object as the
entries before it made it, and ends the work. -/

namespace GitDelivery.PackageOverride

open Json (at? Spares)

variable {entry target written : Json} {entries : List Json} {wanted : List String} {found : String}
  {count : Nat}

theorem exists_of_mem_entriesFor {name : String} {overrides : List PackageOverride}
    (member : entry ∈ entriesFor name overrides) :
    ∃ override ∈ overrides, entry ∈ override.entries := by
  obtain ⟨override, listed, inside⟩ := List.mem_flatMap.mp member
  exact ⟨override, (List.mem_filter.mp listed).1, inside⟩

def Assigns (path : List String) (value entry : Json) : Prop :=
  ∃ text, (entry.textAt? "path").bind (fun path => Text.nonEmpty? (Text.trim path)) = some text ∧
    Text.splitAll '.' text = path ∧ entry.get? "value" = some value

def Puts (wanted : List String) (found : String) (entry : Json) : Prop :=
  ∃ path rest value, Assigns path value entry ∧ wanted = path ++ rest ∧
    at? rest value = some (.text found)

/-- An entry writes something at a path or above it that takes the place of what is there. -/
def Touches (wanted : List String) (entry : Json) : Prop :=
  ∃ path rest value, Assigns path value entry ∧ wanted = path ++ rest ∧ ¬ Spares rest value

theorem touches_of_puts (puts : Puts wanted found entry) : Touches wanted entry := by
  obtain ⟨path, rest, value, assigns, shape, present⟩ := puts
  exact ⟨path, rest, value, assigns, shape, Json.not_spares_of_text present⟩

theorem writePath_eq (path : String) (value target : Json) :
    writePath path value target =
      match Json.assign value (Text.splitAll '.' path) target with
      | .ok written => (written, .ok ())
      | .error error => (target, .error (.blocked path error)) := by
  unfold writePath
  rw [Json.write_eq]
  cases Json.assign value (Text.splitAll '.' path) target <;> rfl

theorem writePath_ok_iff {path : String} {value : Json} :
    writePath path value target = (written, .ok ()) ↔
      Json.assign value (Text.splitAll '.' path) target = .ok written := by
  rw [writePath_eq]
  cases Json.assign value (Text.splitAll '.' path) target <;> simp

theorem applyEntry_ok (applied : applyEntry entry target = (written, .ok ())) :
    ∃ path value, path ≠ [] ∧ Assigns path value entry ∧
      Json.assign value path target = .ok written := by
  unfold applyEntry at applied
  split at applied
  · cases applied
  · next text given =>
      split at applied
      · cases applied
      · next value there =>
          exact ⟨Text.splitAll '.' text, value, Text.splitAll_ne_nil text, ⟨text, given, rfl, there⟩,
            writePath_ok_iff.mp applied⟩

theorem applyEntries_induction (property : Json → Prop)
    (step : ∀ entry ∈ entries, ∀ before after, applyEntry entry before = (after, .ok ()) →
      property before → property after)
    (applied : applyEntries entries target = (written, .ok count)) (start : property target) :
    property written := by
  induction entries generalizing target count with
  | nil =>
      cases applied
      exact start
  | cons entry rest ih =>
      unfold applyEntries at applied
      split at applied
      · cases applied
      · next next first =>
          cases others : applyEntries rest next with
          | mk final result =>
              simp only [others] at applied
              cases result with
              | error failure => cases applied
              | ok number =>
                  cases applied
                  have onward : property next := step entry List.mem_cons_self target next first start
                  exact ih (fun entry member => step entry (List.mem_cons_of_mem _ member)) others
                    onward

theorem text_at_applyEntries (applied : applyEntries entries target = (written, .ok count))
    (present : at? wanted written = some (.text found)) :
    at? wanted target = some (.text found) ∨ ∃ entry ∈ entries, Puts wanted found entry := by
  revert present
  refine applyEntries_induction (fun value => at? wanted value = some (.text found) →
    at? wanted target = some (.text found) ∨ ∃ entry ∈ entries, Puts wanted found entry) ?_ applied
    Or.inl
  intro entry member before after changed known present
  obtain ⟨path, value, _, assigns, assigned⟩ := applyEntry_ok changed
  rcases Json.text_at_assign assigned present with kept | ⟨rest, shape, new⟩
  · exact known kept
  · exact .inr ⟨entry, member, path, rest, value, assigns, shape, new⟩

theorem at?_applyEntries_of_untouched
    (applied : applyEntries entries target = (written, .ok count))
    (untouched : ∀ entry ∈ entries, ¬ Touches wanted entry)
    (present : at? wanted target = some (.text found)) :
    at? wanted written = some (.text found) := by
  refine applyEntries_induction (fun value => at? wanted value = some (.text found)) ?_ applied
    present
  intro entry member before after changed kept
  obtain ⟨path, value, somewhere, assigns, assigned⟩ := applyEntry_ok changed
  refine Json.at?_assign_of_spares somewhere assigned kept ?_
  intro rest shape
  apply Classical.byContradiction
  intro reaches
  exact untouched entry member ⟨path, rest, value, assigns, shape, reaches⟩

/-! ### Two values that differ in some entries -/

section

open Json (DifferAt InOrder)

variable {keys path : List String} {left right : Json}

/-- No path leads to a key with a point in it, so that nothing can tell apart what differs there only. -/
theorem applyEntry_alike (differ : DifferAt keys path (some left) (some right))
    (pointed : ∀ key ∈ keys, '.' ∈ key.toList) (ordered : InOrder entry) :
    DifferAt keys path (some (applyEntry entry left).1) (some (applyEntry entry right).1) ∧
      (applyEntry entry left).2 = (applyEntry entry right).2 := by
  unfold applyEntry
  split
  · exact ⟨differ, rfl⟩
  · next text given =>
      split
      · exact ⟨differ, rfl⟩
      · next value there =>
          have valueOrdered : InOrder value := by
            cases entry with
            | object fields => exact ordered.field there
            | _ => cases there
          have clear : ∀ key ∈ keys, key ∉ Text.splitAll '.' text := fun key member listed =>
            Text.not_mem_of_mem_splitAll listed (pointed key member)
          have alike := differ.assign valueOrdered (Text.splitAll_ne_nil text) clear
          rw [Option.getD_some, Option.getD_some] at alike
          rw [writePath_eq, writePath_eq]
          revert alike
          generalize Json.assign value (Text.splitAll '.' text) left = first
          generalize Json.assign value (Text.splitAll '.' text) right = second
          intro alike
          cases alike with
          | error failure => exact ⟨differ, rfl⟩
          | ok written => exact ⟨written, rfl⟩

theorem applyEntries_alike (differ : DifferAt keys path (some left) (some right))
    (pointed : ∀ key ∈ keys, '.' ∈ key.toList) (ordered : ∀ entry ∈ entries, InOrder entry) :
    DifferAt keys path (some (applyEntries entries left).1) (some (applyEntries entries right).1) ∧
      (applyEntries entries left).2 = (applyEntries entries right).2 := by
  induction entries generalizing left right with
  | nil => exact ⟨differ, rfl⟩
  | cons entry rest ih =>
      have alike := applyEntry_alike differ pointed (ordered entry List.mem_cons_self)
      unfold applyEntries
      revert alike
      generalize applyEntry entry left = first
      generalize applyEntry entry right = second
      intro alike
      obtain ⟨leftWritten, outcome⟩ := first
      obtain ⟨rightWritten, other⟩ := second
      obtain ⟨written, same⟩ := alike
      dsimp only at written same
      subst same
      cases outcome with
      | error failure => exact ⟨written, rfl⟩
      | ok done =>
          obtain ⟨final, same⟩ := ih written fun entry member =>
            ordered entry (List.mem_cons_of_mem _ member)
          exact ⟨final, congrArg (fun result => result.map (· + 1)) same⟩

end

end GitDelivery.PackageOverride
