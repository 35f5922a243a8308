import GitDelivery.FilePath
import GitDelivery.Proofs.Text

set_option autoImplicit false

/-! Paths that go down by names. Every name adds one component to a path, so that the names can be told
from the path. -/

namespace GitDelivery.FilePath

structure IsName (name : String) : Prop where
  present : name ≠ ""
  notHere : name ≠ "."
  notUp : name ≠ ".."
  plain : '/' ∉ name.toList

instance (name : String) : Decidable (IsName name) :=
  decidable_of_iff (name ≠ "" ∧ name ≠ "." ∧ name ≠ ".." ∧ '/' ∉ name.toList)
    ⟨fun ⟨present, notHere, notUp, plain⟩ => ⟨present, notHere, notUp, plain⟩,
      fun isName => ⟨isName.present, isName.notHere, isName.notUp, isName.plain⟩⟩

/-- What one piece of a path adds to its components. -/
def component? (piece : String) : Option Component :=
  if piece = "" || piece = "." then none
  else if piece = ".." then some .up
  else some (.name piece)

theorem components_eq (path : String) :
    components path =
      (if path.toList.head? = some '/' then [.root]
        else if (Text.splitAll '/' path).head? = some "." then [.here] else []) ++
      (Text.splitAll '/' path).filterMap component? :=
  rfl

variable {path name : String}

private theorem toList_slash (before after : String) :
    (before ++ "/" ++ after).toList = before.toList ++ '/' :: after.toList := by
  simp [String.toList_append]

private theorem splitAll_slash (before after : String) :
    Text.splitAll '/' (before ++ "/" ++ after) =
      Text.splitAll '/' before ++ Text.splitAll '/' after :=
  Text.splitAll_append_separator before after

private theorem components_cut (before : String) :
    ∃ start, ∀ after, components (before ++ "/" ++ after) =
      start ++ (Text.splitAll '/' after).filterMap component? := by
  obtain ⟨piece, more, cut⟩ := List.exists_cons_of_ne_nil (Text.splitAll_ne_nil before)
  refine ⟨(if before.toList.head?.or (some '/') = some '/' then [.root]
    else if some piece = some "." then [.here] else []) ++
      (Text.splitAll '/' before).filterMap component?, ?_⟩
  intro after
  rw [components_eq, toList_slash, splitAll_slash, List.filterMap_append, List.append_assoc, cut]
  simp

private theorem components_slash (present : path ≠ "") :
    components (path ++ "/" ++ "") = components path := by
  have filled : path.toList ≠ [] := by simpa using present
  obtain ⟨first, rest, chars⟩ := List.exists_cons_of_ne_nil filled
  obtain ⟨piece, more, cut⟩ := List.exists_cons_of_ne_nil (Text.splitAll_ne_nil path)
  have nothing : (Text.splitAll '/' "").filterMap component? = [] := rfl
  rw [components_eq, components_eq, toList_slash, splitAll_slash, List.filterMap_append, nothing,
    cut, chars]
  simp

theorem IsName.component (isName : IsName name) : component? name = some (.name name) := by
  simp [component?, isName.present, isName.notHere, isName.notUp]

private theorem filterMap_of_plain (plain : '/' ∉ name.toList) :
    (Text.splitAll '/' name).filterMap component? = (component? name).toList := by
  rw [Text.splitAll_of_not_mem plain, List.filterMap_cons]
  cases component? name <;> rfl

/-- What has no slash in it adds at most one component. -/
theorem components_push_of_plain (plain : '/' ∉ name.toList) (present : path ≠ "") :
    components (push path name) = components path ++ (component? name).toList := by
  have filled : path.isEmpty = false := by simpa using present
  have relative : name.toList.head? ≠ some '/' := fun first =>
    plain (List.mem_of_head? first)
  unfold push
  rw [if_neg relative, filled, Bool.false_or]
  by_cases ended : path.toList.getLast? = some '/'
  · obtain ⟨before, split⟩ := List.getLast?_eq_some_iff.mp ended
    have whole : path = String.ofList before ++ "/" ++ "" := by
      apply String.toList_injective
      rw [toList_slash, split]
      simp
    obtain ⟨start, cut⟩ := components_cut (String.ofList before)
    have appended : path ++ name = String.ofList before ++ "/" ++ name := by
      rw [whole, String.append_empty]
    rw [if_pos (decide_eq_true ended), appended, cut, filterMap_of_plain plain]
    conv => rhs; rw [whole, cut]
    simp [Text.splitAll, Text.pieces, component?]
  · obtain ⟨start, cut⟩ := components_cut path
    rw [if_neg (by simpa using ended), cut, filterMap_of_plain plain, ← components_slash present, cut]
    simp [Text.splitAll, Text.pieces, component?]

theorem components_push (isName : IsName name) (present : path ≠ "") :
    components (push path name) = components path ++ [.name name] := by
  rw [components_push_of_plain isName.plain present, isName.component]
  rfl

/-- A path without a slash is its own only piece; a point is a component as the first of a path. -/
theorem components_of_plain (plain : '/' ∉ path.toList) :
    components path = if path = "." then [.here] else (component? path).toList := by
  have relative : path.toList.head? ≠ some '/' := fun first => plain (List.mem_of_head? first)
  rw [components_eq, if_neg relative, filterMap_of_plain plain, Text.splitAll_of_not_mem plain]
  by_cases here : path = "."
  · subst here
    rfl
  · simp [here]

theorem push_present (plain : '/' ∉ name.toList) (present : path ≠ "") : push path name ≠ "" := by
  have relative : name.toList.head? ≠ some '/' := fun first => plain (List.mem_of_head? first)
  unfold push
  rw [if_neg relative]
  split <;> simp [present]

theorem push_ne_empty (isName : IsName name) (present : path ≠ "") : push path name ≠ "" := by
  intro blank
  have added := components_push isName present
  rw [blank] at added
  exact List.append_ne_nil_of_right_ne_nil _ (List.cons_ne_nil _ _) added.symm

theorem components_pushAll {names : List String} (present : path ≠ "")
    (are : ∀ name ∈ names, IsName name) :
    components (pushAll path names) = components path ++ names.map .name := by
  induction names generalizing path with
  | nil => exact (List.append_nil _).symm
  | cons name rest ih =>
      obtain ⟨isName, others⟩ := List.forall_mem_cons.mp are
      have later := ih (push_ne_empty isName present) others
      rw [components_push isName present, List.append_assoc] at later
      exact later

theorem push_empty (name : String) : push "" name = name := by
  unfold push
  split
  · rfl
  · exact String.empty_append

theorem components_below {names : List String} (are : ∀ name ∈ names, IsName name) :
    components (pushAll path names) = components path ++ names.map .name := by
  by_cases present : path = ""
  · subst present
    cases names with
    | nil => exact (List.append_nil _).symm
    | cons name rest =>
        obtain ⟨isName, others⟩ := List.forall_mem_cons.mp are
        have first : components name = [.name name] := by
          rw [components_of_plain isName.plain, if_neg isName.notHere, isName.component]
          rfl
        have onward : pushAll "" (name :: rest) = pushAll name rest :=
          congrArg (pushAll · rest) (push_empty name)
        rw [onward, components_pushAll isName.present others, first]
        rfl
  · exact components_pushAll present are

theorem pushAll_inj {one other : List String} (present : path ≠ "")
    (are : ∀ name ∈ one, IsName name) (areToo : ∀ name ∈ other, IsName name)
    (same : pushAll path one = pushAll path other) : one = other := by
  have parts : components path ++ one.map Component.name =
      components path ++ other.map Component.name := by
    rw [← components_pushAll present are, same, components_pushAll present areToo]
  have names : one.map Component.name = other.map Component.name := List.append_cancel_left parts
  exact (List.map_inj_right fun _ _ => Component.name.inj).mp names

theorem pushAll_append (path : String) (one other : List String) :
    pushAll path (one ++ other) = pushAll (pushAll path one) other :=
  List.foldl_append

end GitDelivery.FilePath
