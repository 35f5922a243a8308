import GitDelivery.Text.Basic

set_option autoImplicit false

/-! The pieces of texts that are put together, and what trimming takes from their ends. -/

namespace GitDelivery.Text

variable {separator : Char}

theorem pieces_eq (chars : List Char) : pieces separator chars = chars.splitOn separator := by
  unfold List.splitOn
  induction chars with
  | nil => rfl
  | cons c rest ih =>
      rw [pieces, ih, List.splitOnP_cons_eq_if_modifyHead]
      by_cases same : c = separator
      · rw [if_pos same, if_pos (beq_iff_eq.mpr same)]
      · rw [if_neg same, if_neg fun equal => same (beq_iff_eq.mp equal)]
        cases cut : rest.splitOnP (· == separator) with
        | nil => exact absurd cut (List.splitOnP_ne_nil _ _)
        | cons piece more => rfl

theorem pieces_ne_nil (chars : List Char) : pieces separator chars ≠ [] := by
  rw [pieces_eq]
  exact List.splitOnP_ne_nil _ _

theorem pieces_of_not_mem {chars : List Char} (absent : separator ∉ chars) :
    pieces separator chars = [chars] := by
  rw [pieces_eq]
  apply List.splitOnP_eq_singleton
  intro c member
  exact beq_false_of_ne fun same => absent (same ▸ member)

theorem pieces_append_separator (before after : List Char) :
    pieces separator (before ++ separator :: after) =
      pieces separator before ++ pieces separator after := by
  simp only [pieces_eq]
  exact List.splitOnP_append_cons before after (beq_self_eq_true separator)

theorem splitAll_ne_nil (text : String) : splitAll separator text ≠ [] := by
  intro nothing
  exact pieces_ne_nil text.toList (List.map_eq_nil_iff.mp nothing)

theorem splitAll_append_separator (before after : String) :
    splitAll separator (before ++ String.singleton separator ++ after) =
      splitAll separator before ++ splitAll separator after := by
  unfold splitAll
  rw [String.toList_append, String.toList_append, String.toList_singleton, List.append_assoc,
    List.singleton_append, pieces_append_separator, List.map_append]

theorem splitAll_of_not_mem {text : String} (absent : separator ∉ text.toList) :
    splitAll separator text = [text] := by
  unfold splitAll
  rw [pieces_of_not_mem absent, List.map_singleton, String.ofList_toList]

theorem not_mem_of_mem_pieces {chars piece : List Char} (member : piece ∈ pieces separator chars) :
    separator ∉ piece := by
  induction chars generalizing piece with
  | nil =>
      cases List.mem_singleton.mp member
      exact List.not_mem_nil
  | cons c rest ih =>
      by_cases same : c = separator
      · rw [pieces, if_pos same] at member
        rcases List.mem_cons.mp member with rfl | later
        · exact List.not_mem_nil
        · exact ih later
      · rw [pieces, if_neg same] at member
        cases cut : pieces separator rest with
        | nil => exact absurd cut (pieces_ne_nil rest)
        | cons first more =>
            rw [cut] at member ih
            rcases List.mem_cons.mp member with rfl | later
            · intro inside
              rcases List.mem_cons.mp inside with equal | deeper
              · exact same equal.symm
              · exact ih List.mem_cons_self deeper
            · exact ih (List.mem_cons_of_mem first later)

theorem not_mem_of_mem_splitAll {text piece : String} (member : piece ∈ splitAll separator text) :
    separator ∉ piece.toList := by
  obtain ⟨chars, listed, rfl⟩ := List.mem_map.mp member
  rw [String.toList_ofList]
  exact not_mem_of_mem_pieces listed

/-! ### The first separator -/

theorem cutAt_some {chars before after : List Char} (cut : cutAt separator chars = some (before, after)) :
    chars = before ++ separator :: after ∧ separator ∉ before := by
  induction chars generalizing before with
  | nil => cases cut
  | cons c rest ih =>
      by_cases same : c = separator
      · rw [cutAt, if_pos same] at cut
        cases cut
        exact ⟨by rw [same, List.nil_append], List.not_mem_nil⟩
      · rw [cutAt, if_neg same] at cut
        obtain ⟨⟨start, last⟩, later, joined⟩ := Option.map_eq_some_iff.mp cut
        cases joined
        obtain ⟨shape, absent⟩ := ih later
        refine ⟨by rw [shape, List.cons_append], ?_⟩
        intro member
        rcases List.mem_cons.mp member with first | inside
        · exact same first.symm
        · exact absent inside

theorem cutAt_none {chars : List Char} (cut : cutAt separator chars = none) : separator ∉ chars := by
  induction chars with
  | nil => exact List.not_mem_nil
  | cons c rest ih =>
      by_cases same : c = separator
      · rw [cutAt, if_pos same] at cut
        cases cut
      · rw [cutAt, if_neg same] at cut
        intro member
        rcases List.mem_cons.mp member with first | inside
        · exact same first.symm
        · exact ih (Option.map_eq_none_iff.mp cut) inside

theorem cutAt_append {before : List Char} (absent : separator ∉ before) (after : List Char) :
    cutAt separator (before ++ separator :: after) = some (before, after) := by
  induction before with
  | nil => exact if_pos rfl
  | cons c rest ih =>
      obtain ⟨other, others⟩ := List.ne_and_not_mem_of_not_mem_cons absent
      rw [List.cons_append, cutAt, if_neg other.symm, ih others]
      rfl

/-! ### The last separator -/

/-- A list can be cut at its last separator in one way only. -/
theorem append_separator_inj {before after otherBefore otherAfter : List Char}
    (absent : separator ∉ after) (otherAbsent : separator ∉ otherAfter)
    (same : before ++ separator :: after = otherBefore ++ separator :: otherAfter) :
    before = otherBefore ∧ after = otherAfter := by
  have cut {first last : List Char} (plain : separator ∉ last) :
      cutAt separator (first ++ separator :: last).reverse = some (last.reverse, first.reverse) := by
    have reversed : (first ++ separator :: last).reverse =
        last.reverse ++ separator :: first.reverse := by simp
    rw [reversed]
    exact cutAt_append (fun member => plain (List.mem_reverse.mp member)) _
  have cuts : _ = some (after.reverse, before.reverse) := cut absent
  rw [same, cut otherAbsent] at cuts
  obtain ⟨afters, befores⟩ := Prod.mk.inj (Option.some.inj cuts)
  exact ⟨(List.reverse_inj.mp befores).symm, (List.reverse_inj.mp afters).symm⟩

/-! ### Trimming -/

theorem takeWhile_of_stops {α : Type} {p : α → Bool} {taken rest : List α}
    (all : ∀ item ∈ taken, p item = true) (stops : ∀ item, rest.head? = some item → p item = false) :
    (taken ++ rest).takeWhile p = taken := by
  rw [List.takeWhile_append_of_pos all]
  cases rest with
  | nil => exact List.append_nil taken
  | cons item later =>
      rw [List.takeWhile_cons_of_neg (by simp [stops item rfl]), List.append_nil]

theorem dropWhile_of_stops {α : Type} {p : α → Bool} {dropped rest : List α}
    (all : ∀ item ∈ dropped, p item = true) (stops : ∀ item, rest.head? = some item → p item = false) :
    (dropped ++ rest).dropWhile p = rest := by
  rw [List.dropWhile_append_of_pos all]
  cases rest with
  | nil => rfl
  | cons item later => exact List.dropWhile_cons_of_neg (by simp [stops item rfl])

theorem dropEndWhile_of_getLast? {c : Char} {chars : List Char} (ends : chars.getLast? ≠ some c) :
    dropEndWhile (· == c) chars = chars := by
  have back : chars.reverse.dropWhile (· == c) = chars.reverse := by
    apply dropWhile_of_stops (List.forall_mem_nil _)
    intro last same
    have final : chars.getLast? = some last := List.head?_reverse.symm.trans same
    exact beq_false_of_ne fun isEnd => ends (isEnd ▸ final)
  unfold dropEndWhile
  rw [back, List.reverse_reverse]

theorem getLast?_dropEndWhile (c : Char) (chars : List Char) :
    (dropEndWhile (· == c) chars).getLast? ≠ some c := by
  intro ends
  unfold dropEndWhile at ends
  rw [List.getLast?_reverse] at ends
  have stops := List.head?_dropWhile_not (· == c) chars.reverse
  rw [ends] at stops
  simp at stops

theorem trimChar_of_ends {c : Char} {text : String} (starts : text.toList.head? ≠ some c)
    (ends : text.toList.getLast? ≠ some c) : trimChar c text = text := by
  have front : text.toList.dropWhile (· == c) = text.toList := by
    apply dropWhile_of_stops (List.forall_mem_nil _)
    intro first same
    exact beq_false_of_ne fun isEnd => starts (isEnd ▸ same)
  unfold trimChar
  rw [front, dropEndWhile_of_getLast? ends, String.ofList_toList]

theorem dropEndWhile_append_replicate (c : Char) (chars : List Char) (count : Nat) :
    dropEndWhile (· == c) (chars ++ List.replicate count c) = dropEndWhile (· == c) chars := by
  unfold dropEndWhile
  rw [List.reverse_append, List.reverse_replicate, List.dropWhile_append_of_pos]
  intro item member
  rw [List.eq_of_mem_replicate member, beq_self_eq_true]

/-- Copies of a character at the ends make no difference to what is left without them. -/
theorem trimChar_padded (c : Char) (chars : List Char) (before after : Nat) :
    trimChar c (String.ofList (List.replicate before c ++ (chars ++ List.replicate after c))) =
      trimChar c (String.ofList chars) := by
  have copies (count : Nat) : ∀ item ∈ List.replicate count c, (item == c) = true := by
    intro item member
    rw [List.eq_of_mem_replicate member, beq_self_eq_true]
  unfold trimChar
  rw [String.toList_ofList, String.toList_ofList, List.dropWhile_append_of_pos (copies before),
    List.dropWhile_append]
  cases rest : chars.dropWhile (· == c) with
  | nil =>
      have nothing : (List.replicate after c).dropWhile (· == c) = [] := by
        rw [← List.append_nil (List.replicate after c), List.dropWhile_append_of_pos (copies after)]
        rfl
      rw [List.isEmpty_nil, if_pos rfl, nothing]
  | cons item later =>
      rw [List.isEmpty_cons, if_neg Bool.false_ne_true, dropEndWhile_append_replicate]

theorem exists_replicate_append (c : Char) (chars : List Char) :
    ∃ count, chars = List.replicate count c ++ chars.dropWhile (· == c) := by
  have copies : chars.takeWhile (· == c) = List.replicate (chars.takeWhile (· == c)).length c := by
    rw [List.eq_replicate_iff]
    exact ⟨rfl, fun item member =>
      beq_iff_eq.mp (List.all_eq_true.mp List.all_takeWhile item member)⟩
  refine ⟨(chars.takeWhile (· == c)).length, ?_⟩
  rw [← copies, List.takeWhile_append_dropWhile]

theorem exists_append_replicate (c : Char) (chars : List Char) :
    ∃ count, chars = dropEndWhile (· == c) chars ++ List.replicate count c := by
  obtain ⟨count, turned⟩ := exists_replicate_append c chars.reverse
  refine ⟨count, ?_⟩
  have whole := congrArg List.reverse turned
  rw [List.reverse_reverse, List.reverse_append, List.reverse_replicate] at whole
  exact whole

theorem exists_padded (c : Char) (text : String) :
    ∃ before after, text.toList =
      List.replicate before c ++ ((trimChar c text).toList ++ List.replicate after c) := by
  obtain ⟨before, front⟩ := exists_replicate_append c text.toList
  obtain ⟨after, back⟩ := exists_append_replicate c (text.toList.dropWhile (· == c))
  refine ⟨before, after, ?_⟩
  rw [trimChar, String.toList_ofList, ← back, ← front]

theorem getLast?_trimChar (c : Char) (text : String) : (trimChar c text).toList.getLast? ≠ some c := by
  unfold trimChar
  rw [String.toList_ofList]
  exact getLast?_dropEndWhile c _

theorem head?_trimChar (c : Char) (text : String) : (trimChar c text).toList.head? ≠ some c := by
  obtain ⟨count, whole⟩ := exists_append_replicate c (text.toList.dropWhile (· == c))
  intro starts
  have stops := List.head?_dropWhile_not (· == c) text.toList
  unfold trimChar at starts
  rw [String.toList_ofList] at starts
  rw [whole, List.head?_append, starts] at stops
  simp at stops

theorem pieces_replicate_append (count : Nat) (chars : List Char) :
    pieces separator (List.replicate count separator ++ chars) =
      List.replicate count [] ++ pieces separator chars := by
  induction count with
  | zero => rfl
  | succ count ih =>
      rw [List.replicate_succ, List.cons_append, pieces, if_pos rfl, ih]
      rfl

theorem pieces_append_replicate (chars : List Char) (count : Nat) :
    pieces separator (chars ++ List.replicate count separator) =
      pieces separator chars ++ List.replicate count [] := by
  cases count with
  | zero => rw [List.replicate_zero, List.replicate_zero, List.append_nil, List.append_nil]
  | succ count =>
      have copies : pieces separator (List.replicate count separator) =
          List.replicate count [] ++ [[]] := by
        rw [← List.append_nil (List.replicate count separator), pieces_replicate_append]
        rfl
      rw [List.replicate_succ, pieces_append_separator, copies, List.replicate_succ']

/-- Only empty pieces are lost where separators are taken from the ends of a text. -/
theorem mem_pieces_trimChar_iff {text : String} {piece : List Char} (filled : piece ≠ []) :
    piece ∈ pieces separator (trimChar separator text).toList ↔
      piece ∈ pieces separator text.toList := by
  obtain ⟨before, after, whole⟩ := exists_padded separator text
  have notCopy (count : Nat) : piece ∉ List.replicate count [] := fun member =>
    filled (List.eq_of_mem_replicate member)
  rw [whole, pieces_replicate_append, pieces_append_replicate, List.mem_append, List.mem_append,
    or_iff_right (notCopy before), or_iff_left (notCopy after)]

end GitDelivery.Text
