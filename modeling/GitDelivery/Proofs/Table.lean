import GitDelivery.Table

set_option autoImplicit false

/-! Tables in ascending order: what is written keeps the order, and every pair is found by its key. -/

namespace GitDelivery.Table

variable {α : Type} {key other : String} {value : α} {table : Table α}

instance (table : Table α) : Decidable (Ascending table) :=
  inferInstanceAs (Decidable ((keys table).Pairwise (· < ·)))

theorem mem_keys_iff : key ∈ keys table ↔ get? key table ≠ none := by
  induction table with
  | nil => simp [get?, keys]
  | cons pair rest ih =>
      obtain ⟨name, old⟩ := pair
      by_cases same : name = key
      · simp [get?, keys, same]
      · simpa [get?, keys, same, Ne.symm same] using ih

theorem get?_insert (key other : String) (value : α) (table : Table α) :
    get? other (insert key value table) = if other = key then some value else get? other table := by
  by_cases same : other = key
  · rw [if_pos same, same, get?_insert_self]
  · rw [if_neg same, get?_insert_of_ne same]

theorem get?_erase (key other : String) (table : Table α) :
    get? other (erase key table) = if other = key then none else get? other table := by
  by_cases same : other = key
  · rw [if_pos same, same, get?_erase_self]
  · rw [if_neg same]
    induction table with
    | nil => rfl
    | cons pair rest ih =>
        obtain ⟨name, old⟩ := pair
        by_cases erased : name = key
        · rw [erase, if_pos erased, ih, get?, if_neg fun here => same (here.symm.trans erased)]
        · rw [erase, if_neg erased, get?, get?, ih]

theorem length_erase_le (key : String) (table : Table α) :
    (erase key table).length ≤ table.length := by
  induction table with
  | nil => exact Nat.le_refl 0
  | cons pair rest ih =>
      obtain ⟨name, value⟩ := pair
      by_cases same : name = key
      · rw [erase, if_pos same]
        exact Nat.le_succ_of_le ih
      · rw [erase, if_neg same]
        exact Nat.succ_le_succ ih

theorem mem_of_get? (found : get? key table = some value) : (key, value) ∈ table := by
  induction table with
  | nil => cases found
  | cons pair rest ih =>
      obtain ⟨name, old⟩ := pair
      by_cases same : name = key
      · rw [get?, if_pos same] at found
        rw [same, Option.some.inj found]
        exact List.mem_cons_self
      · rw [get?, if_neg same] at found
        exact List.mem_cons_of_mem _ (ih found)

theorem insert_of_get? (found : get? key table = some value) : insert key value table = table := by
  induction table with
  | nil => cases found
  | cons pair rest ih =>
      obtain ⟨name, old⟩ := pair
      by_cases same : name = key
      · rw [get?, if_pos same] at found
        rw [insert, if_pos same, same, Option.some.inj found]
      · rw [get?, if_neg same] at found
        have known : ¬(key < name ∧ get? key rest = none) := fun absent => by simp [absent] at found
        rw [insert, if_neg same, if_neg known, ih found]

theorem insert_insert (key : String) (earlier later : α) (table : Table α) :
    insert key later (insert key earlier table) = insert key later table := by
  induction table with
  | nil => simp [insert]
  | cons pair rest ih =>
      obtain ⟨name, old⟩ := pair
      by_cases same : name = key
      · simp [insert, same]
      · by_cases before : key < name ∧ get? key rest = none
        · simp [insert, same, before]
        · have known : ¬(key < name ∧ get? key (insert key earlier rest) = none) := by
            simp [get?_insert_self]
          rw [insert, if_neg same, if_neg before, insert, if_neg same, if_neg known, insert,
            if_neg same, if_neg before, ih]

theorem insert_comm {one other : String} (different : one ≠ other) (first second : α)
    (table : Table α) :
    insert one first (insert other second table) = insert other second (insert one first table) := by
  induction table with
  | nil =>
      have total : one < other ∨ other < one := by grind
      rcases total with before | after
      · simp [insert, get?, different, Ne.symm different, before, String.lt_asymm before]
      · simp [insert, get?, different, Ne.symm different, after, String.lt_asymm after]
  | cons pair rest ih =>
      obtain ⟨name, old⟩ := pair
      have firstStays := get?_insert_of_ne different second rest
      have secondStays := get?_insert_of_ne (Ne.symm different) first rest
      grind [insert, get?]

theorem mem_keys_insert_iff :
    other ∈ keys (insert key value table) ↔ other = key ∨ other ∈ keys table := by
  by_cases same : other = key
  · subst same
    simp [mem_keys_iff, get?_insert_self]
  · simp [mem_keys_iff, get?_insert_of_ne same, same]

theorem Ascending.insert (ascends : Ascending table) : Ascending (Table.insert key value table) := by
  induction table with
  | nil => exact List.pairwise_singleton _ _
  | cons pair rest ih =>
      obtain ⟨name, old⟩ := pair
      obtain ⟨first, others⟩ := List.pairwise_cons.mp ascends
      by_cases same : name = key
      · subst same
        rw [Table.insert, if_pos rfl]
        exact ascends
      by_cases before : key < name ∧ get? key rest = none
      · rw [Table.insert, if_neg same, if_pos before]
        refine List.pairwise_cons.mpr ⟨?_, ascends⟩
        intro later member
        rcases List.mem_cons.mp member with rfl | member
        · exact before.1
        · exact String.lt_trans before.1 (first later member)
      · rw [Table.insert, if_neg same, if_neg before]
        have after : name < key := by
          by_cases known : get? key rest = none
          · grind
          · exact first key (mem_keys_iff.mpr known)
        refine List.pairwise_cons.mpr ⟨?_, ih others⟩
        intro later member
        rcases mem_keys_insert_iff.mp member with rfl | member
        · exact after
        · exact first later member

theorem Ascending.mem_iff_get? (ascends : Ascending table) :
    (key, value) ∈ table ↔ get? key table = some value := by
  induction table with
  | nil => simp [get?]
  | cons pair rest ih =>
      obtain ⟨name, old⟩ := pair
      obtain ⟨first, others⟩ := List.pairwise_cons.mp ascends
      by_cases same : name = key
      · subst same
        -- the key stands at no other place
        have single : (name, value) ∉ rest := by
          intro again
          exact String.lt_irrefl name (first name (List.mem_map_of_mem again))
        simp [get?, single, eq_comm]
      · simpa [get?, same, Ne.symm same] using ih others

theorem Ascending.get?_self_tail {name : String} {old : α} (ascends : Ascending ((name, old) :: table)) :
    get? name table = none := by
  obtain ⟨first, _⟩ := List.pairwise_cons.mp ascends
  cases again : get? name table with
  | none => rfl
  | some value =>
      have later : name ∈ keys table := mem_keys_iff.mpr (by simp [again])
      exact absurd (first name later) (String.lt_irrefl name)

theorem Ascending.ext {left right : Table α} (ascends : Ascending left) (also : Ascending right)
    (same : ∀ key, get? key left = get? key right) : left = right := by
  induction left generalizing right with
  | nil =>
      cases right with
      | nil => rfl
      | cons pair rest => exact absurd (same pair.1) (by simp [get?])
  | cons pair rest ih =>
      obtain ⟨name, value⟩ := pair
      cases right with
      | nil => exact absurd (same name) (by simp [get?])
      | cons second others =>
          obtain ⟨other, found⟩ := second
          obtain ⟨first, later⟩ := List.pairwise_cons.mp ascends
          obtain ⟨alsoFirst, alsoLater⟩ := List.pairwise_cons.mp also
          -- Each of the two first keys stands in the other table, so neither is before the other.
          have heads : name = other := by
            refine Decidable.byContradiction fun different => ?_
            have inOthers : name ∈ keys others := by
              have found := same name
              rw [get?, if_pos rfl, get?, if_neg (Ne.symm different)] at found
              exact mem_keys_iff.mpr (by simp [← found])
            have inRest : other ∈ keys rest := by
              have found := same other
              rw [get?, if_neg different, get?, if_pos rfl] at found
              exact mem_keys_iff.mpr (by simp [found])
            exact String.lt_asymm (first other inRest) (alsoFirst name inOthers)
          subst heads
          have values := same name
          rw [get?, if_pos rfl, get?, if_pos rfl] at values
          cases values
          congr 1
          refine ih later alsoLater fun key => ?_
          by_cases here : name = key
          · subst here
            rw [ascends.get?_self_tail, also.get?_self_tail]
          · simpa [get?, here] using same key

/-! ### Tables made of pairs -/

theorem get?_foldl_insert (pairs : List (String × α)) (table : Table α) :
    get? key (pairs.foldl (fun table pair => Table.insert pair.1 pair.2 table) table) =
      ((pairs.reverse.find? fun pair => pair.1 = key).map Prod.snd).or (get? key table) := by
  induction pairs generalizing table with
  | nil => rfl
  | cons pair rest ih =>
      rw [List.foldl_cons, ih, List.reverse_cons, List.find?_append]
      by_cases same : pair.1 = key
      · simp [same, get?_insert_self]
      · simp [same, get?_insert_of_ne (Ne.symm same)]

theorem get?_ofList (pairs : List (String × α)) :
    get? key (ofList pairs) = (pairs.reverse.find? fun pair => pair.1 = key).map Prod.snd := by
  unfold ofList
  rw [get?_foldl_insert]
  exact Option.or_none

theorem mem_of_get?_ofList {pairs : List (String × α)} (found : get? key (ofList pairs) = some value) :
    (key, value) ∈ pairs := by
  rw [get?_ofList] at found
  obtain ⟨pair, last, same⟩ := Option.map_eq_some_iff.mp found
  have named : pair.1 = key := by simpa using List.find?_some last
  subst same
  subst named
  exact List.mem_reverse.mp (List.mem_of_find?_eq_some last)

theorem exists_get?_ofList {pairs : List (String × α)} (member : (key, value) ∈ pairs) :
    ∃ last, get? key (ofList pairs) = some last := by
  rw [get?_ofList]
  cases found : pairs.reverse.find? fun pair => pair.1 = key with
  | none =>
      have absent := List.find?_eq_none.mp found (key, value) (List.mem_reverse.mpr member)
      simp at absent
  | some pair => exact ⟨pair.2, rfl⟩

theorem ascending_ofList (pairs : List (String × α)) : Ascending (ofList pairs) := by
  have step (table : Table α) (ascends : Ascending table) : Ascending
      (pairs.foldl (fun table pair => Table.insert pair.1 pair.2 table) table) := by
    induction pairs generalizing table with
    | nil => exact ascends
    | cons pair rest ih => exact ih _ ascends.insert
  exact step [] List.Pairwise.nil

end GitDelivery.Table
