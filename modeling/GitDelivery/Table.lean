set_option autoImplicit false

/-! Tables keyed by text, as lists of pairs in ascending key order. `get?` reads the first pair with
the key and `insert` writes that pair, so the two agree on every list, in order or not. -/

namespace GitDelivery

abbrev Table (α : Type) := List (String × α)

namespace Table

variable {α : Type}

def get? (key : String) : Table α → Option α
  | [] => none
  | (name, value) :: rest => if name = key then some value else get? key rest

/-- Writes the value of a key: in place if the key is there, else where the order wants it. -/
def insert (key : String) (value : α) : Table α → Table α
  | [] => [(key, value)]
  | (name, old) :: rest =>
    if name = key then (key, value) :: rest
    else if key < name ∧ get? key rest = none then (key, value) :: (name, old) :: rest
    else (name, old) :: insert key value rest

def erase (key : String) : Table α → Table α
  | [] => []
  | (name, value) :: rest => if name = key then erase key rest else (name, value) :: erase key rest

/-- Of pairs with one key the last counts. -/
def ofList (pairs : List (String × α)) : Table α :=
  pairs.foldl (fun table pair => insert pair.1 pair.2 table) []

def keys (table : Table α) : List String :=
  table.map Prod.fst

/-- Keys strictly ascend. -/
def Ascending (table : Table α) : Prop :=
  (keys table).Pairwise (· < ·)

theorem get?_insert_self (key : String) (value : α) (table : Table α) :
    get? key (insert key value table) = some value := by
  induction table with
  | nil => simp [insert, get?]
  | cons pair rest ih =>
      obtain ⟨name, old⟩ := pair
      simp only [insert]
      split
      · simp [get?]
      · split
        · simp [get?]
        · simp [get?, *]

theorem get?_insert_of_ne {key other : String} (different : other ≠ key) (value : α)
    (table : Table α) : get? other (insert key value table) = get? other table := by
  induction table with
  | nil => simp [insert, get?, Ne.symm different]
  | cons pair rest ih =>
      obtain ⟨name, old⟩ := pair
      simp only [insert]
      split
      · next same =>
          subst same
          simp [get?, Ne.symm different]
      · split
        · simp [get?, Ne.symm different]
        · simp [get?, ih]

theorem get?_erase_self (key : String) (table : Table α) : get? key (erase key table) = none := by
  induction table with
  | nil => rfl
  | cons pair rest ih =>
      obtain ⟨name, value⟩ := pair
      by_cases same : name = key
      · simp [erase, same, ih]
      · simp [erase, get?, same, ih]

end Table

end GitDelivery
