import GitDelivery.Proofs.FilePath
import GitDelivery.Repository.WorkingCopy

set_option autoImplicit false

/-! Where working copies lie. A text gives one component of their path, which holds no slash; but two
points are joined before characters are left out, so that leaving out what stands between two points can
make a step up of them. -/

namespace GitDelivery.WorkingCopy

open FilePath (Component IsName component? components)

/-- A character that is neither kept nor replaced. -/
def IsLeftOut (c : Char) : Prop :=
  isKept c = false ∧ separates c = false

/-- A text that is left with two points only, which something kept apart. -/
def LeadsUp (text : String) : Prop :=
  ∃ before between after, text.toList = before ++ '.' :: (between ++ '.' :: after) ∧ between ≠ [] ∧
    (∀ c ∈ before, IsLeftOut c) ∧ (∀ c ∈ between, IsLeftOut c) ∧ ∀ c ∈ after, IsLeftOut c

/-! ### The component of a text -/

private theorem joinPoints_of_not_mem {chars : List Char} (undashed : '-' ∉ joinPoints chars) :
    joinPoints chars = chars := by
  fun_induction joinPoints chars with
  | case1 rest ih => exact absurd List.mem_cons_self undashed
  | case2 c rest _ ih => rw [ih fun later => undashed (List.mem_cons_of_mem c later)]
  | case3 => rfl

theorem joinPoints_cons_of_ne {c : Char} (other : c ≠ '.') (rest : List Char) :
    joinPoints (c :: rest) = c :: joinPoints rest := by
  rw [joinPoints]
  intro later same _
  exact other same

theorem joinPoints_append {before : List Char} (pointless : ∀ c ∈ before, c ≠ '.')
    (rest : List Char) : joinPoints (before ++ rest) = before ++ joinPoints rest := by
  induction before with
  | nil => rfl
  | cons c before ih =>
      obtain ⟨other, others⟩ := List.forall_mem_cons.mp pointless
      rw [List.cons_append, joinPoints_cons_of_ne other, ih others]
      rfl

theorem joinPoints_point {c : Char} (other : c ≠ '.') (rest : List Char) :
    joinPoints ('.' :: c :: rest) = '.' :: c :: joinPoints rest := by
  have alone : joinPoints ('.' :: c :: rest) = '.' :: joinPoints (c :: rest) := by
    rw [joinPoints]
    intro later _ same
    exact other (List.cons.inj same).1
  rw [alone, joinPoints_cons_of_ne other]

theorem IsLeftOut.ne_point {c : Char} (leftOut : IsLeftOut c) : c ≠ '.' := by
  rintro rfl
  exact absurd leftOut.1 (by decide)

def dashed (chars : List Char) : List Char :=
  chars.map fun c => if separates c then '-' else c

theorem componentOf_eq (text : String) :
    (componentOf text).toList = (joinPoints (dashed text.toList)).filter isKept :=
  String.toList_ofList

private theorem plain_of_dashed {chars : List Char} (undashed : '-' ∉ dashed chars) :
    ∀ c ∈ chars, separates c = false := by
  intro c member
  cases separator : separates c with
  | false => rfl
  | true => exact (undashed (List.mem_map.mpr ⟨c, member, if_pos separator⟩)).elim

theorem dashed_of_plain {chars : List Char} (plain : ∀ c ∈ chars, separates c = false) :
    dashed chars = chars := by
  rw [dashed, List.map_congr_left fun c member => if_neg (by simp [plain c member]), List.map_id']

/-- No dash in a component means that nothing was replaced for it. -/
theorem componentOf_undashed {text : String} (undashed : '-' ∉ (componentOf text).toList) :
    (componentOf text).toList = text.toList.filter isKept ∧
      joinPoints text.toList = text.toList ∧ ∀ c ∈ text.toList, separates c = false := by
  have kept : isKept '-' = true := by decide
  rw [componentOf_eq] at undashed ⊢
  have joined : joinPoints (dashed text.toList) = dashed text.toList := by
    apply joinPoints_of_not_mem
    intro member
    exact undashed (List.mem_filter.mpr ⟨member, kept⟩)
  rw [joined] at undashed ⊢
  have plain : ∀ c ∈ text.toList, separates c = false := by
    apply plain_of_dashed
    intro member
    exact undashed (List.mem_filter.mpr ⟨member, kept⟩)
  rw [dashed_of_plain plain] at joined ⊢
  exact ⟨rfl, joined, plain⟩

private theorem filter_of_leftOut {chars : List Char} (leftOut : ∀ c ∈ chars, IsLeftOut c) :
    chars.filter isKept = [] := by
  rw [List.filter_eq_nil_iff]
  intro c member
  simp [(leftOut c member).1]

/-- Where nothing is replaced, two points side by side would have been. -/
theorem apart_of_joinPoints {before between after : List Char} (pointless : ∀ c ∈ before, c ≠ '.')
    (joined : joinPoints (before ++ '.' :: (between ++ '.' :: after)) =
      before ++ '.' :: (between ++ '.' :: after)) : between ≠ [] := by
  rintro rfl
  have merged : joinPoints (before ++ '.' :: '.' :: after) = before ++ '-' :: joinPoints after :=
    joinPoints_append pointless _
  have same := List.append_cancel_left (merged.symm.trans joined)
  exact absurd (List.cons.inj same).1 (by decide)

private theorem leadsUp_of_componentOf {text : String} (up : componentOf text = "..") :
    LeadsUp text := by
  have points : (componentOf text).toList = ['.', '.'] := congrArg String.toList up
  have undashed : '-' ∉ (componentOf text).toList := by
    rw [points]
    decide
  -- So nothing was replaced, and both points stand in the text itself.
  obtain ⟨filtered, joined, plain⟩ := componentOf_undashed undashed
  rw [points] at filtered
  obtain ⟨before, later, first, unkept, -, rest⟩ := List.filter_eq_cons_iff.mp filtered.symm
  obtain ⟨between, after, second, unkeptToo, -, others⟩ := List.filter_eq_cons_iff.mp rest
  have unkeptLast := List.filter_eq_nil_iff.mp others
  subst second
  rw [first] at plain joined
  simp only [List.forall_mem_append, List.forall_mem_cons] at plain
  obtain ⟨beforePlain, -, betweenPlain, -, afterPlain⟩ := plain
  have leftOut {chars : List Char} (unkept : ∀ c ∈ chars, ¬isKept c = true)
      (plain : ∀ c ∈ chars, separates c = false) : ∀ c ∈ chars, IsLeftOut c := fun c member =>
    ⟨Bool.eq_false_iff.mpr (unkept c member), plain c member⟩
  have beforeOut := leftOut unkept beforePlain
  have apart := apart_of_joinPoints (fun c member => (beforeOut c member).ne_point) joined
  exact ⟨before, between, after, first, apart, beforeOut, leftOut unkeptToo betweenPlain,
    leftOut unkeptLast afterPlain⟩

private theorem joinPoints_of_pointless {chars : List Char} (pointless : ∀ c ∈ chars, c ≠ '.') :
    joinPoints chars = chars := by
  have whole := joinPoints_append pointless []
  rw [List.append_nil] at whole
  exact whole.trans (List.append_nil chars)

private theorem joinPoints_last_point {after : List Char} (pointless : ∀ c ∈ after, c ≠ '.') :
    joinPoints ('.' :: after) = '.' :: after := by
  cases after with
  | nil => rfl
  | cons c rest =>
      obtain ⟨other, others⟩ := List.forall_mem_cons.mp pointless
      rw [joinPoints_point other, joinPoints_of_pointless others]

private theorem componentOf_of_leadsUp {text : String} (leads : LeadsUp text) :
    componentOf text = ".." := by
  obtain ⟨before, between, after, shape, apart, beforeOut, betweenOut, afterOut⟩ := leads
  have pointless {chars : List Char} (out : ∀ c ∈ chars, IsLeftOut c) : ∀ c ∈ chars, c ≠ '.' :=
    fun c member => (out c member).ne_point
  have plain : ∀ c ∈ text.toList, separates c = false := by
    have point : separates '.' = false := by decide
    rw [shape]
    simp only [List.forall_mem_append, List.forall_mem_cons]
    exact ⟨fun c member => (beforeOut c member).2, point, fun c member => (betweenOut c member).2,
      point, fun c member => (afterOut c member).2⟩
  have joined : joinPoints text.toList = text.toList := by
    obtain ⟨c, rest, rfl⟩ := List.exists_cons_of_ne_nil apart
    obtain ⟨cOut, restOut⟩ := List.forall_mem_cons.mp betweenOut
    rw [shape, joinPoints_append (pointless beforeOut), List.cons_append,
      joinPoints_point cOut.ne_point, joinPoints_append (pointless restOut),
      joinPoints_last_point (pointless afterOut)]
  have point : isKept '.' = true := by decide
  apply String.toList_injective
  rw [componentOf_eq, dashed_of_plain plain, joined, shape]
  simp [point, filter_of_leftOut beforeOut, filter_of_leftOut betweenOut, filter_of_leftOut afterOut]

/-- The component of a text is a step up exactly if the text leads up. -/
theorem componentOf_eq_up_iff {text : String} : componentOf text = ".." ↔ LeadsUp text :=
  ⟨leadsUp_of_componentOf, componentOf_of_leadsUp⟩

theorem componentOf_plain (text : String) : '/' ∉ (componentOf text).toList := by
  intro member
  rw [componentOf_eq] at member
  exact absurd (List.mem_filter.mp member).2 (by decide)

theorem component?_up_iff {text : String} :
    component? (componentOf text) = some .up ↔ LeadsUp text := by
  rw [← componentOf_eq_up_iff]
  unfold FilePath.component?
  split
  · next blank =>
      have other : componentOf text ≠ ".." := by
        rintro up
        rw [up] at blank
        exact absurd blank (by decide)
      simp [other]
  · split <;> simp [*]

theorem names_of_not_leadsUp {text : String} (stays : ¬LeadsUp text) :
    ∃ names : List String, names.length ≤ 1 ∧ (∀ name ∈ names, IsName name) ∧
      (component? (componentOf text)).toList = names.map .name := by
  by_cases blank : componentOf text = "" ∨ componentOf text = "."
  · have nothing : component? (componentOf text) = none := by
      rcases blank with empty | here
      · rw [empty]
        rfl
      · rw [here]
        rfl
    rw [nothing]
    exact ⟨[], Nat.zero_le 1, List.forall_mem_nil _, rfl⟩
  · rw [not_or] at blank
    have notUp : componentOf text ≠ ".." := fun up => stays (componentOf_eq_up_iff.mp up)
    have isName : IsName (componentOf text) := ⟨blank.1, blank.2, notUp, componentOf_plain text⟩
    rw [isName.component]
    exact ⟨[componentOf text], Nat.le_refl 1, List.forall_mem_singleton.mpr isName, rfl⟩

/-! ### The digest -/

private theorem digitChar_plain :
    ∀ digit < 16, Nat.digitChar digit ≠ '.' ∧ Nat.digitChar digit ≠ '/' := by
  decide

theorem isName_md5 (bytes : Bytes) : IsName (Bytes.md5 bytes) := by
  have digits : ∀ c ∈ (Bytes.md5 bytes).toList, c ≠ '.' ∧ c ≠ '/' := by
    intro c member
    unfold Bytes.md5 at member
    dsimp only at member
    rw [String.toList_ofList] at member
    obtain ⟨byte, -, digit⟩ := List.mem_flatMap.mp member
    have either : c ∈ [Nat.digitChar (byte.toNat / 16), Nat.digitChar (byte.toNat % 16)] := digit
    have small := byte.toNat_lt
    simp only [List.mem_cons, List.not_mem_nil, or_false] at either
    rcases either with rfl | rfl
    · exact digitChar_plain _ (by omega)
    · exact digitChar_plain _ (by omega)
  have filled : ∃ c rest, (Bytes.md5 bytes).toList = c :: rest := by
    unfold Bytes.md5
    dsimp only
    rw [String.toList_ofList]
    exact ⟨_, _, rfl⟩
  have pointless (text : String) (pointed : '.' ∈ text.toList) : Bytes.md5 bytes ≠ text := by
    rintro rfl
    exact (digits '.' pointed).1 rfl
  refine ⟨?_, pointless "." (by decide), pointless ".." (by decide), fun member =>
    (digits '/' member).2 rfl⟩
  intro empty
  obtain ⟨c, rest, shape⟩ := filled
  rw [empty] at shape
  exact nomatch shape

/-! ### The path -/

def digestOf (key : ObjectKey) : String :=
  Bytes.md5 (Bytes.ofText key.text)

def StartsHere (key : ObjectKey) : Prop :=
  componentOf key.space = "." ∨ (componentOf key.space = "" ∧ componentOf key.name = ".")

instance (key : ObjectKey) : Decidable (StartsHere key) :=
  inferInstanceAs (Decidable (_ ∨ _))

theorem components_pushAll_name {root space name last : String} (spacePlain : '/' ∉ space.toList)
    (namePlain : '/' ∉ name.toList) (isName : IsName last) :
    components (FilePath.pushAll root [space, name, last]) =
      components root ++ ((if root = "" ∧ (space = "." ∨ (space = "" ∧ name = ".")) then [.here] else []) ++
        (component? space).toList ++ (component? name).toList ++ [.name last]) := by
  change components (FilePath.push (FilePath.push (FilePath.push root space) name) last) = _
  by_cases present : root = ""
  · subst present
    have noComponents : components "" = [] := rfl
    have noComponent : component? "" = none := rfl
    rw [FilePath.push_empty]
    by_cases spaceEmpty : space = ""
    · subst spaceEmpty
      rw [FilePath.push_empty]
      by_cases nameEmpty : name = ""
      · subst nameEmpty
        rw [FilePath.push_empty, FilePath.components_of_plain isName.plain, if_neg isName.notHere,
          isName.component]
        rfl
      · rw [FilePath.components_push isName nameEmpty, FilePath.components_of_plain namePlain]
        by_cases here : name = "."
        · subst here
          rfl
        · simp [here, noComponents, noComponent]
    · have spacePresent := FilePath.push_present namePlain spaceEmpty
      rw [FilePath.components_push isName spacePresent,
        FilePath.components_push_of_plain namePlain spaceEmpty,
        FilePath.components_of_plain spacePlain]
      by_cases here : space = "."
      · subst here
        rfl
      · simp [here, spaceEmpty, noComponents]
  · have once := FilePath.push_present spacePlain present
    have twice := FilePath.push_present namePlain once
    rw [FilePath.components_push isName twice, FilePath.components_push_of_plain namePlain once,
      FilePath.components_push_of_plain spacePlain present, if_neg fun both => present both.1]
    simp

theorem components_directoryOf (root : String) (key : ObjectKey) :
    components (directoryOf root key) =
      components root ++ ((if root = "" ∧ StartsHere key then [.here] else []) ++
        (component? (componentOf key.space)).toList ++ (component? (componentOf key.name)).toList ++
          [.name (digestOf key)]) :=
  components_pushAll_name (componentOf_plain key.space) (componentOf_plain key.name) (isName_md5 _)

/-- A path that leads down from a root by at most three names. -/
def LiesBelow (root path : String) : Prop :=
  ∃ names : List String, names.length ≤ 3 ∧ (∀ name ∈ names, IsName name) ∧
    components path = components root ++ names.map .name

/-- A component holds no slash, and is a step up exactly for a text that leads up. Working copies lie
below the root, by at most three names, for all keys but those with such a text; and under an empty root
the path must not start with a point. -/
theorem liesBelow_iff (root : String) (key : ObjectKey) :
    (LiesBelow root (directoryOf root key) ↔
        ¬LeadsUp key.space ∧ ¬LeadsUp key.name ∧ (root ≠ "" ∨ ¬StartsHere key)) ∧
      ∀ text, '/' ∉ (componentOf text).toList ∧ (componentOf text = ".." ↔ LeadsUp text) := by
  refine ⟨?_, fun text => ⟨componentOf_plain text, componentOf_eq_up_iff⟩⟩
  unfold LiesBelow
  rw [components_directoryOf]
  constructor
  · rintro ⟨names, -, -, whole⟩
    have parts := List.append_cancel_left whole
    have named (part : Component) (listed : part ∈ names.map Component.name) :
        part ≠ .up ∧ part ≠ .here := by
      obtain ⟨name, -, rfl⟩ := List.mem_map.mp listed
      exact ⟨Component.noConfusion, Component.noConfusion⟩
    rw [← parts] at named
    refine ⟨?_, ?_, ?_⟩
    · intro up
      exact (named .up (by simp [component?_up_iff.mpr up])).1 rfl
    · intro up
      exact (named .up (by simp [component?_up_iff.mpr up])).1 rfl
    · apply Classical.byContradiction
      intro none
      rw [not_or, Classical.not_not, Classical.not_not] at none
      exact (named .here (by simp [none.1, none.2])).2 rfl
  · rintro ⟨spaceStays, nameStays, starts⟩
    obtain ⟨spaces, spaceCount, areSpaces, spaceParts⟩ := names_of_not_leadsUp spaceStays
    obtain ⟨inner, innerCount, areInner, innerParts⟩ := names_of_not_leadsUp nameStays
    have unled : ¬(root = "" ∧ StartsHere key) := fun both => starts.elim (· both.1) (· both.2)
    refine ⟨spaces ++ inner ++ [digestOf key], ?_, ?_, ?_⟩
    · simp only [List.length_append, List.length_singleton]
      omega
    · intro name member
      simp only [List.mem_append, List.mem_singleton] at member
      rcases member with (listed | listed) | rfl
      · exact areSpaces name listed
      · exact areInner name listed
      · exact isName_md5 _
    · rw [if_neg unled, spaceParts, innerParts]
      simp

/-! ### A key that leads out of the root -/

def outside : ObjectKey := ⟨".$.", ".$."⟩

private theorem leaves_root :
    components (directoryOf "/git" outside) =
      [.root, .name "git", .up, .up, .name (digestOf outside)] := by
  rw [components_directoryOf]
  rfl

theorem not_always_below : ¬∀ (root : String) (key : ObjectKey), LiesBelow root (directoryOf root key) := by
  intro always
  obtain ⟨names, -, -, whole⟩ := always "/git" outside
  have top : components "/git" = [.root, .name "git"] := rfl
  rw [leaves_root, top] at whole
  have parts : [.up, .up, .name (digestOf outside)] = names.map Component.name :=
    (List.cons.inj (List.cons.inj whole).2).2
  cases names with
  | nil => exact nomatch parts
  | cons name rest => exact Component.noConfusion (List.cons.inj parts).1

end GitDelivery.WorkingCopy
