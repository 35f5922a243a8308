import GitDelivery.Yaml.Value
import Mathlib.Control.Monad.Basic

set_option autoImplicit false

/-! What is known of every value that a document gives: no mapping in it has two keys that count as
equal. Last, the tokens of mappings that are written in braces. -/

namespace GitDelivery.Yaml

open Document (Reading)

/-! ### What reading gives -/

section

variable {α β : Type} {property : α → Prop} {other : β → Prop}

/-- Whatever the reading gives, from however many references followed before, has a property. -/
def Yields (property : α → Prop) (reading : Reading α) : Prop :=
  ∀ before value after, reading before = .ok (value, after) → property value

theorem yields_pure {value : α} (holds : property value) : Yields property (pure value) := by
  intro before result after read
  cases read
  exact holds

theorem yields_throw (failure : Failure) : Yields property (throw failure : Reading α) := by
  intro before value after read
  cases read

private theorem yields_except {result : Except Failure α}
    (holds : ∀ value, result = .ok value → property value) :
    Yields property (liftM result : Reading α) := by
  intro before value after read
  cases result with
  | error failure => cases read
  | ok given =>
      cases read
      exact holds _ rfl

theorem yields_bind {first : Reading α} {next : α → Reading β} (start : Yields property first)
    (rest : ∀ value, property value → Yields other (next value)) : Yields other (first >>= next) := by
  intro before result after read
  change (do let (value, middle) ← first before; next value middle) = .ok (result, after) at read
  cases ran : first before with
  | error failure =>
      rw [ran] at read
      cases read
  | ok pair =>
      obtain ⟨value, middle⟩ := pair
      rw [ran] at read
      exact rest value (start before value middle ran) middle result after read

private theorem yields_anything (reading : Reading α) : Yields (fun _ => True) reading :=
  fun _ _ _ _ => trivial

private theorem yields_mapM {items : List β} {read : β → Reading α}
    (each : ∀ item, Yields property (read item)) :
    Yields (fun values => ∀ value ∈ values, property value) (items.mapM read) := by
  induction items with
  | nil =>
      rw [List.mapM_nil]
      exact yields_pure (by simp)
  | cons item rest ih =>
      rw [List.mapM_cons]
      refine yields_bind (each item) fun first holds => ?_
      refine yields_bind ih fun others hold => ?_
      refine yields_pure ?_
      intro value member
      rcases List.mem_cons.mp member with rfl | later
      · exact holds
      · exact hold value later

end

/-! ### Distinct keys -/

namespace Value

def IsScalar : Value → Prop
  | .sequence _ | .mapping _ | .tagged _ _ => False
  | _ => True

/-- No two keys of any mapping in the value count as equal. -/
inductive Distinct : Value → Prop where
  | scalar {value : Value} : value.IsScalar → Distinct value
  | sequence {items : List Value} : (∀ item ∈ items, Distinct item) → Distinct (.sequence items)
  | mapping {entries : List (Value × Value)} : (∀ entry ∈ entries, Distinct entry.2) →
      entries.Pairwise (fun earlier later => earlier.1.same later.1 = false) →
      Distinct (.mapping entries)
  | tagged {tag : String} {value : Value} : Distinct value → Distinct (.tagged tag value)

end Value

open Value

theorem isScalar_of_int {text : String} {value : Value}
    (read : Plain.int? text = .ok (some value)) : value.IsScalar := by
  unfold Plain.int? at read
  split at read
  · split at read
    · cases read
      trivial
    · split at read <;> cases read
  · cases read

private theorem isScalar_of_plain {text : String} {value : Value}
    (read : Plain.value text = .ok value) :
    value.IsScalar := by
  unfold Plain.value at read
  simp only [bind, Except.bind, pure, Except.pure] at read
  split at read
  · cases read
    trivial
  · split at read
    · cases read
      trivial
    · split at read
      · cases read
      · rename_i whole
        split at read
        · cases read
          exact isScalar_of_int whole
        · split at read
          · cases read
            trivial
          · split at read <;> cases read <;> trivial

private theorem isScalar_of_scalarValue {text : String} {isPlain : Bool} {tag : Option String}
    {value : Value} (read : scalarValue text isPlain tag = .ok value) : value.IsScalar := by
  unfold scalarValue at read
  split at read
  · split at read <;> cases read
    trivial
  · split at read
    · rename_i whole
      cases read
      exact isScalar_of_int whole
    · cases read
    · cases read
  · split at read <;> cases read
    trivial
  · split at read <;> cases read
    trivial
  · cases read
    trivial
  · split at read
    · exact isScalar_of_plain read
    · cases read
      trivial

namespace Document

private theorem distinct_wrap {tag : Option String} {value : Value} (distinct : value.Distinct) :
    (valueLevel.wrap tag value).Distinct := by
  unfold valueLevel.wrap
  split
  · exact .tagged distinct
  · exact distinct

theorem yields_distinctEntries {read : Node → Reading Value} (each : ∀ node, Yields Distinct (read node))
    (nodes : List (Node × Node)) (seen : List (Value × Value))
    (distinct : ∀ entry ∈ seen, entry.2.Distinct)
    (apart : seen.Pairwise fun later earlier => earlier.1.same later.1 = false) :
    Yields (fun entries => (Value.mapping entries).Distinct) (distinctEntries seen nodes read) := by
  induction nodes generalizing seen with
  | nil =>
      refine yields_pure (.mapping ?_ ?_)
      · intro entry member
        exact distinct entry (List.mem_reverse.mp member)
      · exact List.pairwise_reverse.mpr apart
  | cons pair rest ih =>
      obtain ⟨keyNode, valueNode⟩ := pair
      refine yields_bind (each keyNode) fun key _ => ?_
      dsimp only
      split
      · have stops : Yields (fun _ => False) (throw .duplicateKey : Reading Unit) := yields_throw _
        exact yields_bind stops fun _ impossible => impossible.elim
      · rename_i fresh
        refine yields_bind (each valueNode) fun value holds => ?_
        refine ih ((key, value) :: seen) ?_ ?_
        · intro entry member
          rcases List.mem_cons.mp member with rfl | earlier
          · exact holds
          · exact distinct entry earlier
        · refine List.pairwise_cons.mpr ⟨?_, apart⟩
          intro earlier member
          have none := List.any_eq_false.mp (Bool.eq_false_iff.mpr fresh) earlier member
          exact Bool.eq_false_iff.mpr none

theorem yields_readValue (document : Document) (limit depth : Nat) (node : Node) :
    Yields Distinct (document.readValue limit depth node) := by
  have level (below : Option (Node → Reading Value))
      (holds : ∀ read, below = some read → ∀ node, Yields Distinct (read node)) (node : Node) :
      Yields Distinct (valueLevel below node) := by
    unfold valueLevel
    split
    · exact yields_throw _
    · split
      · refine yields_bind (yields_except fun value read => isScalar_of_scalarValue read) ?_
        intro value scalar
        exact yields_pure (.tagged (.scalar scalar))
      · exact yields_except fun value read => .scalar (isScalar_of_scalarValue read)
    · split
      · exact yields_throw _
      · rename_i read
        exact yields_bind (yields_mapM (holds read rfl)) fun values hold =>
          yields_pure (distinct_wrap (.sequence hold))
    · split
      · exact yields_throw _
      · rename_i read
        refine yields_bind (yields_distinctEntries (holds read rfl) _ [] ?_ List.Pairwise.nil) fun values hold =>
          yields_pure (distinct_wrap hold)
        intro entry none
        cases none
  induction depth generalizing node with
  | zero =>
      refine yields_bind (yields_anything _) fun target _ => level none ?_ target
      intro read impossible
      cases impossible
  | succ depth ih =>
      refine yields_bind (yields_anything _) fun target _ => level _ ?_ target
      intro read same
      cases same
      exact ih

end Document

theorem distinct_of_parse {text : String} {value : Value} (parsed : parse text = .ok value) :
    value.Distinct := by
  unfold parse at parsed
  cases read : Document.ofText text with
  | error failure =>
      rw [read] at parsed
      cases parsed
  | ok document =>
      rw [read] at parsed
      change document.value = .ok value at parsed
      unfold Document.value at parsed
      split at parsed
      · cases parsed
        exact .scalar trivial
      · rename_i root known
        change (document.readValue document.limitOf Document.depthLimit root 0).map Prod.fst =
          .ok value at parsed
        cases ran : document.readValue document.limitOf Document.depthLimit root 0 with
        | error failure =>
            rw [ran] at parsed
            cases parsed
        | ok pair =>
            rw [ran] at parsed
            cases parsed
            exact Document.yields_readValue document _ _ root 0 pair.1 pair.2 ran

/-! ### Mappings in braces -/

def quoted (text : String) : List Token := [.scalar text false]

/-- The tokens of a mapping in braces whose keys are quoted. -/
def braced (entries : List (String × List Token)) : List Token :=
  let each := entries.map fun (key, value) => [.key, .scalar key false, .value] ++ value
  .flowMappingStart :: ([Token.flowEntry].intercalate each ++ [.flowMappingEnd])

end GitDelivery.Yaml
