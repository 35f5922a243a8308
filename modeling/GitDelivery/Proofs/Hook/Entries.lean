import GitDelivery.Proofs.Hook.Ledger
import GitDelivery.Proofs.Resource.Key

set_option autoImplicit false

/-! What a ledger shows after anything was entered into it: the jobs to run are the ones registered last
since it was continued, and the jobs submitted are the last that were new to it. -/

namespace GitDelivery.JobLedger

inductive Entry where
  | register (template : String) (job : HookJob)
  | record (key : ObjectKey)
  | continuing

def enter (limit : Nat) (ledger : JobLedger) : Entry → JobLedger
  | .register template job => ledger.register template job
  | .record key => ledger.recordApplied limit key
  | .continuing => ledger.continuing

def ofEntries (limit : Nat) (entries : List Entry) : JobLedger :=
  entries.foldl (enter limit) {}

/-! ### What was entered -/

def registeredAfter (registered : List (String × HookJob)) : Entry → List (String × HookJob)
  | .register template job => registered ++ [(template, job)]
  | .record _ => registered
  | .continuing => []

def registered (entries : List Entry) : List (String × HookJob) :=
  entries.foldl registeredAfter []

def recorded (entries : List Entry) : List ObjectKey :=
  entries.filterMap fun
    | .record key => some key
    | _ => none

/-- A key is new to a ledger if the ledger does not remember it when it is recorded. -/
def newTo (ledger : JobLedger) : Entry → List ObjectKey
  | .record key => if key ∈ ledger.applied then [] else [key]
  | .register _ _ => []
  | .continuing => []

def admittedFrom (limit : Nat) : JobLedger → List Entry → List ObjectKey
  | _, [] => []
  | ledger, entry :: rest => ledger.newTo entry ++ admittedFrom limit (ledger.enter limit entry) rest

/-- The keys that were new when they were recorded, in this order. A key that was forgotten is new
again. -/
def admitted (limit : Nat) (entries : List Entry) : List ObjectKey :=
  admittedFrom limit {} entries

variable {limit : Nat} {entries : List Entry} {ledger : JobLedger} {key : ObjectKey}

private theorem ofEntries_concat (entry : Entry) :
    ofEntries limit (entries ++ [entry]) = (ofEntries limit entries).enter limit entry := by
  unfold ofEntries
  rw [List.foldl_append]
  rfl

private theorem registered_concat (entry : Entry) :
    registered (entries ++ [entry]) = registeredAfter (registered entries) entry := by
  unfold registered
  rw [List.foldl_append]
  rfl

private theorem admittedFrom_concat (ledger : JobLedger) (entry : Entry) :
    admittedFrom limit ledger (entries ++ [entry]) =
      admittedFrom limit ledger entries ++ (entries.foldl (enter limit) ledger).newTo entry := by
  induction entries generalizing ledger with
  | nil => exact List.append_nil _
  | cons first rest ih =>
      rw [List.cons_append, admittedFrom, ih, admittedFrom, List.append_assoc]
      rfl

private theorem admitted_concat (entry : Entry) :
    admitted limit (entries ++ [entry]) =
      admitted limit entries ++ (ofEntries limit entries).newTo entry :=
  admittedFrom_concat {} entry

private theorem recorded_of_admittedFrom (member : key ∈ admittedFrom limit ledger entries) :
    key ∈ recorded entries := by
  induction entries generalizing ledger with
  | nil => cases member
  | cons entry rest ih =>
      rcases List.mem_append.mp member with here | later
      · cases entry with
        | register | continuing => cases here
        | record other =>
            rw [newTo] at here
            split at here
            · cases here
            · cases List.mem_singleton.mp here
              exact List.mem_cons_self
      · have inside := ih later
        cases entry with
        | register | continuing => exact inside
        | record => exact List.mem_cons_of_mem _ inside

/-! ### The last of a list -/

section

variable {α : Type} {items : List α}

private theorem length_lastOf (limit : Nat) (items : List α) :
    (lastOf limit items).length = min items.length limit := by
  unfold lastOf
  rw [List.length_drop]
  omega

/-- Taking the last ones once more, after one was added, is taking them of everything. -/
theorem lastOf_concat {limit : Nat} (positive : 0 < limit) (item : α) :
    lastOf limit (lastOf limit items ++ [item]) = lastOf limit (items ++ [item]) := by
  unfold lastOf
  have short : (items.drop (items.length - limit)).length ≤ limit := by
    rw [List.length_drop]
    omega
  rw [List.drop_append_of_le_length (by simp; omega), List.drop_append_of_le_length (by simp; omega),
    List.drop_drop]
  congr 2
  simp only [List.length_append, List.length_drop, List.length_singleton]
  omega

end

/-! ### What is remembered -/

/-- Of the keys that were new, the last ones are remembered, none of them twice. -/
structure Remembers (limit : Nat) (admitted applied : List ObjectKey) : Prop where
  last : applied = lastOf (max limit 1) admitted
  distinct : applied.Nodup

private theorem Remembers.record {admitted : List ObjectKey} (key : ObjectKey)
    (remembers : Remembers limit admitted ledger.applied) :
    Remembers limit (admitted ++ ledger.newTo (.record key))
      (ledger.recordApplied limit key).applied := by
  rw [newTo, recordApplied]
  by_cases known : key ∈ ledger.applied
  · rw [if_pos known, if_pos (List.contains_iff_mem.mpr known), List.append_nil]
    exact remembers
  · rw [if_neg known, if_neg fun found => known (List.contains_iff_mem.mp found)]
    have positive : 0 < max limit 1 := by omega
    constructor
    · change lastOf (max limit 1) (ledger.applied ++ [key]) = _
      rw [remembers.last, lastOf_concat positive]
    · have fresh : (ledger.applied ++ [key]).Nodup := by
        rw [← List.concat_eq_append]
        exact remembers.distinct.concat known
      exact fresh.sublist (List.drop_sublist _ _)

structure Tells (limit : Nat) (entries : List Entry) (ledger : JobLedger) : Prop where
  current : KeepsLast (registered entries) ledger.current
  applied : Remembers limit (admitted limit entries) ledger.applied

private theorem Tells.enter (tells : Tells limit entries (ofEntries limit entries)) (entry : Entry) :
    Tells limit (entries ++ [entry]) (ofEntries limit (entries ++ [entry])) := by
  obtain ⟨current, applied⟩ := tells
  constructor
  · rw [ofEntries_concat, registered_concat]
    cases entry with
    | register template job => exact current.register template job
    | record key =>
        change KeepsLast _ (recordApplied limit key _).current
        rwa [current_recordApplied]
    | continuing => exact .empty
  · rw [ofEntries_concat, admitted_concat]
    cases entry with
    | record key => exact applied.record key
    | register | continuing =>
        rw [newTo, List.append_nil]
        exact applied

private theorem tells_ofEntries (limit : Nat) (entries : List Entry) :
    Tells limit entries (ofEntries limit entries) := by
  induction entries using List.reverseRecOn with
  | nil =>
      refine ⟨.empty, ?_, List.nodup_nil⟩
      unfold lastOf
      exact List.drop_nil.symm
  | append_singleton entries entry ih => exact ih.enter entry

/-- After any entries, the jobs to run are one for each name registered since the ledger was continued
last, in the order in which the names first came up, each the last one of its name. The jobs submitted
are the last ones that were new when they were recorded; none is remembered twice, and the last of them
is the one submitted last. Their texts differ if no namespace has a slash in it. Continuing a ledger
changes nothing but the jobs to run. -/
theorem shows_last_entries (limit : Nat) (entries : List Entry) :
    List.Forall₂ (fun name job => lastUnder? name (registered entries) = some job)
        ((registered entries).map Prod.fst).eraseDups (ofEntries limit entries).latest ∧
      (∃ keys, keys <:+ admitted limit entries ∧
        keys.length = min (admitted limit entries).length (max limit 1) ∧ keys.Nodup ∧
        (ofEntries limit entries).history = keys.map ObjectKey.text ∧
        (ofEntries limit entries).lastApplied? = keys.getLast?) ∧
      ((∀ key ∈ recorded entries, key.IsPlain) → (ofEntries limit entries).history.Nodup) ∧
      (ofEntries limit entries).continuing = { ofEntries limit entries with templates := [] } := by
  obtain ⟨⟨names, last⟩, ⟨applied, distinct⟩⟩ := tells_ofEntries limit entries
  refine ⟨?_, ⟨_, ?_, ?_, distinct, rfl, rfl⟩, ?_, rfl⟩
  · rw [← names]
    unfold latest
    rw [List.forall₂_map_left_iff, List.forall₂_map_right_iff, List.forall₂_same]
    exact fun entry member => last entry.1 entry.2 member
  · rw [applied]
    exact List.drop_suffix _ _
  · rw [applied]
    exact length_lastOf _ _
  · intro plain
    have known : ∀ key ∈ (ofEntries limit entries).applied, key.IsPlain := by
      intro key member
      rw [applied] at member
      exact plain key (recorded_of_admittedFrom (List.mem_of_mem_drop member))
    refine distinct.map_on ?_
    intro first one second other same
    exact ObjectKey.text_inj (known first one) (known second other) same

end GitDelivery.JobLedger
