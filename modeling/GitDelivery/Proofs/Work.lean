import GitDelivery.Proofs.Dialogue
import GitDelivery.Work

set_option autoImplicit false

/-! How the parts of delivery that ask something end. -/

namespace GitDelivery.Work

open Dialogue

abbrev Log := History Request.Reply

variable {ε α : Type} {log : Log}

theorem ends_ask_iff {request : Request} {reply : request.Reply} :
    Ends (ask request) log reply ↔ log = [⟨request, reply⟩] :=
  ends_request_iff

theorem ends_attempt_iff {failed : String → ε} {work : Work (Except String α)}
    {result : Except ε α} :
    Ends (attempt failed work).run log result ↔
      ∃ outcome, Ends work log outcome ∧ result = outcome.mapError failed := by
  unfold attempt
  rw [ExceptT.run_mk, ends_bind_iff]
  constructor
  · rintro ⟨before, outcome, after, start, rest, rfl⟩
    cases outcome with
    | ok value =>
        obtain ⟨rfl, rfl⟩ := ends_pure_iff.mp rest
        rw [List.append_nil]
        exact ⟨.ok value, start, rfl⟩
    | error reason =>
        obtain ⟨rfl, rfl⟩ := ends_pure_iff.mp rest
        rw [List.append_nil]
        exact ⟨.error reason, start, rfl⟩
  · rintro ⟨outcome, start, rfl⟩
    refine ⟨log, outcome, [], start, ?_, (List.append_nil log).symm⟩
    cases outcome with
    | ok value => exact ends_pure_iff.mpr ⟨rfl, rfl⟩
    | error reason => exact ends_pure_iff.mpr ⟨rfl, rfl⟩

theorem ends_known_iff {known result : Except ε α} :
    Ends (Work.known known).run log result ↔ log = [] ∧ result = known :=
  ends_pure_iff

theorem failsFor_known {kind : ε → Prop} {known : Except ε α}
    (reasons : ∀ error, known = .error error → kind error) : FailsFor kind (Work.known known) := by
  intro history error ended
  exact reasons error (ends_known_iff.mp ended).2.symm

section

variable {allowed : Request → Prop}

theorem only_ask {request : Request} (ok : allowed request) : Only allowed (ask request) :=
  only_request ok

theorem only_attempt {failed : String → ε} {work : Work (Except String α)}
    (only : Only allowed work) : Only allowed (attempt failed work).run := by
  refine only_bind only ?_
  intro outcome
  cases outcome with
  | ok value => exact only_pure _
  | error reason => exact only_pure _

theorem only_known (result : Except ε α) : Only allowed (known result).run :=
  only_pure result

end

def IsDeployment : Request → Prop
  | .deploy _ => True
  | _ => False

/-- Something was brought onto a cluster, or at least it was tried. -/
def Deploys (log : Log) : Prop :=
  ∃ entry ∈ log, IsDeployment entry.1

theorem not_deploys_of_only {work : Work α} {result : α}
    (only : Only (fun request => ¬ IsDeployment request) work) (ended : Ends work log result) :
    ¬ Deploys log := by
  rintro ⟨entry, member, deployment⟩
  exact only_history only ended entry member deployment

theorem deploys_append_iff {before after : Log} :
    Deploys (before ++ after) ↔ Deploys before ∨ Deploys after := by
  unfold Deploys
  simp only [List.mem_append, or_and_right, exists_or]

def isFetch : Request → Bool
  | .clone _ _ => true
  | _ => false

def Clones (log : Log) : Prop :=
  ∃ entry ∈ log, isFetch entry.1 = true

instance (log : Log) : Decidable (Clones log) :=
  inferInstanceAs (Decidable (∃ entry ∈ log, isFetch entry.1 = true))

theorem clones_append_iff {before after : Log} :
    Clones (before ++ after) ↔ Clones before ∨ Clones after := by
  unfold Clones
  simp only [List.mem_append, or_and_right, exists_or]

def statusWrites (log : Log) : List (ObjectKey × SubscriptionStatus) :=
  log.filterMap fun entry =>
    match entry.1 with
    | .writeStatus key status => some (key, status)
    | _ => none

theorem statusWrites_append (before after : Log) :
    statusWrites (before ++ after) = statusWrites before ++ statusWrites after :=
  List.filterMap_append

def IsStatusWrite : Request → Prop
  | .writeStatus _ _ => True
  | _ => False

theorem statusWrites_eq_nil (others : ∀ entry ∈ log, ¬ IsStatusWrite entry.1) :
    statusWrites log = [] := by
  refine List.filterMap_eq_nil_iff.mpr ?_
  rintro ⟨request, reply⟩ member
  have other : ¬ IsStatusWrite request := others _ member
  cases request <;> first | rfl | exact absurd trivial other

/-! ### What requests of one kind carry -/

/-- What the requests of a kind carry, in the order in which they were asked. -/
def carried {β : Type} (kind : Request → Option β) (log : Log) : List β :=
  log.filterMap fun entry => kind entry.1

section

variable {β : Type} {kind : Request → Option β}

theorem carried_append (before after : Log) :
    carried kind (before ++ after) = carried kind before ++ carried kind after :=
  List.filterMap_append

theorem carried_eq_nil (others : ∀ entry ∈ log, kind entry.1 = none) : carried kind log = [] :=
  List.filterMap_eq_nil_iff.mpr others

end

def deployment? : Request → Option Batch
  | .deploy batch => some batch
  | _ => none

def overallReport? : Request → Option (Subscription × Bool × String)
  | .reportOverall subscription failed message => some (subscription, failed, message)
  | _ => none

theorem carried_deployments_eq_nil (silent : ¬ Deploys log) : carried deployment? log = [] := by
  apply carried_eq_nil
  rintro ⟨request, reply⟩ member
  cases request <;> first | rfl | exact absurd ⟨_, member, trivial⟩ silent

end GitDelivery.Work
