import GitDelivery.Proofs.Cluster.Deployment

set_option autoImplicit false

/-! What writing an object and deleting it send: one request to the address of the object, or nothing
if the object has no address that can be written. -/

namespace GitDelivery

open Dialogue Cluster

namespace Exchange

variable {served : ServedKind} {space : Option String} {name : String} {history : Exchanges}

def writeAddress (served : ServedKind) (space : Option String) (name : String) (dryRun : Bool) :
    String :=
  withParameters
    ((if dryRun then [("dryRun", "All")] else []) ++
      [("force", "true"), ("fieldManager", Vocabulary.fieldManager)])
    (served.address space ++ "/" ++ name)

def deletionAddress (served : ServedKind) (space : Option String) (name : String) : String :=
  withParameters [] (served.address space ++ "/" ++ name)

def isReachable (name address : String) : Bool :=
  !name.isEmpty && isSendable address

theorem send_ends_iff {verb : Verb} {address : String} {body : Option Json}
    {outcome : Except ApiError Json} :
    Ends (send verb address body).run history outcome ↔
      if isSendable address then
        ∃ reply : Except Refusal Json,
          history = [⟨.send verb address body, reply⟩] ∧ outcome = reply.mapError .refused
      else history = [] ∧ outcome = .error .unsendable := by
  unfold send
  rw [ExceptT.run_mk]
  by_cases sendable : isSendable address = true
  · simp only [sendable, if_true, ends_bind_iff]
    constructor
    · rintro ⟨asking, reply, after, asked, rest, rfl⟩
      obtain rfl := ends_request_iff.mp asked
      obtain ⟨rfl, rfl⟩ := ends_pure_iff.mp rest
      exact ⟨reply, rfl, rfl⟩
    · rintro ⟨reply, rfl, rfl⟩
      exact ⟨_, reply, [], ends_request_iff.mpr rfl, ends_pure_iff.mpr ⟨rfl, rfl⟩, rfl⟩
  · simp only [sendable]
    exact ends_pure_iff

theorem ends_at_address_iff {α : Type} {work : String → ExceptT ApiError Exchange α}
    {outcome : Except ApiError α} :
    Ends (addressOf served space name >>= work).run history outcome ↔
      if name.isEmpty then history = [] ∧ outcome = .error .unsendable
      else Ends (work (served.address space ++ "/" ++ name)).run history outcome := by
  have address : Ends (addressOf served space name).run [] (if name.isEmpty then .error .unsendable
      else .ok (served.address space ++ "/" ++ name)) := ends_pure_iff.mpr ⟨rfl, rfl⟩
  cases nameless : name.isEmpty with
  | true =>
      rw [nameless, if_pos rfl] at address
      rw [if_pos rfl]
      exact ends_run_bind_failed_iff address
  | false =>
      rw [nameless, if_neg Bool.false_ne_true] at address
      rw [if_neg Bool.false_ne_true]
      exact ends_run_bind_after_iff address

theorem apply_ends_iff {dryRun : Bool} {object : Json} {outcome : Except ApiError Json} :
    Ends (apply served space name dryRun object).run history outcome ↔
      if isReachable name (writeAddress served space name dryRun) then
        ∃ reply : Except Refusal Json,
          history = [⟨.send .patch (writeAddress served space name dryRun) (some object), reply⟩] ∧
          outcome = reply.mapError .refused
      else history = [] ∧ outcome = .error .unsendable := by
  unfold apply isReachable writeAddress
  rw [ends_at_address_iff]
  cases name.isEmpty with
  | true => rw [if_pos rfl, Bool.not_true, Bool.false_and, if_neg Bool.false_ne_true]
  | false =>
      rw [if_neg Bool.false_ne_true, Bool.not_false, Bool.true_and]
      exact send_ends_iff

/-- What an answer to a deletion means: an object that is not there is gone, too. -/
def deletionVerdict : Except ApiError Json → Except ApiError Unit
  | .ok _ => .ok ()
  | .error error => if error.hasCode Refusal.notFound.code then .ok () else .error error

private theorem ends_handled_iff {error : ApiError} {outcome : Except ApiError Unit} :
    Ends (if error.hasCode Refusal.notFound.code then pure () else throw error :
        ExceptT ApiError Exchange Unit).run history outcome ↔
      history = [] ∧ outcome = deletionVerdict (.error error) := by
  change _ ↔ history = [] ∧
    outcome = if error.hasCode Refusal.notFound.code then .ok () else .error error
  cases error.hasCode Refusal.notFound.code with
  | true => exact ends_run_pure_iff
  | false => exact ends_run_throw_iff

private theorem ends_forgiving_iff {work : ExceptT ApiError Exchange Json}
    {outcome : Except ApiError Unit} :
    Ends (tryCatch (work >>= fun _ => pure ()) fun error =>
        if error.hasCode Refusal.notFound.code then pure () else throw error).run history outcome ↔
      ∃ answer, Ends work.run history answer ∧ outcome = deletionVerdict answer := by
  simp only [ends_run_tryCatch_iff, ends_run_bind_pure_iff, ends_handled_iff]
  constructor
  · rintro (⟨value, ⟨answer, ended, same⟩, rfl⟩ |
      ⟨before, error, after, ⟨answer, ended, same⟩, ⟨rfl, rfl⟩, rfl⟩)
    · cases answer with
      | ok answer => exact ⟨.ok answer, ended, rfl⟩
      | error reason => cases same
    · cases answer with
      | ok answer => cases same
      | error reason =>
          cases same
          rw [List.append_nil]
          exact ⟨.error error, ended, rfl⟩
  · rintro ⟨answer, ended, rfl⟩
    cases answer with
    | ok answer => exact .inl ⟨(), ⟨.ok answer, ended, rfl⟩, rfl⟩
    | error error =>
        exact .inr ⟨history, error, [], ⟨.error error, ended, rfl⟩, ⟨rfl, rfl⟩,
          (List.append_nil history).symm⟩

def deletionBody : Json := .ofFields [("propagationPolicy", .text "Background")]

theorem delete_ends_iff {outcome : Except ApiError Unit} :
    Ends (delete served space name).run history outcome ↔
      if isReachable name (deletionAddress served space name) then
        ∃ reply : Except Refusal Json,
          history =
            [⟨.send .delete (deletionAddress served space name) (some deletionBody), reply⟩] ∧
          outcome = deletionVerdict (reply.mapError .refused)
      else history = [] ∧ outcome = .error .unsendable := by
  unfold delete isReachable deletionAddress
  rw [ends_at_address_iff]
  cases name.isEmpty with
  | true => rw [if_pos rfl, Bool.not_true, Bool.false_and, if_neg Bool.false_ne_true]
  | false =>
      rw [if_neg Bool.false_ne_true, Bool.not_false, Bool.true_and]
      refine Iff.trans ends_forgiving_iff ?_
      generalize withParameters [] (served.address space ++ "/" ++ name) = address
      simp only [send_ends_iff]
      by_cases sendable : isSendable address = true
      · simp only [sendable, if_true]
        constructor
        · rintro ⟨_, ⟨reply, rfl, rfl⟩, rfl⟩
          exact ⟨reply, rfl, rfl⟩
        · rintro ⟨reply, rfl, rfl⟩
          exact ⟨_, ⟨reply, rfl, rfl⟩, rfl⟩
      · simp only [sendable]
        constructor
        · rintro ⟨_, ⟨rfl, rfl⟩, rfl⟩
          exact ⟨rfl, rfl⟩
        · rintro ⟨rfl, rfl⟩
          exact ⟨_, ⟨rfl, rfl⟩, rfl⟩

end Exchange

end GitDelivery
