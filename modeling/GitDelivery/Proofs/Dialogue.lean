import GitDelivery.Dialogue

set_option autoImplicit false

/-! How dialogues end: what is asked and answered by work that is made of parts, and by work that may
fail. Every dialogue ends, whatever the answers. -/

namespace GitDelivery.Dialogue

variable {Request : Type} {Reply : Request → Type} {α β : Type}

abbrev History (Reply : Request → Type) := List ((request : Request) × Reply request)

theorem ends_pure_iff {value result : α} {history : History Reply} :
    Ends (pure value : Dialogue Request Reply α) history result ↔ history = [] ∧ result = value := by
  constructor
  · intro ended
    change Ends (done value) history result at ended
    cases ended
    exact ⟨rfl, rfl⟩
  · rintro ⟨rfl, rfl⟩
    exact .done result

theorem ends_request_iff {request : Request} {reply : Reply request} {history : History Reply} :
    Ends (Dialogue.request request : Dialogue Request Reply (Reply request)) history reply ↔
      history = [⟨request, reply⟩] := by
  constructor
  · intro ended
    unfold Dialogue.request at ended
    cases ended with
    | ask rest =>
        cases rest
        rfl
  · rintro rfl
    exact .ask (.done reply)

theorem ends_bind {first : Dialogue Request Reply α} {next : α → Dialogue Request Reply β}
    {before after : History Reply} {value : α} {result : β}
    (start : Ends first before value) (rest : Ends (next value) after result) :
    Ends (first >>= next) (before ++ after) result := by
  induction start with
  | done value => exact rest
  | ask _ ih => exact .ask (ih rest)

theorem ends_bind_iff {first : Dialogue Request Reply α} {next : α → Dialogue Request Reply β}
    {history : History Reply} {result : β} :
    Ends (first >>= next) history result ↔
      ∃ before value after, Ends first before value ∧ Ends (next value) after result ∧
        history = before ++ after := by
  constructor
  · intro ended
    induction first generalizing history with
    | done value => exact ⟨[], value, history, .done value, ended, rfl⟩
    | ask request answer ih =>
        change Ends (ask request fun reply => (answer reply).bind next) history result at ended
        cases ended with
        | @ask _ _ reply rest _ later =>
            obtain ⟨before, value, after, start, last, rfl⟩ := ih reply later
            exact ⟨⟨request, reply⟩ :: before, value, after, .ask start, last, rfl⟩
  · rintro ⟨before, value, after, start, rest, rfl⟩
    exact ends_bind start rest

/-- Once the first part has ended, only the second part is left. -/
theorem ends_bind_after_iff {first : Dialogue Request Reply α} {next : α → Dialogue Request Reply β}
    {before after : History Reply} {value : α} {result : β} (start : Ends first before value) :
    Ends (first >>= next) (before ++ after) result ↔ Ends (next value) after result := by
  constructor
  · intro ended
    induction start with
    | done value => exact ended
    | @ask request answer reply history value _ ih =>
        change Ends (ask request fun reply => (answer reply).bind next)
          (⟨request, reply⟩ :: (history ++ after)) result at ended
        cases ended with
        | ask rest => exact ih rest
  · exact ends_bind start

/-- The answers decide how work goes on, so that it ends in one way before anything that follows. -/
theorem ends_unique {work : Dialogue Request Reply α} {before other after rest : History Reply}
    {value result : α} (ended : Ends work before value) (again : Ends work other result)
    (same : before ++ after = other ++ rest) : before = other ∧ value = result ∧ after = rest := by
  induction ended generalizing other with
  | done value =>
      cases again
      exact ⟨rfl, rfl, same⟩
  | @ask request next reply history value _ ih =>
      cases again with
      | @ask _ _ given later _ last =>
          rw [List.cons_append, List.cons_append, List.cons.injEq] at same
          obtain ⟨first, others⟩ := same
          cases first
          obtain ⟨rfl, values, rests⟩ := ih last others
          exact ⟨rfl, values, rests⟩

/-- Work goes on after some answers: something is still to be asked. -/
def Continues (work : Dialogue Request Reply α) (history : History Reply) : Prop :=
  ∃ rest result, rest ≠ [] ∧ Ends work (history ++ rest) result

theorem Continues.extends {work : Dialogue Request Reply α} {history early late rest : History Reply}
    {result : α} (continues : Continues work history) (ended : Ends work early result)
    (same : early ++ late = history ++ rest) : ∃ more, early = history ++ more := by
  obtain ⟨asked, value, pending, known⟩ := continues
  rcases List.append_eq_append_iff.mp same with ⟨missing, whole, _⟩ | ⟨more, longer, _⟩
  · -- work that ended within the history would not go on after it
    have split : early ++ (missing ++ asked) = (history ++ asked) ++ [] := by
      rw [whole, List.append_nil, List.append_assoc]
    obtain ⟨stopped, _, nothing⟩ := ends_unique ended known split
    have none : asked = [] := (List.append_eq_nil_iff.mp nothing).2
    exact absurd none pending
  · exact ⟨more, longer⟩

theorem ends_bind_continues_iff {first : Dialogue Request Reply α}
    {next : α → Dialogue Request Reply β} {history rest : History Reply} {result : β}
    (continues : Continues first history) :
    Ends (first >>= next) (history ++ rest) result ↔
      ∃ early value late, Ends first (history ++ early) value ∧ Ends (next value) late result ∧
        rest = early ++ late := by
  constructor
  · intro ended
    obtain ⟨before, value, late, start, last, same⟩ := ends_bind_iff.mp ended
    obtain ⟨early, rfl⟩ := continues.extends start same.symm
    rw [List.append_assoc] at same
    exact ⟨early, value, late, start, last, List.append_cancel_left same⟩
  · rintro ⟨early, value, late, start, last, rfl⟩
    rw [← List.append_assoc]
    exact ends_bind start last

theorem ends_map_iff {work : Dialogue Request Reply α} {f : α → β} {history : History Reply}
    {result : β} :
    Ends (f <$> work) history result ↔ ∃ value, Ends work history value ∧ result = f value := by
  change Ends (work >>= fun value => pure (f value)) history result ↔ _
  rw [ends_bind_iff]
  constructor
  · rintro ⟨before, value, after, start, rest, rfl⟩
    obtain ⟨rfl, rfl⟩ := ends_pure_iff.mp rest
    rw [List.append_nil]
    exact ⟨value, start, rfl⟩
  · rintro ⟨value, start, rfl⟩
    exact ⟨history, value, [], start, ends_pure_iff.mpr ⟨rfl, rfl⟩, by simp⟩

/-! ### Work that may fail -/

section

variable {ε δ : Type}

/-- Work in two parts fails with the first part or goes on with its value. -/
theorem ends_run_bind_iff {first : ExceptT ε (Dialogue Request Reply) α}
    {next : α → ExceptT ε (Dialogue Request Reply) β} {history : History Reply}
    {result : Except ε β} :
    Ends (first >>= next).run history result ↔
      (∃ error, Ends first.run history (.error error) ∧ result = .error error) ∨
        ∃ before value after, Ends first.run before (.ok value) ∧
          Ends (next value).run after result ∧ history = before ++ after := by
  rw [ExceptT.run_bind, ends_bind_iff]
  constructor
  · rintro ⟨before, outcome, after, start, rest, rfl⟩
    cases outcome with
    | error error =>
        obtain ⟨rfl, rfl⟩ := ends_pure_iff.mp rest
        rw [List.append_nil]
        exact .inl ⟨error, start, rfl⟩
    | ok value => exact .inr ⟨before, value, after, start, rest, rfl⟩
  · rintro (⟨error, start, rfl⟩ | ⟨before, value, after, start, rest, rfl⟩)
    · exact ⟨history, .error error, [], start, ends_pure_iff.mpr ⟨rfl, rfl⟩, by simp⟩
    · exact ⟨before, .ok value, after, start, rest, rfl⟩

theorem ends_run_bind_after_iff {first : ExceptT ε (Dialogue Request Reply) α}
    {next : α → ExceptT ε (Dialogue Request Reply) β} {before after : History Reply} {value : α}
    {result : Except ε β} (start : Ends first.run before (.ok value)) :
    Ends (first >>= next).run (before ++ after) result ↔ Ends (next value).run after result := by
  rw [ExceptT.run_bind, ends_bind_after_iff start]

theorem ends_run_bind_failed_iff {first : ExceptT ε (Dialogue Request Reply) α}
    {next : α → ExceptT ε (Dialogue Request Reply) β} {before after : History Reply} {error : ε}
    {result : Except ε β} (start : Ends first.run before (.error error)) :
    Ends (first >>= next).run (before ++ after) result ↔ after = [] ∧ result = .error error := by
  rw [ExceptT.run_bind, ends_bind_after_iff start]
  exact ends_pure_iff

theorem ends_run_pure_iff {value : α} {history : History Reply} {result : Except ε α} :
    Ends (pure value : ExceptT ε (Dialogue Request Reply) α).run history result ↔
      history = [] ∧ result = .ok value :=
  ends_pure_iff

theorem ends_run_bind_pure_iff {work : ExceptT ε (Dialogue Request Reply) α} {f : α → β}
    {history : History Reply} {result : Except ε β} :
    Ends (work >>= fun value => pure (f value)).run history result ↔
      ∃ outcome, Ends work.run history outcome ∧ result = outcome.map f := by
  rw [ends_run_bind_iff]
  constructor
  · rintro (⟨error, failed, rfl⟩ | ⟨before, value, after, start, last, rfl⟩)
    · exact ⟨.error error, failed, rfl⟩
    · obtain ⟨rfl, rfl⟩ := ends_run_pure_iff.mp last
      rw [List.append_nil]
      exact ⟨.ok value, start, rfl⟩
  · rintro ⟨outcome, ended, rfl⟩
    cases outcome with
    | error error => exact .inl ⟨error, ended, rfl⟩
    | ok value =>
        exact .inr ⟨history, value, [], ended, ends_run_pure_iff.mpr ⟨rfl, rfl⟩,
          (List.append_nil history).symm⟩

theorem ends_run_throw_iff {error : ε} {history : History Reply} {result : Except ε α} :
    Ends (throw error : ExceptT ε (Dialogue Request Reply) α).run history result ↔
      history = [] ∧ result = .error error :=
  ends_pure_iff

theorem ends_run_lift_iff {work : Dialogue Request Reply α} {history : History Reply}
    {result : Except ε α} :
    Ends (liftM work : ExceptT ε (Dialogue Request Reply) α).run history result ↔
      ∃ value, Ends work history value ∧ result = .ok value :=
  ends_map_iff

theorem ends_run_lift_bind_iff {work : Dialogue Request Reply α}
    {next : α → ExceptT ε (Dialogue Request Reply) β} {history : History Reply}
    {result : Except ε β} :
    Ends (liftM work >>= next).run history result ↔
      ∃ before value after, Ends work before value ∧ Ends (next value).run after result ∧
        history = before ++ after := by
  rw [ends_run_bind_iff]
  constructor
  · rintro (⟨error, failed, _⟩ | ⟨before, value, after, lifted, rest, rfl⟩)
    · obtain ⟨_, _, impossible⟩ := ends_run_lift_iff.mp failed
      cases impossible
    · obtain ⟨given, ended, same⟩ := ends_run_lift_iff.mp lifted
      cases same
      exact ⟨before, value, after, ended, rest, rfl⟩
  · rintro ⟨before, value, after, ended, rest, rfl⟩
    exact .inr ⟨before, value, after, ends_run_lift_iff.mpr ⟨value, ended, rfl⟩, rest, rfl⟩

/-- Failures may be given another meaning; nothing else changes. -/
theorem ends_run_adapt_iff {work : ExceptT ε (Dialogue Request Reply) α} {meaning : ε → δ}
    {history : History Reply} {result : Except δ α} :
    Ends (ExceptT.adapt meaning work).run history result ↔
      ∃ outcome, Ends work.run history outcome ∧ result = outcome.mapError meaning :=
  ends_map_iff

/-- What follows a failure is up to the handler; anything else is kept. -/
theorem ends_run_tryCatch_iff {work : ExceptT ε (Dialogue Request Reply) α}
    {handle : ε → ExceptT ε (Dialogue Request Reply) α} {history : History Reply}
    {result : Except ε α} :
    Ends (tryCatch work handle).run history result ↔
      (∃ value, Ends work.run history (.ok value) ∧ result = .ok value) ∨
        ∃ before error after, Ends work.run before (.error error) ∧
          Ends (handle error).run after result ∧ history = before ++ after := by
  change Ends (ExceptT.tryCatch work handle).run history result ↔ _
  unfold ExceptT.tryCatch
  rw [ExceptT.run_mk, ends_bind_iff]
  constructor
  · rintro ⟨before, outcome, after, start, rest, rfl⟩
    cases outcome with
    | ok value =>
        obtain ⟨rfl, rfl⟩ := ends_pure_iff.mp rest
        rw [List.append_nil]
        exact .inl ⟨value, start, rfl⟩
    | error error => exact .inr ⟨before, error, after, start, rest, rfl⟩
  · rintro (⟨value, start, rfl⟩ | ⟨before, error, after, start, rest, rfl⟩)
    · exact ⟨history, .ok value, [], start, ends_pure_iff.mpr ⟨rfl, rfl⟩, by simp⟩
    · exact ⟨before, .error error, after, start, rest, rfl⟩

end

/-! ### Why work fails -/

/-- Whatever the answers are, the work fails only for reasons of a kind. -/
def FailsFor {ε : Type} (kind : ε → Prop) (work : ExceptT ε (Dialogue Request Reply) α) : Prop :=
  ∀ history error, Ends work.run history (.error error) → kind error

section

variable {ε : Type} {kind : ε → Prop}

theorem failsFor_pure (value : α) :
    FailsFor kind (pure value : ExceptT ε (Dialogue Request Reply) α) := by
  intro history error ended
  cases (ends_run_pure_iff.mp ended).2

theorem failsFor_throw {error : ε} (reason : kind error) :
    FailsFor kind (throw error : ExceptT ε (Dialogue Request Reply) α) := by
  intro history other ended
  cases (ends_run_throw_iff.mp ended).2
  exact reason

theorem failsFor_lift (work : Dialogue Request Reply α) :
    FailsFor kind (liftM work : ExceptT ε (Dialogue Request Reply) α) := by
  intro history error ended
  obtain ⟨value, _, impossible⟩ := ends_run_lift_iff.mp ended
  cases impossible

theorem failsFor_bind {first : ExceptT ε (Dialogue Request Reply) α}
    {next : α → ExceptT ε (Dialogue Request Reply) β} (start : FailsFor kind first)
    (rest : ∀ before value, Ends first.run before (.ok value) → FailsFor kind (next value)) :
    FailsFor kind (first >>= next) := by
  intro history error ended
  rcases ends_run_bind_iff.mp ended with ⟨reason, failed, same⟩ | ⟨before, value, after, first, last, _⟩
  · cases same
    exact start history error failed
  · exact rest before value first after error last

end

/-! ### Answering -/

def answeredBy (answer : (request : Request) → Reply request) :
    Dialogue Request Reply α → History Reply × α
  | done result => ([], result)
  | ask request next =>
    let (history, result) := (next (answer request)).answeredBy answer
    (⟨request, answer request⟩ :: history, result)

theorem ends_answeredBy (answer : (request : Request) → Reply request)
    (work : Dialogue Request Reply α) :
    Ends work (work.answeredBy answer).1 (work.answeredBy answer).2 := by
  induction work with
  | done result => exact .done result
  | ask request next ih => exact .ask (ih (answer request))

theorem mem_answeredBy {answer : (request : Request) → Reply request}
    {work : Dialogue Request Reply α} {entry : (request : Request) × Reply request}
    (member : entry ∈ (work.answeredBy answer).1) : entry.2 = answer entry.1 := by
  induction work with
  | done result => cases member
  | ask request next ih =>
      rcases List.mem_cons.mp member with rfl | later
      · rfl
      · exact ih (answer request) later

/-! ### What is asked -/

/-- Whatever the answers are, everything that is asked is allowed. -/
def Only (allowed : Request → Prop) : Dialogue Request Reply α → Prop
  | done _ => True
  | ask request next => allowed request ∧ ∀ reply, Only allowed (next reply)

section

variable {allowed : Request → Prop} {ε δ : Type}

theorem only_history {work : Dialogue Request Reply α} {history : History Reply} {result : α}
    (only : Only allowed work) (ended : Ends work history result) :
    ∀ entry ∈ history, allowed entry.1 := by
  induction ended with
  | done result =>
      intro entry member
      cases member
  | ask rest ih =>
      intro entry member
      rcases List.mem_cons.mp member with rfl | later
      · exact only.1
      · exact ih (only.2 _) entry later

theorem Only.weaken {wider : Request → Prop} {work : Dialogue Request Reply α}
    (only : Only allowed work) (implies : ∀ request, allowed request → wider request) :
    Only wider work := by
  induction work with
  | done result => trivial
  | ask request next ih =>
      constructor
      · exact implies request only.1
      · intro reply
        exact ih reply (only.2 reply)

theorem only_pure (value : α) : Only allowed (pure value : Dialogue Request Reply α) :=
  trivial

theorem only_request {request : Request} (ok : allowed request) :
    Only allowed (Dialogue.request request : Dialogue Request Reply (Reply request)) :=
  ⟨ok, fun _ => trivial⟩

theorem only_bind {first : Dialogue Request Reply α} {next : α → Dialogue Request Reply β}
    (start : Only allowed first) (rest : ∀ value, Only allowed (next value)) :
    Only allowed (first >>= next) := by
  induction first with
  | done value => exact rest value
  | ask request answer ih =>
      constructor
      · exact start.1
      · intro reply
        exact ih reply (start.2 reply)

theorem only_map {work : Dialogue Request Reply α} (f : α → β) (only : Only allowed work) :
    Only allowed (f <$> work) :=
  only_bind only fun value => only_pure (f value)

theorem only_run_bind {first : ExceptT ε (Dialogue Request Reply) α}
    {next : α → ExceptT ε (Dialogue Request Reply) β}
    (start : Only allowed first.run) (rest : ∀ value, Only allowed (next value).run) :
    Only allowed (first >>= next).run := by
  rw [ExceptT.run_bind]
  refine only_bind start ?_
  intro outcome
  cases outcome with
  | error error => exact only_pure _
  | ok value => exact rest value

theorem only_run_pure (value : α) :
    Only allowed (pure value : ExceptT ε (Dialogue Request Reply) α).run :=
  trivial

theorem only_run_throw (error : ε) :
    Only allowed (throw error : ExceptT ε (Dialogue Request Reply) α).run :=
  trivial

theorem only_run_lift {work : Dialogue Request Reply α} (only : Only allowed work) :
    Only allowed (liftM work : ExceptT ε (Dialogue Request Reply) α).run :=
  only_map _ only

theorem only_run_adapt {work : ExceptT ε (Dialogue Request Reply) α} (meaning : ε → δ)
    (only : Only allowed work.run) : Only allowed (ExceptT.adapt meaning work).run :=
  only_map _ only

end

end GitDelivery.Dialogue
