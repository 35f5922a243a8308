import GitDelivery.Proofs.Work

set_option autoImplicit false

/-! What delivery reads on the outside, and how that changes. Subscriptions are edited, and every edit
raises the generation; jobs may come and go until they report success, and then keep reporting it.
Reads may fail, but they never give anything else than what is there. -/

namespace GitDelivery.Delivery

open Work

/-- A revision of a subscription is the newer one or the same. Edits of what a subscription asks for
raise its generation. -/
structure Revises (older newer : Subscription) : Prop where
  key : newer.key = older.key
  generation : ∃ first second, older.metadata.generation = some first ∧
    newer.metadata.generation = some second ∧ first ≤ second
  spec : newer.metadata.generation = older.metadata.generation → newer.spec = older.spec

namespace Revises

variable {first second third : Subscription}

theorem trans (early : Revises first second) (late : Revises second third) :
    Revises first third := by
  obtain ⟨low, middle, firstIs, secondIs, lower⟩ := early.generation
  obtain ⟨middle', high, secondIs', thirdIs, upper⟩ := late.generation
  obtain rfl : middle = middle' := Option.some.inj (secondIs.symm.trans secondIs')
  refine ⟨late.key.trans early.key, ⟨low, high, firstIs, thirdIs, Int.le_trans lower upper⟩, ?_⟩
  intro same
  rw [firstIs, thirdIs] at same
  have equal : high = low := Option.some.inj same
  have unchanged : middle = low := by omega
  have laterSpec := late.spec (by rw [thirdIs, secondIs, equal, unchanged])
  have earlierSpec := early.spec (by rw [secondIs, firstIs, unchanged])
  exact laterSpec.trans earlierSpec

theorem channelKey (revises : Revises first second)
    (same : second.metadata.generation = first.metadata.generation) :
    second.channelKey = first.channelKey := by
  unfold Subscription.channelKey
  have space : second.space = first.space := congrArg ObjectKey.space revises.key
  rw [space, revises.spec same]

end Revises

/-- Objects that are there, by their keys, and what would be checked out. Every subscription has a
generation. -/
structure Outside where
  subscription? : ObjectKey → Option Subscription
  channel? : ObjectKey → Option Channel
  job? : ObjectKey → Option HookJob
  checkout? : CloneOptions → Option Checkout
  key : ∀ name stored, subscription? name = some stored → stored.key = name
  generation : ∀ name stored, subscription? name = some stored →
    ∃ number, stored.metadata.generation = some number

namespace Outside

def Succeeded (outside : Outside) (key : ObjectKey) : Prop :=
  ∃ job, outside.job? key = some job ∧ job.hasSucceeded = true

/-- What can be answered to a request: a failure, or what is there. Nothing is said about requests for
other objects, or about what is done rather than read. -/
def Answers (outside : Outside) : (request : Request) → request.Reply → Prop
  | .subscription key => fun reply => ∀ found, reply = .ok found → found = outside.subscription? key
  | .channel key => fun reply => ∀ found, reply = .ok found → found = outside.channel? key
  | .job key => fun reply => ∀ found, reply = .ok found → found = outside.job? key
  | .clone options _ => fun reply => ∀ found, reply = .ok found →
      outside.checkout? options = some found
  | _ => fun _ => True

structure Evolves (before after : Outside) : Prop where
  subscriptions : ∀ key stored, before.subscription? key = some stored →
    ∃ newer, after.subscription? key = some newer ∧ Revises stored newer
  jobs : ∀ key, before.Succeeded key → after.Succeeded key

namespace Evolves

theorem refl (outside : Outside) : Evolves outside outside := by
  refine ⟨?_, fun _ succeeded => succeeded⟩
  intro key stored there
  obtain ⟨number, numbered⟩ := outside.generation key stored there
  exact ⟨stored, there, rfl, ⟨number, number, numbered, numbered, Int.le_refl number⟩, fun _ => rfl⟩

private theorem trans {first second third : Outside} (early : Evolves first second)
    (late : Evolves second third) : Evolves first third := by
  refine ⟨?_, fun key succeeded => late.jobs key (early.jobs key succeeded)⟩
  intro key stored there
  obtain ⟨middle, between, older⟩ := early.subscriptions key stored there
  obtain ⟨newer, present, newest⟩ := late.subscriptions key middle between
  exact ⟨newer, present, older.trans newest⟩

end Evolves

/-- Time has passed during some work. Channels are not edited meanwhile. -/
structure Meanwhile (before after : Outside) : Prop where
  evolves : Evolves before after
  channels : after.channel? = before.channel?

theorem Meanwhile.refl (outside : Outside) : Meanwhile outside outside :=
  ⟨.refl outside, rfl⟩

theorem Meanwhile.trans {first second third : Outside} (early : Meanwhile first second)
    (late : Meanwhile second third) : Meanwhile first third :=
  ⟨early.evolves.trans late.evolves, late.channels.trans early.channels⟩

/-- The outside answers everything that some work asks, and changes between the answers. -/
inductive Plays : Outside → Log → Outside → Prop where
  | quiet {before after : Outside} (meanwhile : Meanwhile before after) : Plays before [] after
  | answer {before between after : Outside} {request : Request} {reply : request.Reply} {rest : Log}
      (meanwhile : Meanwhile before between) (answers : between.Answers request reply)
      (later : Plays between rest after) : Plays before (⟨request, reply⟩ :: rest) after

def AnswersBetween (before after : Outside) (entry : (request : Request) × request.Reply) : Prop :=
  ∃ between, Meanwhile before between ∧ Meanwhile between after ∧
    between.Answers entry.1 entry.2

def Answered (before after : Outside) (log : Log) : Prop :=
  ∀ entry ∈ log, AnswersBetween before after entry

namespace Answered

variable {before after : Outside} {log : Log} {key : ObjectKey}

theorem append_iff {first second : Log} :
    Answered before after (first ++ second) ↔
      Answered before after first ∧ Answered before after second :=
  List.forall_mem_append

theorem subscription {found : Option Subscription} (answered : Answered before after log)
    (member : ⟨.subscription key, .ok found⟩ ∈ log) :
    ∃ between : Outside, Evolves before between ∧ Evolves between after ∧
      between.subscription? key = found := by
  obtain ⟨between, first, last, reply⟩ := answered _ member
  exact ⟨between, first.evolves, last.evolves, (reply found rfl).symm⟩

theorem channel {found : Option Channel} (answered : Answered before after log)
    (member : ⟨.channel key, .ok found⟩ ∈ log) : before.channel? key = found := by
  obtain ⟨between, first, last, reply⟩ := answered _ member
  rw [← first.channels]
  exact (reply found rfl).symm

theorem job {found : HookJob} (answered : Answered before after log)
    (member : ⟨.job key, .ok (some found)⟩ ∈ log) (succeeded : found.hasSucceeded = true) :
    after.Succeeded key := by
  obtain ⟨between, first, last, reply⟩ := answered _ member
  exact last.evolves.jobs key ⟨found, (reply (some found) rfl).symm, succeeded⟩

end Answered

structure Happened (history : Log) (before after : Outside) (log : Log) : Prop where
  inside : log <:+: history
  answered : Answered before after log

theorem Happened.split {history first second : Log} {before after : Outside}
    (happened : Happened history before after (first ++ second)) :
    Happened history before after first ∧ Happened history before after second := by
  obtain ⟨answeredFirst, answeredSecond⟩ := Answered.append_iff.mp happened.answered
  have early : first <:+: first ++ second := (List.prefix_append first second).isInfix
  have late : second <:+: first ++ second := (List.suffix_append first second).isInfix
  exact ⟨⟨early.trans happened.inside, answeredFirst⟩, ⟨late.trans happened.inside, answeredSecond⟩⟩

namespace Plays

variable {before after : Outside} {log : Log}

theorem meanwhile (plays : Plays before log after) : Meanwhile before after := by
  induction plays with
  | quiet meanwhile => exact meanwhile
  | answer meanwhile _ _ ih => exact meanwhile.trans ih

theorem next {request : Request} {reply : request.Reply} (answers : before.Answers request reply)
    (later : Plays before log after) : Plays before (⟨request, reply⟩ :: log) after :=
  .answer (.refl before) answers later

theorem answered (plays : Plays before log after) : Answered before after log := by
  induction plays with
  | quiet meanwhile =>
      intro entry member
      cases member
  | answer meanwhile answers later ih =>
      intro entry member
      rcases List.mem_cons.mp member with rfl | inside
      · exact ⟨_, meanwhile, later.meanwhile, answers⟩
      · obtain ⟨between, first, last, replied⟩ := ih entry inside
        exact ⟨between, meanwhile.trans first, last, replied⟩

end Plays

end Outside

end GitDelivery.Delivery
