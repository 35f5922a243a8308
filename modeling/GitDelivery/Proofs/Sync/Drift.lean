import GitDelivery.Proofs.Sync.Check
import Mathlib.Algebra.Group.Nat.Defs

set_option autoImplicit false

/-! Ticks that are skipped because nothing changed. They are counted from one fetch to the next, and
the count decides when a fetch is due although nothing changed. -/

namespace GitDelivery.SyncItem

open Dialogue Work

section

variable {context : Context} {trigger : Trigger} {item next : SyncItem} {log : Log}
  {result : TickResult} {options : CloneOptions} {drift : DriftWindow}

/-! ### Counting -/

namespace Tick

def isUnchanged (tick : Tick) : Bool :=
  match tick.result with
  | .ok (.skipped .unchangedCommit) => true
  | _ => false

theorem isUnchanged_iff {tick : Tick} :
    tick.isUnchanged = true ↔ tick.result = .ok (.skipped .unchangedCommit) := by
  unfold isUnchanged
  split
  · next same => simp [same]
  · next other => simpa using other

def isCheck (tick : Tick) : Bool :=
  tick.isUnchanged || Decidable.decide (Clones tick.log)

end Tick

variable {tick : Tick} {ticks : List Tick} {first last : SyncItem} {limit : Nat}

theorem Makes.isCheck_iff (made : Makes context item tick next) :
    tick.isCheck = true ↔ Reaches tick.trigger item tick.log := by
  unfold Tick.isCheck
  rw [Bool.or_eq_true, Tick.isUnchanged_iff, decide_eq_true_iff]
  cases made.checking with
  | unchecked early quiet other idle same =>
      refine iff_of_false ?_ early
      rintro (skips | fetches)
      · exact other skips
      · exact quiet fetches
  | skipped shape decides quiet skips =>
      rw [shape]
      exact iff_of_true (.inl skips) decides.reaches
  | fetched shape decides fetches other =>
      refine iff_of_true (.inr fetches) ?_
      rw [shape]
      exact decides.reaches

structure IsBounded (limit : Nat) (item : SyncItem) : Prop where
  same : item.drift.limit = limit
  below : item.drift.ticks < limit

private theorem isBounded_ofSubscription (settings : Settings) (subscription : Subscription) :
    IsBounded (max settings.forcedResyncTicks 1) (.ofSubscription settings subscription) := by
  constructor
  · rfl
  · exact Nat.lt_of_lt_of_le Nat.zero_lt_one (Nat.le_max_right _ _)

theorem Makes.isBounded (made : Makes context item tick next) (bounded : IsBounded limit item) :
    IsBounded limit next := by
  obtain ⟨same, below⟩ := bounded
  cases made.checking with
  | unchecked early quiet other idle kept =>
      constructor
      · rw [kept, same]
      · rw [kept]
        exact below
  | skipped shape decides quiet skips =>
      obtain ⟨_, verdict, _⟩ := decides.verdict
      obtain ⟨_, _, _, _, _, early, counted⟩ := verdict.of_skip
      constructor
      · rw [counted, ← same]
      · rw [counted, ← same]
        exact early
  | fetched shape decides fetches other =>
      obtain ⟨_, verdict, _⟩ := decides.verdict
      rcases verdict.of_resync with restarted | ⟨_, kept⟩
      · constructor
        · rw [restarted, ← same]
          rfl
        · rw [restarted]
          exact Nat.zero_lt_of_lt below
      · constructor
        · rw [kept, same]
        · rw [kept]
          exact below

theorem Turns.isBounded (run : Turns context first ticks last) (bounded : IsBounded limit first) :
    IsBounded limit last := by
  induction run with
  | nil item => exact bounded
  | cons made later ih => exact ih (made.isBounded bounded)

theorem Turns.split {earlier later : List Tick} (run : Turns context first (earlier ++ later) last) :
    ∃ between, Turns context first earlier between ∧ Turns context between later last := by
  induction earlier generalizing first with
  | nil => exact ⟨first, .nil first, run⟩
  | cons tick rest ih =>
      cases run with
      | cons made later =>
          obtain ⟨between, start, rest⟩ := ih later
          exact ⟨between, .cons made start, rest⟩

private theorem Makes.counts (made : Makes context item tick next) (quiet : ¬ Clones tick.log) :
    next.drift.ticks = item.drift.ticks + if tick.isUnchanged then 1 else 0 := by
  cases made.checking with
  | unchecked early silent other idle kept =>
      have passed : ¬ tick.isUnchanged = true := fun skips => other (Tick.isUnchanged_iff.mp skips)
      rw [kept, if_neg passed]
      rfl
  | skipped shape decides silent skips =>
      obtain ⟨_, verdict, _⟩ := decides.verdict
      obtain ⟨_, _, _, _, _, _, counted⟩ := verdict.of_skip
      rw [counted, if_pos (Tick.isUnchanged_iff.mpr skips)]
  | fetched shape decides fetches other => exact absurd fetches quiet

/-- Without a fetch every tick that is skipped because nothing changed is counted. -/
theorem Turns.counts (run : Turns context first ticks last)
    (quiet : ∀ tick ∈ ticks, ¬ Clones tick.log) :
    last.drift.ticks = first.drift.ticks + ticks.countP Tick.isUnchanged := by
  induction run with
  | nil item => rfl
  | @cons item next last tick rest made later ih =>
      obtain ⟨head, others⟩ := List.forall_mem_cons.mp quiet
      rw [ih others, made.counts head, List.countP_cons]
      omega

/-! ### When a tick is skipped -/

private theorem Makes.of_unchanged (made : Makes context item tick next)
    (skips : tick.result = .ok (.skipped .unchangedCommit)) :
    ∃ commit, item.lastCommit = some commit ∧ commit ≠ "" ∧ item.successful = true ∧
      Probes tick.trigger item tick.log (.ok commit) := by
  cases made.checking with
  | unchecked early quiet other idle same => exact absurd skips other
  | fetched shape decides fetches other => exact absurd skips other
  | @skipped _ rest _ _ shape decides quiet result =>
      obtain ⟨_, verdict, probes⟩ := decides.verdict
      obtain ⟨commit, known, present, succeeded, asked, _⟩ := verdict.of_skip
      rw [shape]
      exact ⟨commit, known, present, succeeded, probes (.ok commit) rest asked⟩

private theorem latestCommit?_of_idle {ticks : List Tick} (idle : standing? ticks = none) :
    latestCommit? ticks = none := by
  induction ticks with
  | nil => rfl
  | cons tick rest ih =>
      rw [standing?_cons, Option.or_eq_none_iff] at idle
      obtain ⟨others, head⟩ := idle
      have passed : tick.result.isDecisive = false := by
        cases decisive : tick.result.isDecisive with
        | false => rfl
        | true =>
            rw [decisive, if_pos rfl] at head
            cases head
      rw [latestCommit?_cons, ih others, appliedCommit?_of_idle passed]
      rfl

private theorem latestCommit?_of_standing {ticks : List Tick} {count : Nat} {commit : String}
    (stands : standing? ticks = some (.ok (.applied count commit))) :
    latestCommit? ticks = some commit := by
  induction ticks with
  | nil => cases stands
  | cons tick rest ih =>
      rw [standing?_cons] at stands
      rw [latestCommit?_cons]
      cases others : standing? rest with
      | some result =>
          rw [others, Option.some_or] at stands
          rw [ih (others.trans stands), Option.some_or]
      | none =>
          rw [others, Option.none_or] at stands
          rw [latestCommit?_of_idle others, Option.none_or]
          split at stands
          · rw [Option.some.inj stands]
            rfl
          · cases stands

/-! ### A remote that does not change -/

theorem tick_rate (ended : Ends (item.tick context trigger) log (result, next)) :
    next.rate = item.rate := by
  obtain ⟨between, synced, rfl⟩ := tick_ends_iff.mp ended
  obtain ⟨successful, same⟩ := settle_eq between result
  rw [same]
  cases sync_course synced <;> rfl

/-- Every tick that asks where the remote is finds it at a commit, and every tick that fetches
deploys it. -/
inductive Steady (context : Context) (commit : String) : SyncItem → List Tick → SyncItem → Prop where
  | nil (item : SyncItem) : Steady context commit item [] item
  | cons {item next last : SyncItem} {tick : Tick} {rest : List Tick}
      (made : Makes context item tick next)
      (probed : ∀ answer, Probes tick.trigger item tick.log answer → answer = .ok commit)
      (synced : Clones tick.log → ∃ count, tick.result = .ok (.applied count commit))
      (later : Steady context commit next rest last) : Steady context commit item (tick :: rest) last

structure IsSettled (commit : String) (limit : Nat) (item : SyncItem) : Prop where
  rate : item.rate = .medium
  lastCommit : item.lastCommit = some commit
  successful : item.successful = true
  bounded : IsBounded limit item

theorem Makes.isSettled {count : Nat} {commit : String} (made : Makes context item tick next)
    (rate : item.rate = .medium) (bounded : IsBounded limit item)
    (applied : tick.result = .ok (.applied count commit)) :
    IsSettled commit limit next ∧ next.drift.ticks = 0 := by
  obtain ⟨log, ticked⟩ := made.ticked
  refine ⟨⟨?_, ?_, ?_, made.isBounded bounded⟩, ?_⟩
  · rw [tick_rate ticked, rate]
  · rw [tick_lastCommit ticked, applied]
    rfl
  · rw [tick_successful ticked, applied]
    rfl
  · cases made.checking with
    | unchecked early quiet other idle same =>
        rw [applied] at idle
        cases idle
    | skipped shape decides quiet skips =>
        rw [applied] at skips
        cases skips
    | fetched shape decides fetches other =>
        obtain ⟨_, verdict, _⟩ := decides.verdict
        rcases verdict.of_resync with restarted | ⟨off, _⟩
        · rw [restarted]
          rfl
        · rw [rate] at off
          cases off

theorem Verdict.due {reason : ResyncReason} {commit : String}
    (verdict : Verdict item options log (.resync reason) drift)
    (settled : IsSettled commit limit item) (present : commit ≠ "")
    (answers : ∀ answer, Ends options.remoteHead log answer → answer = .ok commit) :
    limit = item.drift.ticks + 1 := by
  obtain ⟨rate, lastCommit, successful, ⟨same, below⟩⟩ := settled
  cases verdict with
  | always off =>
      rw [rate] at off
      cases off
  | first on fresh =>
      rw [lastCommit] at fresh
      cases fresh
  | unanswered on known asked => cases answers _ asked
  | answered on known asked decided =>
      cases answers _ asked
      rw [lastCommit] at known
      cases known
      have goesOn : (item.drift.decide (some commit) commit item.successful).1 ≠ .skip := by
        rw [decided]
        rintro ⟨⟩
      rw [Ne, DriftWindow.decide_skip_iff] at goesOn
      have late : ¬ item.drift.ticks + 1 < item.drift.limit := fun early =>
        goesOn ⟨rfl, present, successful, early⟩
      omega

/-- What a tick does if nothing changed since an attempt that went well. -/
theorem IsSettled.step {commit : String} (settled : IsSettled commit limit item)
    (present : commit ≠ "") (made : Makes context item tick next)
    (probed : ∀ answer, Probes tick.trigger item tick.log answer → answer = .ok commit)
    (synced : Clones tick.log → ∃ count, tick.result = .ok (.applied count commit))
    (undisturbed : tick.isCheck = false → tick.result.isDecisive = false) :
    IsSettled commit limit next ∧
      if tick.isCheck then
        if limit = item.drift.ticks + 1 then Clones tick.log ∧ next.drift.ticks = 0
        else tick.result = .ok (.skipped .unchangedCommit) ∧
          next.drift.ticks = item.drift.ticks + 1
      else next.drift.ticks = item.drift.ticks := by
  obtain ⟨log, ticked⟩ := made.ticked
  have passes (idle : tick.result.isDecisive = false) : IsSettled commit limit next := by
    refine ⟨?_, ?_, ?_, made.isBounded settled.bounded⟩
    · rw [tick_rate ticked, settled.rate]
    · rw [tick_lastCommit ticked, appliedCommit?_of_idle idle, settled.lastCommit]
      rfl
    · rw [tick_successful ticked, idle, settled.successful]
      rfl
  cases made.checking with
  | unchecked early quiet other idle same =>
      have unseen : tick.isCheck = false := by
        rw [← Bool.not_eq_true, made.isCheck_iff]
        exact early
      refine ⟨passes (undisturbed unseen), ?_⟩
      rw [unseen, if_neg Bool.false_ne_true, same]
  | skipped shape decides quiet skips =>
      have idle : tick.result.isDecisive = false := by
        rw [skips]
        rfl
      have check : tick.isCheck = true := by
        unfold Tick.isCheck
        rw [Tick.isUnchanged_iff.mpr skips, Bool.true_or]
      obtain ⟨_, verdict, _⟩ := decides.verdict
      obtain ⟨_, _, _, _, _, early, counted⟩ := verdict.of_skip
      have notDue : ¬ limit = item.drift.ticks + 1 := by
        rw [← settled.bounded.same]
        omega
      refine ⟨passes idle, ?_⟩
      rw [check, if_pos rfl, if_neg notDue]
      exact ⟨skips, by rw [counted]⟩
  | @fetched _ rest _ _ reason shape decides fetches other =>
      have check : tick.isCheck = true := by
        unfold Tick.isCheck
        rw [decide_eq_true fetches, Bool.or_true]
      obtain ⟨count, applied⟩ := synced fetches
      obtain ⟨settledNext, restarted⟩ := made.isSettled settled.rate settled.bounded applied
      obtain ⟨_, verdict, probes⟩ := decides.verdict
      have due : limit = item.drift.ticks + 1 := by
        refine verdict.due settled present ?_
        intro answer asked
        refine probed answer ?_
        rw [shape]
        exact probes answer rest asked
      refine ⟨settledNext, ?_⟩
      rw [check, if_pos rfl, if_pos due]
      exact ⟨fetches, restarted⟩

private theorem dvd_succ_iff {count : Nat} (below : count < limit) :
    limit ∣ count + 1 ↔ limit = count + 1 := by
  constructor
  · intro divides
    have reached := Nat.le_of_dvd (Nat.succ_pos count) divides
    omega
  · rintro rfl
    exact Nat.dvd_refl _

/-- The ticks that come to the check are skipped until a fetch is due, again and again. -/
theorem Steady.pattern {commit : String} {later : List Tick}
    (steady : Steady context commit item later last) (settled : IsSettled commit limit item)
    (present : commit ≠ "")
    (undisturbed : ∀ tick ∈ later, tick.isCheck = false → tick.result.isDecisive = false)
    {index : Nat} {check : Tick} (found : (later.filter Tick.isCheck)[index]? = some check) :
    if limit ∣ item.drift.ticks + index + 1 then Clones check.log
    else check.result = .ok (.skipped .unchangedCommit) := by
  induction steady generalizing index with
  | nil item => cases found
  | @cons item next last tick rest made probed synced later ih =>
      obtain ⟨head, others⟩ := List.forall_mem_cons.mp undisturbed
      obtain ⟨settledNext, steps⟩ := settled.step present made probed synced head
      cases seen : tick.isCheck with
      | false =>
          rw [seen, if_neg Bool.false_ne_true] at steps
          rw [List.filter_cons_of_neg (by simp [seen])] at found
          rw [← steps]
          exact ih settledNext others found
      | true =>
          rw [seen, if_pos rfl] at steps
          rw [List.filter_cons_of_pos seen] at found
          cases index with
          | zero =>
              cases found
              simp only [Nat.add_zero, dvd_succ_iff settled.bounded.below]
              split at steps
              · next due =>
                  rw [if_pos due]
                  exact steps.1
              · next early =>
                  rw [if_neg early]
                  exact steps.1
          | succ index =>
              rw [List.getElem?_cons_succ] at found
              -- The tick was counted, or it has completed a window.
              have shift : limit ∣ item.drift.ticks + (index + 1) + 1 ↔
                  limit ∣ next.drift.ticks + index + 1 := by
                split at steps
                · next due =>
                    have whole : item.drift.ticks + (index + 1) + 1 =
                        limit + (next.drift.ticks + index + 1) := by omega
                    rw [whole]
                    exact Nat.dvd_add_right (Nat.dvd_refl limit)
                · have same : item.drift.ticks + (index + 1) + 1 = next.drift.ticks + index + 1 := by
                    omega
                  rw [same]
              simp only [shift]
              exact ih settledNext others found

/-- The number of ticks after which a fetch is due although nothing changed. -/
def windowOf (settings : Settings) : Nat := max settings.forcedResyncTicks 1

/-- After any ticks: a tick is skipped as unchanged only if the last tick that decided anything
deployed the commit that the remote has now. From one fetch to the next fewer ticks than the window
has are skipped so. If the remote stays at the commit that was deployed, every resync deploys it and
no tick fails before it comes to the check, then of the ticks that come to it every last one of a
window fetches, and the others are skipped. The count stays below the window. -/
theorem drift_window {settings : Settings} {subscription : Subscription} {turns : List Tick}
    (run : Turns context (.ofSubscription settings subscription) turns item) :
    (∀ tick next, Makes context item tick next →
      (tick.isCheck = true ↔ Reaches tick.trigger item tick.log) ∧
        (tick.result = .ok (.skipped .unchangedCommit) →
          ∃ count commit, standing? turns = some (.ok (.applied count commit)) ∧ commit ≠ "" ∧
            Probes tick.trigger item tick.log (.ok commit))) ∧
    (∀ before window after, turns = before ++ (window ++ after) →
      (∀ tick ∈ window, ¬ Clones tick.log) →
        window.countP Tick.isUnchanged ≤ windowOf settings - 1) ∧
    (∀ tick next later last count commit, Makes context item tick next →
      item.rate = .medium → tick.result = .ok (.applied count commit) → commit ≠ "" →
      Steady context commit next later last →
      (∀ other ∈ later, other.isCheck = false → other.result.isDecisive = false) →
        ∀ (index : Nat) check, (later.filter Tick.isCheck)[index]? = some check →
          if windowOf settings ∣ index + 1 then Clones check.log
          else check.result = .ok (.skipped .unchangedCommit)) ∧
    item.drift.ticks < windowOf settings ∧
    (settings.forcedResyncTicks < 2 ^ 32 → item.drift.ticks + 1 < 2 ^ 32) := by
  have initially := isBounded_ofSubscription settings subscription
  have bounded := run.isBounded initially
  refine ⟨?_, ?_, ?_, bounded.below, ?_⟩
  · intro tick next made
    refine ⟨made.isCheck_iff, ?_⟩
    intro skips
    obtain ⟨commit, known, present, succeeded, probes⟩ := made.of_unchanged skips
    obtain ⟨count, applied, stands⟩ := run.successful_iff.mp succeeded
    rw [run.lastCommit, latestCommit?_of_standing stands, Option.some_or] at known
    cases known
    exact ⟨count, commit, stands, present, probes⟩
  · intro before window after shape quiet
    subst shape
    obtain ⟨start, early, rest⟩ := run.split
    obtain ⟨stop, inside, _⟩ := rest.split
    have below := (inside.isBounded (early.isBounded initially)).below
    have counted := inside.counts quiet
    unfold windowOf
    omega
  · intro tick next later last count commit made rate applied present steady undisturbed index check
      found
    obtain ⟨settled, restarted⟩ := made.isSettled rate bounded applied
    have pattern := steady.pattern settled present undisturbed found
    rw [restarted, Nat.zero_add] at pattern
    exact pattern
  · intro small
    have below := bounded.below
    omega

end

/-! ### A remote that stays where it is

The item was made while the subscription asked for no rate. -/

namespace QuietRemote

open FailedManifest (context subscription channel options checkoutOf draftOf good exploring
  good_assembled good_drafted)

def former : Subscription :=
  { subscription with metadata := { subscription.metadata with annotations := none } }

def item (commit : Option String) (ticks : Nat) (successful : Bool) : SyncItem :=
  ⟨⟨"apps", "web"⟩, .medium, FailedManifest.directory, commit, ⟨ticks, 6⟩, successful⟩

theorem former_item : ofSubscription context.settings former = item none 0 false := by
  decide +kernel

def asking : Log := [⟨.head options options.primary, .ok "c0ffee"⟩]

def skipping : Tick :=
  ⟨.periodic, (exploring good).take 3 ++ asking, .ok (.skipped .unchangedCommit)⟩

def fetching (asking : Log) : Tick :=
  ⟨.periodic,
    (exploring good).take 3 ++ asking ++ [⟨.clone options options.primary, .ok (checkoutOf good)⟩] ++
      [⟨.deploy (Assembly.ofSubscription subscription (draftOf good).assembly.items), .ok ()⟩],
    .ok (.applied (draftOf good).assembly.items.length "c0ffee")⟩

def unread : Tick :=
  ⟨.periodic, [⟨.subscription ⟨"apps", "web"⟩, .error "unavailable"⟩], .error UnreadTick.failure⟩

section

variable {commit : Option String} {ticks : Nat} {successful : Bool}

theorem opens :
    Opens .periodic (item commit ticks successful) ((exploring good).take 2) subscription :=
  ⟨(exploring good).take 1, [⟨.time, ⟨0, 0⟩⟩], rfl, .ask (.done _), .ask (.done _)⟩

theorem resolves : Ends (cloneOptions subscription (item commit ticks successful).directory).run
    [⟨.channel ⟨"apps", "repo"⟩, .ok (some channel)⟩] (.ok options) :=
  .ask (.done _)

theorem probes (rest : Log) : Probes .periodic (item commit ticks successful)
    ((exploring good).take 3 ++ asking ++ rest) (.ok "c0ffee") :=
  ⟨(exploring good).take 2, _, asking, rest, subscription, options, rfl, opens, resolves,
    .ask (.done _)⟩

theorem fetching_made {asking : Log} {reason : ResyncReason}
    (decided : Ends ((item commit ticks successful).decide options) asking
      (.resync reason, ⟨0, 6⟩)) :
    Makes context (item commit ticks successful) (fetching asking)
      (item (some "c0ffee") 0 true) := by
  have decides : Decides .periodic (item commit ticks successful)
      ((exploring good).take 3 ++ asking) subscription options (.resync reason) ⟨0, 6⟩ :=
    ⟨(exploring good).take 2, _, asking, rfl, opens, resolves, decided⟩
  have drafts : Drafts context .periodic (item commit ticks successful)
      ((exploring good).take 3 ++ asking ++ [⟨.clone options options.primary, .ok (checkoutOf good)⟩])
      subscription options ⟨0, 6⟩ (checkoutOf good) (draftOf good) :=
    ⟨_, [], (List.append_nil _).symm, ⟨_, _, reason, rfl, decides, .ask (.done _)⟩, good_drafted⟩
  have free : (draftOf good).isWithheld successful = false := by
    unfold Assembly.Draft.isWithheld
    rw [good_assembled]
    rfl
  exact .inl (tick_of_drafts drafts free rfl)

end

theorem first_made : Makes context (item none 0 false) (fetching []) (item (some "c0ffee") 0 true) :=
  fetching_made (.done _)

theorem skipping_made : Makes context (item (some "c0ffee") 0 true) skipping
    (item (some "c0ffee") 1 true) :=
  .inl (.ask (.ask (.ask (.ask (.done _)))))

private theorem unread_made : Makes context (item (some "c0ffee") 0 true) unread
    (item (some "c0ffee") 0 false) :=
  .inl (.ask (.done _))

private theorem again_made : Makes context (item (some "c0ffee") 0 false) (fetching asking)
    (item (some "c0ffee") 0 true) :=
  fetching_made (.ask (.done _))

private theorem skipping_steady : Steady context "c0ffee" (item (some "c0ffee") 0 true) [skipping]
    (item (some "c0ffee") 1 true) := by
  refine .cons skipping_made ?_ ?_ (.nil _)
  · intro answer probed
    exact probed.unique (probes [])
  · intro fetches
    have quiet : ¬ Clones skipping.log := by decide
    exact absurd fetches quiet

private theorem unread_steady : Steady context "c0ffee" (item (some "c0ffee") 0 true)
    [unread, fetching asking] (item (some "c0ffee") 0 true) := by
  refine .cons unread_made ?_ ?_ (.cons again_made ?_ ?_ (.nil _))
  · rintro answer ⟨opening, resolving, probing, rest, _, _, same, opens, resolved, _⟩
    have reaches : Reaches .periodic (item (some "c0ffee") 0 true) unread.log :=
      ⟨opening, resolving, probing ++ rest, _, _, same, opens, resolved⟩
    have check : unread.isCheck = true := unread_made.isCheck_iff.mpr reaches
    cases check
  · intro fetches
    have quiet : ¬ Clones unread.log := by decide
    exact absurd fetches quiet
  · intro answer probed
    exact probed.unique (probes _)
  · intro fetches
    exact ⟨_, rfl⟩

private theorem fetching_isCheck (asking : Log) : (fetching asking).isCheck = true := by
  have fetches : Clones (fetching asking).log := by
    refine ⟨⟨.clone options options.primary, .ok (checkoutOf good)⟩, ?_, rfl⟩
    exact List.mem_append_left _ (List.mem_append_right _ (List.mem_singleton.mpr rfl))
  unfold Tick.isCheck
  rw [decide_eq_true fetches, Bool.or_true]

private theorem turned : Turns context (.ofSubscription context.settings former) [fetching []]
    (item (some "c0ffee") 0 true) := by
  rw [former_item]
  exact .cons first_made (.nil _)

theorem fresh : Turns context (.ofSubscription context.settings former) [] (item none 0 false) := by
  rw [former_item]
  exact .nil _

/-- The tick after the first is skipped, and the remote is where the first tick found it. -/
theorem skipped_at_standing_commit :
    Turns context (.ofSubscription context.settings former) [fetching []]
        (item (some "c0ffee") 0 true) ∧
      Makes context (item (some "c0ffee") 0 true) skipping (item (some "c0ffee") 1 true) ∧
      Steady context "c0ffee" (item (some "c0ffee") 0 true) [skipping]
        (item (some "c0ffee") 1 true) ∧
      skipping.result = .ok (.skipped .unchangedCommit) ∧
      ∃ count commit, standing? [fetching []] = some (.ok (.applied count commit)) ∧ commit ≠ "" ∧
        Probes .periodic (item (some "c0ffee") 0 true) skipping.log (.ok commit) := by
  have check : skipping.isCheck = true := rfl
  have undisturbed : ∀ other ∈ [skipping],
      other.isCheck = false → other.result.isDecisive = false := by
    intro other member passed
    rw [List.mem_singleton.mp member, check] at passed
    cases passed
  have found : ([skipping].filter Tick.isCheck)[0]? = some skipping := rfl
  have pattern := (drift_window fresh).2.2.1 _ _ _ _ _ "c0ffee" first_made rfl rfl (by decide)
    skipping_steady undisturbed 0 _ found
  have long : ¬ windowOf context.settings ∣ 0 + 1 := by decide
  rw [if_neg long] at pattern
  have skips := ((drift_window turned).1 _ _ skipping_made).2 pattern
  exact ⟨turned, skipping_made, skipping_steady, pattern, skips⟩

/-- If the subscription could not be read in between, the next tick that comes to the check fetches
although nothing changed. -/
theorem not_always_periodic :
    ¬ ∀ (context : Context) (settings : Settings) (subscription : Subscription)
      (turns : List Tick) (item next last : SyncItem) (tick : Tick) (later : List Tick)
      (count : Nat) (commit : String),
      Turns context (.ofSubscription settings subscription) turns item →
      Makes context item tick next → item.rate = .medium →
      tick.result = .ok (.applied count commit) → commit ≠ "" →
      Steady context commit next later last →
        ∀ (index : Nat) check, (later.filter Tick.isCheck)[index]? = some check →
          if windowOf settings ∣ index + 1 then Clones check.log
          else check.result = .ok (.skipped .unchangedCommit) := by
  intro always
  have checks : [unread, fetching asking].filter Tick.isCheck = [fetching asking] := by
    have early : unread.isCheck = false := rfl
    rw [List.filter_cons_of_neg (by rw [early]; exact Bool.false_ne_true),
      List.filter_cons_of_pos (fetching_isCheck asking)]
    rfl
  have found : ([unread, fetching asking].filter Tick.isCheck)[0]? = some (fetching asking) := by
    rw [checks]
    rfl
  have pattern := always context context.settings former [] _ _ _ _ _ _ "c0ffee" fresh first_made
    rfl rfl (by decide) unread_steady 0 _ found
  have long : ¬ windowOf context.settings ∣ 0 + 1 := by decide
  rw [if_neg long] at pattern
  cases pattern

end QuietRemote

end GitDelivery.SyncItem
