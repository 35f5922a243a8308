import GitDelivery.Proofs.Sync.Turns

set_option autoImplicit false

/-! How a tick decides whether anything is to be fetched: what it asks for that, and what its decision
does to the count of ticks since the last fetch. -/

namespace GitDelivery

open Dialogue Work

namespace DriftWindow

variable {window : DriftWindow} {applied : Option String} {remote : String} {succeeded : Bool}

theorem decide_skip_iff :
    (window.decide applied remote succeeded).1 = .skip ↔
      applied = some remote ∧ remote ≠ "" ∧ succeeded = true ∧ window.ticks + 1 < window.limit := by
  unfold decide
  cases applied with
  | none => simp
  | some commit =>
      by_cases empty : commit = ""
      · subst empty
        refine iff_of_false (by simp [Text.nonEmpty?]) ?_
        rintro ⟨same, present, _⟩
        cases same
        exact present rfl
      · have kept : (some commit).bind Text.nonEmpty? = some commit := by
          simp [Text.nonEmpty?, empty]
        rw [kept]
        by_cases due : window.limit ≤ window.ticks + 1
        · have early : ¬ window.ticks + 1 < window.limit := Nat.not_lt.mpr due
          simp [due, early]
        · have early : window.ticks + 1 < window.limit := Nat.not_le.mp due
          by_cases same : commit = remote
          · subst same
            cases succeeded with
            | true => simp [due, early, empty]
            | false => simp [due]
          · simp [due, same]

/-- A tick that is skipped is counted, and any other starts the count again. -/
theorem decide_window (window : DriftWindow) (applied : Option String) (remote : String)
    (succeeded : Bool) :
    (window.decide applied remote succeeded).2 =
      if (window.decide applied remote succeeded).1 = .skip then
        { window with ticks := window.ticks + 1 }
      else window.reset := by
  unfold decide
  split
  · rfl
  · dsimp only
    split
    · rfl
    · split
      · rfl
      · split <;> rfl

end DriftWindow

namespace SyncItem

section

variable {context : Context} {trigger : Trigger} {item next : SyncItem} {log : Log}
  {result : TickResult} {subscription : Subscription} {options : CloneOptions}
  {decision : SyncDecision} {drift : DriftWindow}

inductive Verdict (item : SyncItem) (options : CloneOptions) :
    Log → SyncDecision → DriftWindow → Prop where
  | always (rate : item.rate.skipsUnchanged = false) :
      Verdict item options [] (.resync .everyTick) item.drift
  | first (rate : item.rate.skipsUnchanged = true) (fresh : item.lastCommit = none) :
      Verdict item options [] (.resync .firstRun) item.drift.reset
  | answered {log : Log} {commit head : String} {decision : SyncDecision} {drift : DriftWindow}
      (rate : item.rate.skipsUnchanged = true) (known : item.lastCommit = some commit)
      (asked : Ends options.remoteHead log (.ok head))
      (decided : item.drift.decide (some commit) head item.successful = (decision, drift)) :
      Verdict item options log decision drift
  | unanswered {log : Log} {commit failure : String} (rate : item.rate.skipsUnchanged = true)
      (known : item.lastCommit = some commit)
      (asked : Ends options.remoteHead log (.error failure)) :
      Verdict item options log (.resync .newCommit) item.drift.reset

theorem decide_verdict (ended : Ends (item.decide options) log (decision, drift)) :
    Verdict item options log decision drift := by
  unfold decide at ended
  cases rate : item.rate.skipsUnchanged with
  | false =>
      rw [rate] at ended
      obtain ⟨rfl, same⟩ := ends_pure_iff.mp ended
      cases same
      exact .always rate
  | true =>
      rw [rate] at ended
      cases known : item.lastCommit with
      | none =>
          rw [known] at ended
          obtain ⟨rfl, same⟩ := ends_pure_iff.mp ended
          cases same
          exact .first rate known
      | some commit =>
          rw [known] at ended
          obtain ⟨asking, reply, nothing, asked, last, rfl⟩ := ends_bind_iff.mp ended
          cases reply with
          | ok head =>
              obtain ⟨rfl, same⟩ := ends_pure_iff.mp last
              rw [List.append_nil]
              exact .answered rate known asked same.symm
          | error failure =>
              obtain ⟨rfl, same⟩ := ends_pure_iff.mp last
              cases same
              rw [List.append_nil]
              exact .unanswered rate known asked

/-- A tick is skipped only if the remote still has the commit that was applied last. -/
theorem Verdict.of_skip (verdict : Verdict item options log .skip drift) :
    ∃ commit, item.lastCommit = some commit ∧ commit ≠ "" ∧ item.successful = true ∧
      Ends options.remoteHead log (.ok commit) ∧ item.drift.ticks + 1 < item.drift.limit ∧
      drift = { item.drift with ticks := item.drift.ticks + 1 } := by
  cases verdict with
  | @answered _ commit head _ _ rate known asked decided =>
      have skips : (item.drift.decide (some commit) head item.successful).1 = .skip := by
        rw [decided]
      have counts := item.drift.decide_window (some commit) head item.successful
      rw [if_pos skips, decided] at counts
      obtain ⟨same, present, succeeded, early⟩ := DriftWindow.decide_skip_iff.mp skips
      obtain rfl : commit = head := Option.some.inj same
      exact ⟨commit, known, present, succeeded, asked, early, counts⟩

/-- Every fetch starts the count again, unless ticks are not counted at all. -/
theorem Verdict.of_resync {reason : ResyncReason}
    (verdict : Verdict item options log (.resync reason) drift) :
    drift = item.drift.reset ∨ (item.rate.skipsUnchanged = false ∧ drift = item.drift) := by
  cases verdict with
  | always rate => exact .inr ⟨rate, rfl⟩
  | first rate fresh => exact .inl rfl
  | @answered _ commit head _ _ rate known asked decided =>
      have counts := item.drift.decide_window (some commit) head item.successful
      rw [decided, if_neg (by rintro ⟨⟩)] at counts
      exact .inl counts
  | unanswered rate known asked => exact .inl rfl

/-! ### Ticks that come to the check -/

/-- The tick has found out what to clone, so that it decides whether to. -/
def Reaches (trigger : Trigger) (item : SyncItem) (log : Log) : Prop :=
  ∃ opening resolving rest subscription options, log = opening ++ (resolving ++ rest) ∧
    Opens trigger item opening subscription ∧
    Ends (cloneOptions subscription item.directory).run resolving (.ok options)

/-- The tick has asked where the remote is, or knew it, and this was the answer. -/
def Probes (trigger : Trigger) (item : SyncItem) (log : Log) (answer : Except String String) :
    Prop :=
  ∃ opening resolving probing rest subscription options,
    log = opening ++ (resolving ++ (probing ++ rest)) ∧
    Opens trigger item opening subscription ∧
    Ends (cloneOptions subscription item.directory).run resolving (.ok options) ∧
    Ends options.remoteHead probing answer

theorem Opens.unique {other after rest : Log} {read : Subscription}
    (opens : Opens trigger item log subscription) (again : Opens trigger item other read)
    (same : log ++ after = other ++ rest) :
    log = other ∧ subscription = read ∧ after = rest := by
  obtain ⟨reading, checking, rfl, found, checked⟩ := opens
  obtain ⟨reading', checking', rfl, found', checked'⟩ := again
  rw [List.append_assoc, List.append_assoc] at same
  obtain ⟨rfl, reads, later⟩ := ends_unique found found' same
  cases reads
  obtain ⟨rfl, _, rests⟩ := ends_unique checked checked' later
  exact ⟨rfl, rfl, rests⟩

theorem Probes.unique {answer other : Except String String}
    (probes : Probes trigger item log answer) (again : Probes trigger item log other) :
    answer = other := by
  obtain ⟨opening, resolving, probing, rest, _, _, rfl, opens, resolved, asked⟩ := probes
  obtain ⟨opening', resolving', probing', rest', _, _, same, opens', resolved', asked'⟩ := again
  obtain ⟨rfl, rfl, later⟩ := opens.unique opens' same
  obtain ⟨rfl, options, last⟩ := ends_unique resolved resolved' later
  cases options
  exact (ends_unique asked asked' last).2.1

theorem Decides.reaches {rest : Log}
    (decides : Decides trigger item log subscription options decision drift) :
    Reaches trigger item (log ++ rest) := by
  obtain ⟨opening, resolving, deciding, rfl, opens, resolved, _⟩ := decides
  exact ⟨opening, resolving, deciding ++ rest, subscription, options, by simp, opens, resolved⟩

theorem Decides.verdict (decides : Decides trigger item log subscription options decision drift) :
    ∃ asking, Verdict item options asking decision drift ∧
      ∀ answer rest, Ends options.remoteHead asking answer →
        Probes trigger item (log ++ rest) answer := by
  obtain ⟨opening, resolving, asking, rfl, opens, resolved, decided⟩ := decides
  refine ⟨asking, decide_verdict decided, ?_⟩
  intro answer rest asked
  refine ⟨opening, resolving, asking, rest, subscription, options, ?_, opens, resolved, asked⟩
  rw [List.append_assoc, List.append_assoc]

private theorem blockedAt?_ne_unchanged (now : Time.Instant) :
    subscription.blockedAt? now ≠ some .unchangedCommit := by
  unfold Subscription.blockedAt?
  split
  · rintro ⟨⟩
  · split
    · rintro ⟨⟩
    · rintro ⟨⟩

private theorem skip_ne_unchanged {reason : TickSkip}
    (skips : Ends (item.skip? trigger subscription) log (some reason)) :
    reason ≠ .unchangedCommit := by
  obtain ⟨_, now, _, _, last, _⟩ := ends_bind_iff.mp skips
  have same : item.skipAt? trigger now subscription = some reason := (ends_pure_iff.mp last).2.symm
  rintro rfl
  rcases Option.or_eq_some_iff.mp same with blocked | ⟨_, awaiting⟩
  · split at blocked
    · exact blockedAt?_ne_unchanged now blocked
    · cases blocked
  · split at awaiting
    · cases awaiting
    · cases awaiting

theorem clones_of_fetch {reply : Except String Checkout} (ended : Ends options.fetch log reply) :
    Clones log := by
  unfold CloneOptions.fetch at ended
  cases others : options.secondary.toList with
  | nil =>
      rw [others] at ended
      obtain rfl := ends_ask_iff.mp ended
      exact ⟨_, List.mem_singleton.mpr rfl, rfl⟩
  | cons second rest =>
      rw [others] at ended
      obtain ⟨_, first, _, asked, _, rfl⟩ := ends_bind_iff.mp ended
      obtain rfl := ends_ask_iff.mp asked
      exact ⟨_, List.mem_append_left _ (List.mem_singleton.mpr rfl), rfl⟩

private theorem not_reaches_of_unread {rest : Log} {error : SyncError}
    (failed : Ends (read item.key).run log (.error error)) : ¬ Reaches trigger item (log ++ rest) := by
  rintro ⟨_, resolving, after, _, _, same, ⟨reading, checking, rfl, found, _⟩, _⟩
  rw [List.append_assoc] at same
  cases (ends_unique failed found same).2.1

private theorem not_reaches_of_skip {checking rest : Log} {reason : TickSkip}
    (found : Ends (read item.key).run log (.ok subscription))
    (skips : Ends (item.skip? trigger subscription) checking (some reason)) :
    ¬ Reaches trigger item (log ++ checking ++ rest) := by
  rintro ⟨_, resolving, after, _, _, same, ⟨reading, checking', rfl, found', checked⟩, _⟩
  rw [List.append_assoc, List.append_assoc] at same
  obtain ⟨rfl, reads, later⟩ := ends_unique found found' same
  cases reads
  cases (ends_unique skips checked later).2.1

private theorem not_reaches_of_unresolved {resolving rest : Log} {error : SyncError}
    (opens : Opens trigger item log subscription)
    (failed : Ends (cloneOptions subscription item.directory).run resolving (.error error)) :
    ¬ Reaches trigger item (log ++ resolving ++ rest) := by
  rintro ⟨opening, resolving', after, _, _, same, opens', resolved⟩
  rw [List.append_assoc] at same
  obtain ⟨rfl, rfl, later⟩ := opens.unique opens' same
  cases (ends_unique failed resolved later).2.1

inductive Checking (trigger : Trigger) (item : SyncItem) (log : Log) (result : TickResult)
    (drift : DriftWindow) : Prop where
  | unchecked (early : ¬ Reaches trigger item log) (quiet : ¬ Clones log)
      (other : result ≠ .ok (.skipped .unchangedCommit)) (idle : appliedCommit? result = none)
      (same : drift = item.drift) :
      Checking trigger item log result drift
  | skipped {deciding rest : Log} {subscription : Subscription} {options : CloneOptions}
      (shape : log = deciding ++ rest)
      (decides : Decides trigger item deciding subscription options .skip drift)
      (quiet : ¬ Clones log) (skips : result = .ok (.skipped .unchangedCommit)) :
      Checking trigger item log result drift
  | fetched {deciding rest : Log} {subscription : Subscription} {options : CloneOptions}
      {reason : ResyncReason} (shape : log = deciding ++ rest)
      (decides : Decides trigger item deciding subscription options (.resync reason) drift)
      (fetches : Clones log) (other : result ≠ .ok (.skipped .unchangedCommit)) :
      Checking trigger item log result drift

private theorem Fetches.checking {checkout : Checkout} {rest : Log}
    (fetches : Fetches trigger item log subscription options drift checkout)
    (other : result ≠ .ok (.skipped .unchangedCommit)) :
    Checking trigger item (log ++ rest) result drift := by
  obtain ⟨deciding, fetching, reason, rfl, decides, fetched⟩ := fetches
  refine .fetched (List.append_assoc deciding fetching rest) decides ?_ other
  have tried : Clones fetching := clones_of_fetch fetched
  simp only [clones_append_iff, tried, or_true, true_or]

theorem Course.checking {rest : Log} (course : Course context trigger item log result next)
    (silent : ¬ Clones rest) : Checking trigger item (log ++ rest) result next.drift := by
  have quietly {log : Log} (explored : ∀ entry ∈ log, Explores entry.1) : ¬ Clones (log ++ rest) := by
    rw [clones_append_iff, not_or]
    exact ⟨not_clones_of_explored explored, silent⟩
  have explored (idle : result.isDecisive = false) : ∀ entry ∈ log, Explores entry.1 :=
    course.explored idle
  cases course with
  | unread failed =>
      exact .unchecked (not_reaches_of_unread failed)
        (quietly (only_history (only_read _) failed)) (by rintro ⟨⟩) rfl rfl
  | skipped found skips =>
      refine .unchecked (not_reaches_of_skip found skips) (quietly (explored rfl)) ?_ rfl rfl
      intro same
      cases same
      exact skip_ne_unchanged skips rfl
  | unresolved opens failed =>
      exact .unchecked (not_reaches_of_unresolved opens failed) (quietly (opens.resolving failed))
        (by rintro ⟨⟩) rfl rfl
  | unchanged decides => exact .skipped rfl decides (quietly decides.explored) rfl
  | @unfetched deciding fetching _ _ _ _ _ decides failed =>
      refine .fetched (List.append_assoc deciding fetching rest) decides ?_ (by rintro ⟨⟩)
      have tried : Clones fetching := clones_of_fetch failed
      simp only [clones_append_iff, tried, or_true, true_or]
  | unassembled fetches failed =>
      rw [List.append_assoc]
      exact fetches.checking (by rintro ⟨⟩)
  | undeployed drafts failed =>
      obtain ⟨_, _, rfl, fetches, _⟩ := drafts
      rw [List.append_assoc, List.append_assoc]
      exact fetches.checking (by rintro ⟨⟩)
  | deployed drafts went =>
      obtain ⟨_, _, rfl, fetches, _⟩ := drafts
      rw [List.append_assoc, List.append_assoc]
      exact fetches.checking (by rintro ⟨⟩)

private theorem tick_checking {rest : Log}
    (ended : Ends (item.tick context trigger) log (result, next))
    (silent : ¬ Clones rest) : Checking trigger item (log ++ rest) result next.drift := by
  obtain ⟨between, synced, rfl⟩ := tick_ends_iff.mp ended
  obtain ⟨successful, same⟩ := settle_eq between result
  rw [same]
  exact (sync_course synced).checking silent

theorem Makes.checking {tick : Tick} (made : Makes context item tick next) :
    Checking tick.trigger item tick.log tick.result next.drift := by
  rcases made with ticked | ran
  · rw [← List.append_nil tick.log]
    refine tick_checking ticked ?_
    rintro ⟨_, member, _⟩
    cases member
  · obtain ⟨ticking, now, reporting, same, ticked, reports⟩ := run_ends_iff.mp ran
    rw [same]
    refine tick_checking ticked ?_
    rintro ⟨entry, member, fetches⟩
    rcases List.mem_cons.mp member with rfl | later
    · cases fetches
    · split at reports
      · rw [reports] at later
        cases later
      · obtain ⟨told, rfl⟩ := reports
        rw [List.mem_singleton.mp later] at fetches
        cases fetches

end

end SyncItem

end GitDelivery
