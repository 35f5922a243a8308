import GitDelivery.Git.Url
import Mathlib.Data.List.TakeWhile

set_option autoImplicit false

/-! Which texts are kept by taking users and passwords out of them, and that nothing is left to take
out after that. -/

namespace GitDelivery.Git

def isAuthority (c : Char) : Bool :=
  c ≠ '/' && !Text.isBlank c

def authority (text : List Char) : List Char :=
  text.takeWhile isAuthority

/-- Somewhere in the text an address names a user with a password. -/
def Discloses (text : List Char) : Prop :=
  ∃ before rest, text = before ++ ':' :: '/' :: '/' :: rest ∧ [':', '@'].Sublist (authority rest)

variable {text rest : List Char}

/-! ### The user and the password at the front -/

theorem afterLastAt_of_not_mem (absent : '@' ∉ text) : afterLastAt text = text := by
  have whole : text.reverse.takeWhile (· ≠ '@') = text.reverse := by
    apply List.takeWhile_eq_self_iff.mpr
    intro c member
    have other : c ≠ '@' := by
      rintro rfl
      exact absent (List.mem_reverse.mp member)
    simpa using other
  unfold afterLastAt
  rw [whole, List.reverse_reverse]

theorem afterLastAt_append {user after : List Char} (last : '@' ∉ after) :
    afterLastAt (user ++ '@' :: after) = after := by
  have reversed : (user ++ '@' :: after).reverse = after.reverse ++ '@' :: user.reverse := by
    simp
  have before : ∀ c ∈ after.reverse, decide (c ≠ '@') = true := by
    intro c member
    have other : c ≠ '@' := by
      rintro rfl
      exact last (List.mem_reverse.mp member)
    simpa using other
  unfold afterLastAt
  rw [reversed, List.takeWhile_append_of_pos before, List.takeWhile_cons_of_neg (by decide),
    List.append_nil, List.reverse_reverse]

private theorem exists_last_at (present : '@' ∈ text) :
    ∃ user after, text = user ++ '@' :: after ∧ '@' ∉ after := by
  obtain ⟨after, user, split, absent⟩ := List.eq_append_cons_of_mem (List.mem_reverse.mpr present)
  refine ⟨user.reverse, after.reverse, ?_, ?_⟩
  · have turned := congrArg List.reverse split
    rw [List.reverse_reverse] at turned
    rw [turned]
    simp
  · intro member
    exact absent (List.mem_reverse.mp member)

private theorem credentialsLength_of_last {user after : List Char}
    (split : authority text = user ++ '@' :: after) (last : '@' ∉ after) :
    credentialsLength text = if ':' ∈ user then user.length + 1 else 0 := by
  have length : (authority text).length - (afterLastAt (authority text)).length =
      user.length + 1 := by
    rw [split, afterLastAt_append last, List.length_append, List.length_cons]
    omega
  have front : (authority text).take (user.length + 1) = user ++ ['@'] := by
    rw [split, List.append_cons]
    exact List.take_left' (by simp)
  have given : credentialsLength text =
      if ((authority text).take ((authority text).length - (afterLastAt (authority text)).length)
        ).contains ':' then (authority text).length - (afterLastAt (authority text)).length
      else 0 := rfl
  rw [given, length, front]
  simp

private theorem sublist_last_iff {user after : List Char} (last : '@' ∉ after) :
    [':', '@'].Sublist (user ++ '@' :: after) ↔ ':' ∈ user := by
  constructor
  · intro sub
    obtain ⟨first, second, parts, inUser, inRest⟩ := List.sublist_append_iff.mp sub
    cases first with
    | nil =>
        rw [List.nil_append] at parts
        subst parts
        rcases List.sublist_cons_iff.mp inRest with later | ⟨_, same, _⟩
        · exact absurd (later.subset (by simp)) last
        · cases same
    | cons c more =>
        obtain ⟨rfl, _⟩ := List.cons.inj parts
        exact inUser.subset List.mem_cons_self
  · intro named
    have colon : [':'].Sublist user := List.singleton_sublist.mpr named
    have sign : ['@'].Sublist ('@' :: after) := List.singleton_sublist.mpr List.mem_cons_self
    exact colon.append sign

/-- Either no colon of the authority stands before an `@`, or what stands before the last `@` is a user
with a password. -/
theorem credentialsLength_cases (text : List Char) :
    (credentialsLength text = 0 ∧ ¬ [':', '@'].Sublist (authority text)) ∨
      ∃ user after, authority text = user ++ '@' :: after ∧ '@' ∉ after ∧ ':' ∈ user ∧
        credentialsLength text = user.length + 1 := by
  by_cases present : '@' ∈ authority text
  · obtain ⟨user, after, split, last⟩ := exists_last_at present
    have length := credentialsLength_of_last split last
    by_cases named : ':' ∈ user
    · rw [if_pos named] at length
      exact .inr ⟨user, after, split, last, named, length⟩
    · rw [if_neg named] at length
      rw [split, sublist_last_iff last]
      exact .inl ⟨length, named⟩
  · left
    have nothing : (authority text).length - (afterLastAt (authority text)).length = 0 := by
      rw [afterLastAt_of_not_mem present, Nat.sub_self]
    constructor
    · unfold credentialsLength
      change (if ((authority text).take ((authority text).length -
        (afterLastAt (authority text)).length)).contains ':' then _ else 0) = 0
      rw [nothing]
      rfl
    · intro sub
      exact present (sub.subset (by simp))

private theorem authority_drop {front back : List Char} (split : authority text = front ++ back) :
    authority (text.drop front.length) = back := by
  have allowed : ∀ c ∈ front, isAuthority c = true := by
    intro c member
    have inside : c ∈ authority text := by
      rw [split]
      exact List.mem_append_left back member
    exact List.mem_takeWhile_imp inside
  have starts : front <+: text :=
    (List.prefix_append front back).trans (split ▸ List.takeWhile_prefix _)
  obtain ⟨tail, rfl⟩ := starts
  rw [List.drop_left]
  unfold authority at split
  rw [List.takeWhile_append_of_pos allowed] at split
  exact List.append_cancel_left split

private theorem cut_at_user {user after : List Char} (split : authority text = user ++ '@' :: after) :
    text = user ++ '@' :: text.drop (user.length + 1) ∧
      authority (text.drop (user.length + 1)) = after := by
  have split' : authority text = (user ++ ['@']) ++ after := by
    rw [split, List.append_cons]
  have remains := authority_drop split'
  rw [List.length_append, List.length_singleton] at remains
  refine ⟨?_, remains⟩
  have starts : user ++ ['@'] <+: text :=
    (List.prefix_append _ after).trans (split' ▸ List.takeWhile_prefix _)
  obtain ⟨tail, rfl⟩ := starts
  have dropped : (user ++ ['@'] ++ tail).drop (user.length + 1) = tail := List.drop_left' (by simp)
  rw [dropped, List.append_assoc, List.singleton_append]

/-! ### Texts that disclose something -/

theorem not_discloses_nil : ¬ Discloses [] := by
  rintro ⟨before, rest, same, _⟩
  exact absurd same.symm (by simp)

theorem discloses_cons_iff {c : Char} :
    Discloses (c :: text) ↔
      (∃ rest, c = ':' ∧ text = '/' :: '/' :: rest ∧ [':', '@'].Sublist (authority rest)) ∨
        Discloses text := by
  constructor
  · rintro ⟨before, rest, same, sub⟩
    cases before with
    | nil =>
        cases same
        exact .inl ⟨rest, rfl, rfl, sub⟩
    | cons first more =>
        cases same
        exact .inr ⟨more, rest, rfl, sub⟩
  · rintro (⟨rest, rfl, rfl, sub⟩ | ⟨before, rest, rfl, sub⟩)
    · exact ⟨[], rest, rfl, sub⟩
    · exact ⟨c :: before, rest, rfl, sub⟩

theorem discloses_cons_of_ne {c : Char} (other : c ≠ ':') :
    Discloses (c :: text) ↔ Discloses text := by
  rw [discloses_cons_iff]
  constructor
  · rintro (⟨rest, same, _⟩ | later)
    · exact absurd same other
    · exact later
  · exact .inr

theorem discloses_address_iff :
    Discloses (':' :: '/' :: '/' :: rest) ↔ [':', '@'].Sublist (authority rest) ∨ Discloses rest := by
  rw [discloses_cons_iff, discloses_cons_of_ne (by decide), discloses_cons_of_ne (by decide)]
  constructor
  · rintro (⟨_, _, same, sub⟩ | later)
    · cases same
      exact .inl sub
    · exact .inr later
  · rintro (sub | later)
    · exact .inl ⟨rest, rfl, rfl, sub⟩
    · exact .inr later

theorem discloses_append_iff {front : List Char} (plain : ':' ∉ front) :
    Discloses (front ++ text) ↔ Discloses text := by
  induction front with
  | nil => exact Iff.rfl
  | cons c more ih =>
      have other : c ≠ ':' := by
        rintro rfl
        exact plain List.mem_cons_self
      rw [List.cons_append, discloses_cons_of_ne other]
      exact ih fun member => plain (List.mem_cons_of_mem c member)

theorem Discloses.append (discloses : Discloses text) (more : List Char) :
    Discloses (text ++ more) := by
  obtain ⟨before, rest, rfl, sub⟩ := discloses
  refine ⟨before, rest ++ more, by simp, sub.trans ?_⟩
  apply List.IsPrefix.sublist
  unfold authority
  by_cases whole : (rest.takeWhile isAuthority).length = rest.length
  · rw [List.takeWhile_append, if_pos whole]
    exact (List.takeWhile_prefix _).trans (List.prefix_append _ _)
  · have same : (rest ++ more).takeWhile isAuthority = rest.takeWhile isAuthority := by
      rw [List.takeWhile_append, if_neg whole]
    exact ⟨[], by rw [same, List.append_nil]⟩

private theorem authority_append_colon (rest reason : List Char) :
    [':', '@'].Sublist (authority (rest ++ ':' :: ' ' :: reason)) ↔
      [':', '@'].Sublist (authority rest) := by
  unfold authority
  by_cases whole : (rest.takeWhile isAuthority).length = rest.length
  · have all : (rest.takeWhile isAuthority) = rest :=
      (List.takeWhile_prefix _).eq_of_length whole
    rw [List.takeWhile_append, if_pos whole, all, List.takeWhile_cons_of_pos (by decide),
      List.takeWhile_cons_of_neg (by decide)]
    constructor
    · intro sub
      -- the colon is the last character, and what is looked for ends in another
      have reversed := List.reverse_sublist.mpr sub
      rw [List.reverse_append] at reversed
      rcases List.sublist_cons_iff.mp reversed with later | ⟨_, same, _⟩
      · exact List.reverse_sublist.mp later
      · cases same
    · intro sub
      exact sub.trans (List.sublist_append_left rest [':'])
  · rw [List.takeWhile_append, if_neg whole]

/-- What stands in front of a colon and a blank discloses nothing together with what follows. -/
theorem discloses_reason_iff {reason : List Char} :
    Discloses (text ++ ':' :: ' ' :: reason) ↔ Discloses text ∨ Discloses reason := by
  induction text with
  | nil =>
      rw [List.nil_append, discloses_cons_iff, discloses_cons_of_ne (by decide)]
      constructor
      · rintro (⟨_, _, same, _⟩ | later)
        · cases same
        · exact .inr later
      · rintro (nothing | later)
        · exact absurd nothing not_discloses_nil
        · exact .inr later
  | cons c more ih =>
      rw [List.cons_append, discloses_cons_iff, discloses_cons_iff, ih]
      constructor
      · rintro (⟨rest, rfl, same, sub⟩ | early | late)
        · left
          left
          -- the slashes stand before the colon that ends the text
          cases more with
          | nil => cases same
          | cons first others =>
              cases others with
              | nil => cases same
              | cons second others =>
                  cases same
                  exact ⟨others, rfl, rfl, (authority_append_colon others reason).mp sub⟩
        · exact .inl (.inr early)
        · exact .inr late
      · rintro ((⟨rest, rfl, rfl, sub⟩ | early) | late)
        · exact .inl ⟨rest ++ ':' :: ' ' :: reason, rfl, rfl,
            (authority_append_colon rest reason).mpr sub⟩
        · exact .inr (.inl early)
        · exact .inr (.inr late)

/-- What is left of such a text when it is cut somewhere. -/
theorem discloses_take_reason_iff {reason : List Char} (plain : ¬ Discloses reason) (limit : Nat) :
    Discloses ((text ++ ':' :: ' ' :: reason).take limit) ↔ Discloses (text.take limit) := by
  rw [List.take_append]
  rcases left : limit - text.length with _ | _ | more
  · rw [List.take_zero, List.append_nil]
  · constructor
    · intro discloses
      have longer := discloses.append [' ']
      rw [List.append_assoc] at longer
      exact (discloses_reason_iff.mp longer).resolve_right not_discloses_nil
    · intro discloses
      exact discloses.append _
  · have cut : ¬ Discloses (reason.take more) := by
      intro discloses
      apply plain
      rw [← List.take_append_drop more reason]
      exact discloses.append _
    change Discloses (text.take limit ++ ':' :: ' ' :: reason.take more) ↔ _
    rw [discloses_reason_iff]
    exact or_iff_left cut

/-! ### Taking them out -/

private theorem redactFrom_drop (skipped : Nat) (text : List Char) :
    redactFrom skipped text = redactFrom 0 (text.drop skipped) := by
  induction text generalizing skipped with
  | nil => cases skipped <;> rfl
  | cons c rest ih =>
      cases skipped with
      | zero => rfl
      | succ fewer => exact ih fewer

private theorem redactFrom_plain {c : Char}
    (other : ∀ rest, c = ':' → text = '/' :: '/' :: rest → False) :
    redactFrom 0 (c :: text) = c :: redactFrom 0 text := by
  rw [redactFrom]
  exact other

private theorem authority_redactFrom (text : List Char) :
    authority (redactFrom 0 text) = authority text := by
  induction text with
  | nil => rfl
  | cons c rest ih =>
      by_cases address : ∃ more, c = ':' ∧ rest = '/' :: '/' :: more
      · obtain ⟨more, rfl, rfl⟩ := address
        rfl
      · rw [redactFrom_plain fun more colon slashes => address ⟨more, colon, slashes⟩]
        unfold authority at ih ⊢
        rw [List.takeWhile_cons, List.takeWhile_cons, ih]

private theorem redactFrom_eq_slash {more : List Char} (same : redactFrom 0 text = '/' :: more) :
    ∃ rest, text = '/' :: rest ∧ more = redactFrom 0 rest := by
  cases text with
  | nil => cases same
  | cons c rest =>
      by_cases address : ∃ more, c = ':' ∧ rest = '/' :: '/' :: more
      · obtain ⟨after, rfl, rfl⟩ := address
        cases same
      · rw [redactFrom_plain fun more colon slashes => address ⟨more, colon, slashes⟩] at same
        obtain ⟨rfl, rfl⟩ := List.cons.inj same
        exact ⟨rest, rfl, rfl⟩

private theorem redactFrom_of_not_discloses (plain : ¬ Discloses text) : redactFrom 0 text = text := by
  induction text with
  | nil => rfl
  | cons c rest ih =>
      have later := ih fun discloses => plain (discloses_cons_iff.mpr (.inr discloses))
      by_cases address : ∃ more, c = ':' ∧ rest = '/' :: '/' :: more
      · obtain ⟨more, rfl, rfl⟩ := address
        rcases credentialsLength_cases more with ⟨empty, _⟩ | ⟨user, after, split, last, named, _⟩
        · have kept : redactFrom 0 more = more := by
            have slashes : '/' :: '/' :: redactFrom 0 more = '/' :: '/' :: more := later
            injection slashes with _ slashes
            injection slashes
          have shape : redactFrom 0 (':' :: '/' :: '/' :: more) = ':' :: '/' :: '/' ::
              ((if credentialsLength more = 0 then [] else ['*', '*', '*', '@']) ++
                redactFrom (credentialsLength more) more) := rfl
          rw [shape, empty, if_pos rfl, List.nil_append, kept]
        · have sub : [':', '@'].Sublist (authority more) := by
            rw [split]
            exact (sublist_last_iff last).mpr named
          exact absurd (discloses_address_iff.mpr (.inl sub)) plain
      · rw [redactFrom_plain fun more colon slashes => address ⟨more, colon, slashes⟩, later]

/-- Whatever is left out at the front, nothing is disclosed by what is redacted. -/
theorem not_discloses_redactFrom (skipped : Nat) (text : List Char) :
    ¬ Discloses (redactFrom skipped text) := by
  induction skipped, text using redactFrom.induct with
  | case1 skipped c rest ih => exact ih
  | case2 rest length ih =>
      have shape : redactFrom 0 (':' :: '/' :: '/' :: rest) = ':' :: '/' :: '/' ::
          ((if length = 0 then [] else ['*', '*', '*', '@']) ++ redactFrom length rest) := rfl
      rw [shape, discloses_address_iff]
      rcases credentialsLength_cases rest with ⟨empty, free⟩ | ⟨user, after, split, last, _, given⟩
      · have zero : length = 0 := empty
        rw [zero] at ih ⊢
        rw [if_pos rfl, List.nil_append, authority_redactFrom]
        rintro (here | later)
        · exact free here
        · exact ih later
      · have positive : length = user.length + 1 := given
        rw [positive] at ih ⊢
        rw [if_neg (by omega), discloses_append_iff (by decide)]
        rintro (here | later)
        · have kept : authority (redactFrom (user.length + 1) rest) = after := by
            rw [redactFrom_drop, authority_redactFrom, (cut_at_user split).2]
          have whole : authority (['*', '*', '*', '@'] ++ redactFrom (user.length + 1) rest) =
              ['*', '*', '*'] ++ '@' :: after := by
            rw [← kept]
            rfl
          rw [whole, sublist_last_iff last] at here
          exact absurd here (by decide)
        · exact ih later
  | case3 c rest other ih =>
      rw [redactFrom_plain other, discloses_cons_iff]
      rintro (⟨more, colon, same, _⟩ | later)
      · obtain ⟨first, rfl, slash⟩ := redactFrom_eq_slash same
        obtain ⟨second, rfl, _⟩ := redactFrom_eq_slash slash.symm
        exact other second colon rfl
      · exact ih later
  | case4 skipped =>
      have nothing : redactFrom skipped [] = [] := by cases skipped <;> rfl
      rw [nothing]
      exact not_discloses_nil

theorem redactFrom_eq_self_iff : redactFrom 0 text = text ↔ ¬ Discloses text := by
  constructor
  · intro kept
    rw [← kept]
    exact not_discloses_redactFrom 0 text
  · exact redactFrom_of_not_discloses

theorem redact_eq_self_iff {text : String} : redact text = text ↔ ¬ Discloses text.toList := by
  rw [← redactFrom_eq_self_iff]
  unfold redact
  constructor
  · intro same
    have lists := congrArg String.toList same
    rwa [String.toList_ofList] at lists
  · intro same
    rw [same, String.ofList_toList]

/-! ### What is kept -/

/-- One text is the other with stars for what stands before the last at-sign of some authorities, in
which there is a colon. All else is as it was. -/
inductive Masks : List Char → List Char → Prop where
  | nil : Masks [] []
  | keep {text masked : List Char} (c : Char) (rest : Masks text masked) :
      Masks (c :: text) (c :: masked)
  | mask {user text masked : List Char} (inside : ∀ c ∈ user, isAuthority c = true)
      (named : ':' ∈ user) (last : '@' ∉ authority text) (rest : Masks text masked) :
      Masks (':' :: '/' :: '/' :: (user ++ '@' :: text))
        (':' :: '/' :: '/' :: '*' :: '*' :: '*' :: '@' :: masked)

theorem masks_redactFrom (skipped : Nat) (text : List Char) :
    Masks (text.drop skipped) (redactFrom skipped text) := by
  induction skipped, text using redactFrom.induct with
  | case1 skipped c rest ih => exact ih
  | case2 rest length ih =>
      have shape : redactFrom 0 (':' :: '/' :: '/' :: rest) = ':' :: '/' :: '/' ::
          ((if length = 0 then [] else ['*', '*', '*', '@']) ++ redactFrom length rest) := rfl
      rw [shape, List.drop_zero]
      rcases credentialsLength_cases rest with ⟨empty, _⟩ | ⟨user, after, split, last, named, given⟩
      · have zero : length = 0 := empty
        rw [zero] at ih ⊢
        rw [if_pos rfl]
        exact .keep ':' (.keep '/' (.keep '/' ih))
      · have positive : length = user.length + 1 := given
        rw [positive] at ih ⊢
        rw [if_neg (by omega)]
        obtain ⟨whole, remains⟩ := cut_at_user split
        have inside : ∀ c ∈ user, isAuthority c = true := by
          intro c member
          have present : c ∈ authority rest := by
            rw [split]
            exact List.mem_append_left _ member
          exact List.mem_takeWhile_imp present
        rw [← remains] at last
        have masked := Masks.mask inside named last ih
        rw [← whole] at masked
        exact masked
  | case3 c rest other ih =>
      rw [redactFrom_plain other]
      exact .keep c ih
  | case4 skipped =>
      have nothing : redactFrom skipped [] = [] := by cases skipped <;> rfl
      rw [nothing, List.drop_nil]
      exact .nil

/-- Nothing is disclosed by what is redacted: no address in it has an authority in which a colon stands
before an at-sign. Only users and passwords are masked, a text without any is kept, and there is nothing
left to redact a second time. -/
theorem redacts_completely (text : String) :
    ¬ Discloses (redact text).toList ∧ Masks text.toList (redact text).toList ∧
      (redact text = text ↔ ¬ Discloses text.toList) ∧ redact (redact text) = redact text := by
  have chars : (redact text).toList = redactFrom 0 text.toList := by
    unfold redact
    rw [String.toList_ofList]
  have clean : ¬ Discloses (redact text).toList := by
    rw [chars]
    exact not_discloses_redactFrom 0 text.toList
  have masks : Masks text.toList (redact text).toList := by
    rw [chars]
    exact masks_redactFrom 0 text.toList
  exact ⟨clean, masks, redact_eq_self_iff, redact_eq_self_iff.mpr clean⟩

end GitDelivery.Git
