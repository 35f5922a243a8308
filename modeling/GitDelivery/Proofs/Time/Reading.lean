import GitDelivery.Proofs.Text
import GitDelivery.Time.Reading

set_option autoImplicit false

/-! Which texts are read as distances from Greenwich, and as which. -/

namespace GitDelivery.Time.Reading

def twoDigits (number : Nat) : List Char :=
  [Nat.digitChar (number / 10), Nat.digitChar (number % 10)]

theorem digit?_digitChar : ∀ value < 10, digit? (Nat.digitChar value) = some value := by
  decide

theorem digit?_eq_some_iff {c : Char} {value : Nat} :
    digit? c = some value ↔ value < 10 ∧ c = Nat.digitChar value := by
  constructor
  · intro read
    unfold digit? at read
    split at read
    · next bounds =>
        have low : 48 ≤ c.toNat := bounds.1
        have high : c.toNat ≤ 57 := bounds.2
        have rebuilt : ∀ code < 10, Char.ofNat (code + 48) = Nat.digitChar code := by decide
        have shifted : c.toNat - 48 = value := Option.some.inj read
        have small : value < 10 := by omega
        have code : value + 48 = c.toNat := by omega
        refine ⟨small, ?_⟩
        rw [← rebuilt value small, code, Char.ofNat_toNat]
    · cases read
  · rintro ⟨small, rfl⟩
    exact digit?_digitChar value small

theorem digits_succ_cons_iff {width : Nat} {c : Char} {chars left : List Char} {value : Nat}
    {more : List Nat} :
    digits (width + 1) (c :: chars) = (value :: more, left) ↔
      digit? c = some value ∧ digits width chars = (more, left) := by
  rw [digits]
  cases digit? c with
  | none => simp
  | some found => simp [Prod.ext_iff, and_assoc]

theorem digits_two_iff {chars left : List Char} {tens ones : Nat} :
    digits 2 chars = ([tens, ones], left) ↔
      ∃ number < 100, chars = twoDigits number ++ left ∧ tens = number / 10 ∧ ones = number % 10 := by
  constructor
  · intro read
    cases chars with
    | nil => cases read
    | cons first rest =>
      obtain ⟨firstRead, later⟩ := digits_succ_cons_iff.mp read
      cases rest with
      | nil => cases later
      | cons second rest =>
        obtain ⟨secondRead, ends⟩ := digits_succ_cons_iff.mp later
        obtain rfl : rest = left := congrArg Prod.snd ends
        obtain ⟨tensSmall, rfl⟩ := digit?_eq_some_iff.mp firstRead
        obtain ⟨onesSmall, rfl⟩ := digit?_eq_some_iff.mp secondRead
        have front : (10 * tens + ones) / 10 = tens := by omega
        have back : (10 * tens + ones) % 10 = ones := by omega
        refine ⟨10 * tens + ones, by omega, ?_, front.symm, back.symm⟩
        rw [twoDigits, front, back]
        rfl
  · rintro ⟨number, small, rfl, rfl, rfl⟩
    have tensRead := digit?_digitChar (number / 10) (by omega)
    have onesRead := digit?_digitChar (number % 10) (by omega)
    exact digits_succ_cons_iff.mpr ⟨tensRead, digits_succ_cons_iff.mpr ⟨onesRead, rfl⟩⟩

/-- The sign says in which direction from Greenwich. -/
inductive Directs : Char → Int → Prop where
  | east : Directs '+' 1
  | west : Directs '-' (-1)
  | westMinus : Directs '\u2212' (-1)

private theorem directs_of_some {sign : Char} {direction : Int}
    (directed : (if sign = '+' then some (1 : Int)
      else if sign = '-' || sign = '\u2212' then some (-1) else none) = some direction) :
    Directs sign direction := by
  split at directed
  · next plus =>
      cases directed
      exact plus ▸ .east
  · split at directed
    · next minus =>
        cases directed
        rcases Bool.or_eq_true_iff.mp minus with dash | sign
        · exact of_decide_eq_true dash ▸ .west
        · exact of_decide_eq_true sign ▸ .westMinus
    · cases directed

private theorem isSeparator_twoDigits {number : Nat} (small : number < 100) (left : List Char) :
    ∀ c, (twoDigits number ++ left).head? = some c → isSeparator c = false := by
  have plain : ∀ value < 10, isSeparator (Nat.digitChar value) = false := by decide
  intro c first
  rw [← Option.some.inj first]
  exact plain _ (by omega)

/-- A distance from Greenwich is read exactly if the text starts with a sign, hours, colons or blanks if
any, and minutes. -/
theorem offset_eq_some_iff {chars left : List Char} {seconds : Int} :
    offset chars = some (seconds, left) ↔
      ∃ sign direction hours between minutes, Directs sign direction ∧ hours < 100 ∧ minutes < 60 ∧
        (∀ c ∈ between, isSeparator c = true) ∧
        chars = sign :: (twoDigits hours ++ (between ++ (twoDigits minutes ++ left))) ∧
        seconds = direction * ((hours : Int) * 3600 + minutes * 60) := by
  constructor
  · intro read
    cases chars with
    | nil => cases read
    | cons sign rest =>
      unfold offset at read
      dsimp only at read
      split at read
      · next direction tens ones afterHours directed hoursRead =>
          split at read
          · next minuteTens minuteOnes after minutesRead =>
              split at read
              · next below =>
                  cases read
                  obtain ⟨hours, hoursSmall, rfl, rfl, rfl⟩ := digits_two_iff.mp hoursRead
                  obtain ⟨minutes, minutesSmall, minutesShape, rfl, rfl⟩ :=
                    digits_two_iff.mp minutesRead
                  have parts := List.takeWhile_append_dropWhile (p := isSeparator) (l := afterHours)
                  rw [minutesShape] at parts
                  refine ⟨sign, direction, hours, afterHours.takeWhile isSeparator, minutes,
                    directs_of_some directed, hoursSmall, by omega,
                    List.all_eq_true.mp List.all_takeWhile, by rw [parts], ?_⟩
                  rw [Nat.div_add_mod, Nat.div_add_mod]
              · cases read
          · cases read
      · cases read
  · rintro ⟨sign, direction, hours, between, minutes, directs, hoursSmall, minutesSmall, separators,
      rfl, rfl⟩
    have hoursRead : digits 2 (twoDigits hours ++ (between ++ (twoDigits minutes ++ left))) =
        ([hours / 10, hours % 10], between ++ (twoDigits minutes ++ left)) :=
      digits_two_iff.mpr ⟨hours, hoursSmall, rfl, rfl, rfl⟩
    have minutesRead : digits 2 (twoDigits minutes ++ left) =
        ([minutes / 10, minutes % 10], left) :=
      digits_two_iff.mpr ⟨minutes, by omega, rfl, rfl, rfl⟩
    have dropped : (between ++ (twoDigits minutes ++ left)).dropWhile isSeparator =
        twoDigits minutes ++ left :=
      Text.dropWhile_of_stops separators (isSeparator_twoDigits (by omega) left)
    have tens : minutes / 10 < 6 := by omega
    cases directs <;> simp [offset, hoursRead, dropped, minutesRead, Nat.div_add_mod, tens]

theorem isOffset_iff {seconds : Int} : isOffset seconds = true ↔ -86400 < seconds ∧ seconds < 86400 := by
  simp [isOffset]

end GitDelivery.Time.Reading
