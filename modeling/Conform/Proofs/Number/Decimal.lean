import Conform.Coercion.Loose
import Conform.Proofs.Number.Rounding
import Conform.Proofs.Number.Text

namespace Conform
open Conform.Text

namespace Binary64

theorem toUnits_ofRatio? {negative : Bool} {count : Nat} (small : count < wide) :
    ∃ x, ofRatio? negative (count * one) 1 = some x ∧
      x.toUnits = if negative then -(nearest (count * one) 1 : Int) else nearest (count * one) 1 := by
  have room : nearest (count * one) 1 < bound := by
    have upper := nearest_le (count * one)
    have less : count * one < wide * one := Nat.mul_lt_mul_of_pos_right small one_pos
    have bounded := wide_le_bound
    omega
  exact ⟨_, dif_pos room, rfl⟩

theorem nearestUnits_natCast (count : Nat) : nearestUnits count = nearest (count * one) 1 := by
  rcases Nat.eq_zero_or_pos count with rfl | positive
  · have zero : nearest 0 1 = 0 := nearest_exact 0 (Nat.zero_mod _)
    simp [nearestUnits, zero]
  · rw [nearestUnits, Int.sign_eq_one_of_pos (Int.natCast_pos.mpr positive), Int.one_mul, Int.natAbs_natCast]

theorem nearestUnits_neg (value : Int) : nearestUnits (-value) = -nearestUnits value := by
  rw [nearestUnits, nearestUnits, Int.sign_neg, Int.natAbs_neg, Int.neg_mul]

end Binary64

theorem Decimal.toBinary64?_integer (negative : Bool) {count : Nat} (small : count < Binary64.wide) :
    ∃ x, toBinary64? ⟨negative, count, 0⟩ = some x ∧
      x.toUnits = if negative then -Binary64.nearestUnits count else Binary64.nearestUnits count := by
  rw [Binary64.nearestUnits_natCast]
  unfold toBinary64?
  dsimp only
  rcases Nat.eq_zero_or_pos count with rfl | positive
  · have zero : Binary64.nearest (0 * Binary64.one) 1 = 0 := by
      rw [Nat.zero_mul]
      exact Binary64.nearest_exact 0 (Nat.zero_mod _)
    rw [if_pos (.inl rfl), zero]
    exact ⟨_, rfl, rfl⟩
  · have few : (Nat.toDigits 10 count).length ≤ 31 :=
      (Nat.length_toDigits_le_iff (by decide) (by decide)).mpr (Nat.lt_trans small (by decide))
    rw [if_neg (by omega), if_neg (by omega), if_pos (Int.le_refl 0)]
    have power : count * Nat.pow 10 (Int.toNat 0) * Binary64.one = count * Binary64.one := by
      rw [show Nat.pow 10 (Int.toNat 0) = 1 from rfl, Nat.mul_one]
    rw [power]
    exact Binary64.toUnits_ofRatio? small

-- A decimal integer, and what it is worth.
structure IntegerText (sign digits : List Char) (value : Int) : Prop where
  signed : sign = [] ∨ sign = ['+'] ∨ sign = ['-']
  filled : digits ≠ []
  decimal : ∀ c ∈ digits, c.isDigit = true
  worth : value = if sign = ['-'] then -(Nat.ofDigitChars 10 digits 0 : Int) else Nat.ofDigitChars 10 digits 0

namespace IntegerText
variable {sign digits : List Char} {value : Int} (written : IntegerText sign digits value)
include written

theorem natAbs : Nat.ofDigitChars 10 digits 0 = value.natAbs := by
  rw [written.worth]
  split <;> omega

theorem solid : ∀ c ∈ sign ++ digits, isBlank c = false ∧ c ≠ ',' ∧ c ≠ '(' ∧ c ≠ ')' := by
  intro c within
  rcases List.mem_append.mp within with mark | digit
  · rcases written.signed with rfl | rfl | rfl
    · cases mark
    · rw [List.mem_singleton.mp mark]
      decide
    · rw [List.mem_singleton.mp mark]
      decide
  · have known := Char.isDigit_iff_toNat.mp (written.decimal c digit)
    have low : 48 ≤ c.toNat := known.1
    have top : c.toNat ≤ 57 := known.2
    refine ⟨?_, ?_, ?_, ?_⟩
    · simp [isBlank]
      omega
    all_goals
      rintro rfl
      exact absurd known (by decide)

theorem tight : trim (sign ++ digits) = sign ++ digits := trim_of_solid fun c within => (written.solid c within).1

theorem read? : Decimal.read? (sign ++ digits) = some ⟨decide (sign = ['-']), value.natAbs, 0⟩ := by
  have read := Decimal.read?_plain written.decimal written.filled .nil
  have count : Decimal.ofDigits digits = value.natAbs := written.natAbs
  simp only [List.append_nil, count] at read
  rcases written.signed with rfl | rfl | rfl
  · exact read false
  · refine Eq.trans ?_ (read false)
    have sign := Decimal.splitSign_signText false (Decimal.head_digit written.decimal written.filled [])
    rw [List.append_nil] at sign
    unfold Decimal.read?
    rw [sign]
    rfl
  · exact read true

-- No digit is the mark of a radix.
theorem readNumber?_eq : Loose.readNumber? (sign ++ digits) = Loose.readDecimal? (sign ++ digits) := by
  unfold Loose.readNumber?
  rw [written.tight]
  split
  · rename_i empty
    exact absurd (List.append_eq_nil_iff.mp empty).2 written.filled
  · rename_i mark rest marked
    have digit : mark.isDigit = true := by
      rcases written.signed with rfl | rfl | rfl
      · exact written.decimal mark (by rw [← List.nil_append digits, marked]; simp)
      · cases marked
      · cases marked
    have none : Loose.radixOf? mark = none := by
      unfold Loose.radixOf?
      split <;> first | rfl | cases digit
    rw [none, marked]
  · rfl

-- The text of an integer is read as the double nearest to it.
theorem exists_readNumber? (small : value.natAbs < Binary64.wide) :
    ∃ x, Loose.readNumber? (sign ++ digits) = some x ∧ x.toUnits = Binary64.nearestUnits value := by
  obtain ⟨x, read, units⟩ := Decimal.toBinary64?_integer (decide (sign = ['-'])) small
  refine ⟨x, ?_, ?_⟩
  · rw [written.readNumber?_eq, Loose.readDecimal?, written.read?]
    exact read
  · rw [units]
    have worth := written.worth
    rw [written.natAbs] at worth
    by_cases minus : sign = ['-']
    · rw [if_pos minus] at worth
      rw [if_pos (decide_eq_true minus), ← Binary64.nearestUnits_neg, ← worth]
    · rw [if_neg minus] at worth
      rw [if_neg (by simpa using minus), ← worth]

end IntegerText

end Conform
