import Conform.Coercion.Loose
import Conform.Proofs.Number.Overflow
import Conform.Proofs.Number.Rounding
import Conform.Proofs.Text.Case
import Mathlib.Data.Nat.Digits.Defs

namespace Conform

section Digits

-- A digit of a radix, in either letter case.
def DigitOf (radix : Nat) (c : Char) (digit : Nat) : Prop := digit < radix ∧ c.toLower = Nat.digitChar digit

instance (radix : Nat) (c : Char) (digit : Nat) : Decidable (DigitOf radix c digit) :=
  inferInstanceAs (Decidable (_ ∧ _))

-- Digits of a radix, the first worth the most.
structure RadixText (radix : Nat) (digits : List Char) (count : Nat) : Prop where
  filled : digits ≠ []
  worth : ∃ values, List.Forall₂ (DigitOf radix) digits values ∧ count = Nat.ofDigits radix values.reverse

-- What may stand between a zero and the digits, and the radix that it gives them.
def radixMarks : List (Char × Nat) := [('x', 16), ('X', 16), ('o', 8), ('O', 8), ('b', 2), ('B', 2)]

theorem hexValue?_eq_some_iff {c : Char} {digit : Nat} : Json.Token.hexValue? c = some digit ↔ DigitOf 16 c digit := by
  have order : ∀ first second : Char, first ≤ second ↔ first.toNat ≤ second.toNat := fun first second => by
    rw [Char.le_def, UInt32.le_iff_toNat_le]
    rfl
  have ranges : Json.Token.hexValue? c = some digit ↔
      (48 ≤ c.toNat ∧ c.toNat ≤ 57 ∧ digit = c.toNat - 48) ∨ (97 ≤ c.toNat ∧ c.toNat ≤ 102 ∧ digit = c.toNat - 87) ∨
      (65 ≤ c.toNat ∧ c.toNat ≤ 70 ∧ digit = c.toNat - 55) := by
    unfold Json.Token.hexValue?
    simp only [Char.isDigit_iff_toNat, order]
    rw [show '0'.toNat = 48 from rfl, show '9'.toNat = 57 from rfl, show 'a'.toNat = 97 from rfl,
      show 'f'.toNat = 102 from rfl, show 'A'.toNat = 65 from rfl, show 'F'.toNat = 70 from rfl]
    split
    · rw [Option.some.injEq]
      omega
    · split
      · rw [Option.some.injEq]
        omega
      · split
        · rw [Option.some.injEq]
          omega
        · exact iff_of_false nofun (by omega)
  have written : ∀ value < 16, (Nat.digitChar value).toNat = if value < 10 then 48 + value else 87 + value := by decide
  rw [ranges, DigitOf, ← Char.toNat_inj, Text.toNat_toLower]
  constructor
  · intro within
    rw [written digit (by omega)]
    split <;> split <;> omega
  · rintro ⟨small, same⟩
    rw [written digit small] at same
    split at same <;> split at same <;> omega

theorem radixOf?_eq_some_iff {mark : Char} {radix : Nat} :
    Loose.radixOf? mark = some radix ↔ (mark, radix) ∈ radixMarks := by
  unfold Loose.radixOf?
  split <;> simp_all [radixMarks, eq_comm]

end Digits

namespace Binary64

-- A double below a power of two is below it by half of the last place at least.
theorem add_le_of_lt_twoTo {units place : Nat} (aligned : gap units ∣ units) (less : units < twoTo (place + 53)) :
    units + twoTo place ≤ twoTo (place + 53) := by
  rcases Nat.lt_or_ge units (twoTo (place + 52)) with small | large
  · have low : twoTo place ≤ twoTo (place + 52) := twoTo_le (by omega)
    have double : twoTo (place + 53) = 2 * twoTo (place + 52) := twoTo_succ (place + 52)
    omega
  · have room := twoTo_pos (place + 52)
    have lower := log2_le large room
    rw [log2_twoTo] at lower
    have upper := log2_lt (by omega) less
    have step : gap units = twoTo place := by rw [gap, show units.log2 - 52 = place by omega]
    exact add_le_of_dvd (step ▸ aligned) (twoTo_dvd (by omega)) less

theorem safe_mul_one : safe * one = twoTo (53 + scale) := by
  rw [safe_eq, one, twoTo_add]

-- A double that stands for a whole number: up to 2^53 as it is, and beyond that on the same side of powers of two as
-- the number would be if it was rounded once.
structure Tracks (x : Binary64) (count : Nat) : Prop where
  positive : x.negative = false
  exact : count ≤ safe → x.units = count * one
  large : safe ≤ count → safe * one ≤ x.units
  powers : ∀ place, twoTo (place + 54) * one ≤ x.units ↔ edge place ≤ count

namespace Tracks

theorem zero : Tracks zero 0 where
  positive := rfl
  exact _ := (Nat.zero_mul one).symm
  large impossible := absurd impossible (by decide)
  powers place := iff_of_false (Nat.not_le.mpr (Nat.mul_pos (twoTo_pos _) one_pos)) (Nat.not_le.mpr (edge_pos place))

section Step
variable {x : Binary64} {count shift digit : Nat} (tracks : Tracks x count) (below : digit < twoTo shift)
include tracks below

omit below in
theorem edge_le_of_reached {place : Nat} (reached : twoTo (place + 54) * one ≤ x.units) :
    edge (place + shift) * one ≤ x.units * twoTo shift + digit * one ∧
    edge (place + shift) ≤ count * twoTo shift + digit := by
  have known := (tracks.powers place).mp reached
  rw [edge_add]
  constructor
  · calc edge place * twoTo shift * one ≤ twoTo (place + 54) * twoTo shift * one :=
          Nat.mul_le_mul_right _ (Nat.mul_le_mul_right _ (edge_le place))
      _ = twoTo (place + 54) * one * twoTo shift := Nat.mul_right_comm ..
      _ ≤ x.units * twoTo shift := Nat.mul_le_mul_right _ reached
      _ ≤ x.units * twoTo shift + digit * one := Nat.le_add_right _ _
  · exact Nat.le_trans (Nat.mul_le_mul_right _ known) (Nat.le_add_right _ _)

-- A double below a power of two leaves room for a digit more before half of the last place.
theorem lt_edge_of_short {place : Nat} (short : x.units < twoTo (place + 54) * one) :
    x.units * twoTo shift + digit * one < edge (place + shift) * one ∧
    count * twoTo shift + digit < edge (place + shift) := by
  have known := mt (tracks.powers place).mpr (Nat.not_le.mpr short)
  have aligned := Nat.dvd_of_mod_eq_zero x.representable.1
  have room : x.units + 2 * (twoTo place * one) ≤ twoTo (place + 54) * one := by
    have sum : place + 54 + scale = place + 1 + scale + 53 := by omega
    rw [one, ← twoTo_add, sum] at short
    have apart := add_le_of_lt_twoTo aligned short
    rwa [← sum, twoTo_add (place + 54), twoTo_add (place + 1), twoTo_succ, Nat.mul_assoc] at apart
  have digits : digit * one < twoTo place * one * twoTo shift :=
    calc digit * one < twoTo shift * one := Nat.mul_lt_mul_of_pos_right below one_pos
      _ ≤ twoTo place * (twoTo shift * one) := Nat.le_mul_of_pos_left _ (twoTo_pos place)
      _ = twoTo place * one * twoTo shift := by ring
  rw [edge_add]
  constructor
  · have scaled := Nat.mul_le_mul_right (twoTo shift) room
    rw [← edge_add_twoTo, Nat.add_mul, Nat.add_mul, Nat.add_mul, Nat.mul_assoc 2] at scaled
    rw [Nat.mul_right_comm]
    omega
  · have next : (count + 1) * twoTo shift ≤ edge place * twoTo shift := Nat.mul_le_mul_right _ (Nat.not_le.mp known)
    rw [Nat.add_mul, Nat.one_mul] at next
    omega

-- A digit more leaves both on the same side.
theorem step_iff (place : Nat) :
    edge place * one ≤ x.units * twoTo shift + digit * one ↔ edge place ≤ count * twoTo shift + digit := by
  rcases Nat.le_total count safe with small | large
  · rw [tracks.exact small, show count * one * twoTo shift + digit * one = (count * twoTo shift + digit) * one by ring,
      Nat.mul_le_mul_right_iff one_pos]
  · rcases Nat.lt_or_ge place shift with few | many
    · have low : edge place ≤ safe * twoTo shift := by
        rw [← twoTo_add_53]
        exact Nat.le_trans (edge_le place) (twoTo_le (by omega))
      refine iff_of_true ?_ ?_
      · calc edge place * one ≤ safe * twoTo shift * one := Nat.mul_le_mul_right _ low
          _ = safe * one * twoTo shift := Nat.mul_right_comm ..
          _ ≤ x.units * twoTo shift := Nat.mul_le_mul_right _ (tracks.large large)
          _ ≤ x.units * twoTo shift + digit * one := Nat.le_add_right _ _
      · exact Nat.le_trans low (Nat.le_trans (Nat.mul_le_mul_right _ large) (Nat.le_add_right _ _))
    · obtain ⟨before, rfl⟩ := Nat.exists_eq_add_of_le' many
      by_cases reached : twoTo (before + 54) * one ≤ x.units
      · obtain ⟨left, right⟩ := edge_le_of_reached tracks reached
        exact iff_of_true left right
      · obtain ⟨left, right⟩ := lt_edge_of_short tracks below (Nat.not_le.mp reached)
        exact iff_of_false (Nat.not_le.mpr left) (Nat.not_le.mpr right)

theorem shiftIn?_eq_none_iff : x.shiftIn? (twoTo shift) digit = none ↔ limit ≤ count * twoTo shift + digit := by
  rw [shiftIn?, ofRatio?_eq_none_iff Nat.one_pos, Nat.mul_one, limit]
  exact tracks.step_iff below 970

theorem shiftIn? {y : Binary64} (shifted : x.shiftIn? (twoTo shift) digit = some y) :
    Tracks y (count * twoTo shift + digit) := by
  unfold Binary64.shiftIn? ofRatio? at shifted
  split at shifted
  · cases shifted
    have grown : count ≤ count * twoTo shift + digit :=
      Nat.le_trans (Nat.le_mul_of_pos_right _ (twoTo_pos shift)) (Nat.le_add_right _ _)
    have whole (small : count ≤ safe) :
        x.units * twoTo shift + digit * one = (count * twoTo shift + digit) * one := by
      rw [tracks.exact small]
      ring
    refine ⟨tracks.positive, fun small => ?_, fun large => ?_, fun place => ?_⟩
    · dsimp only
      rw [whole (Nat.le_trans grown small)]
      exact nearest_exact _ (Nat.mod_eq_zero_of_dvd (gap_dvd _ scale small))
    · have enough : safe * one ≤ x.units * twoTo shift + digit * one := by
        rcases Nat.le_total count safe with small | beyond
        · rw [whole small]
          exact Nat.mul_le_mul_right _ large
        · calc safe * one ≤ x.units := tracks.large beyond
            _ ≤ x.units * twoTo shift := Nat.le_mul_of_pos_right _ (twoTo_pos shift)
            _ ≤ x.units * twoTo shift + digit * one := Nat.le_add_right _ _
      dsimp only
      rw [safe_mul_one] at enough ⊢
      exact le_nearest_of_le (by rwa [Nat.div_one])
    · dsimp only
      rw [one, ← twoTo_add, Nat.add_right_comm, twoTo_le_nearest_iff Nat.one_pos, Nat.mul_one, edge_add]
      exact tracks.step_iff below place
  · cases shifted

end Step

end Tracks

end Binary64

section Reading
open Binary64
variable {radix : Nat} (small : radix ≤ 16)
include small

theorem digitIn?_eq_some_iff {c : Char} {digit : Nat} : Loose.digitIn? radix c = some digit ↔ DigitOf radix c digit := by
  rw [Loose.digitIn?, Option.filter_eq_some_iff, hexValue?_eq_some_iff, DigitOf, DigitOf, decide_eq_true_eq]
  constructor
  · rintro ⟨⟨_, written⟩, below⟩
    exact ⟨below, written⟩
  · rintro ⟨below, written⟩
    exact ⟨⟨by omega, written⟩, below⟩

theorem exists_digits {digits : List Char} {x y : Binary64}
    (read : digits.foldlM (fun value c => (Loose.digitIn? radix c).bind (value.shiftIn? radix)) x = some y) :
    ∃ values, List.Forall₂ (DigitOf radix) digits values := by
  induction digits generalizing x with
  | nil => exact ⟨[], .nil⟩
  | cons c rest ih =>
      rw [List.foldlM_cons] at read
      obtain ⟨next, step, read⟩ := Option.bind_eq_some_iff.mp read
      obtain ⟨digit, written, _⟩ := Option.bind_eq_some_iff.mp step
      obtain ⟨values, each⟩ := ih read
      exact ⟨digit :: values, .cons ((digitIn?_eq_some_iff small).mp written) each⟩

-- Whatever else follows, a number that is past the doubles stays past them.
theorem foldlM_spec {shift : Nat} (power : radix = twoTo shift) {digits : List Char} {values : List Nat}
    (each : List.Forall₂ (DigitOf radix) digits values) {x : Binary64} {count : Nat} (tracks : Tracks x count) :
    (digits.foldlM (fun value c => (Loose.digitIn? radix c).bind (value.shiftIn? radix)) x = none ↔
      limit ≤ count * radix ^ values.length + Nat.ofDigits radix values.reverse) ∧
    ∀ y, digits.foldlM (fun value c => (Loose.digitIn? radix c).bind (value.shiftIn? radix)) x = some y →
      Tracks y (count * radix ^ values.length + Nat.ofDigits radix values.reverse) := by
  subst power
  induction each generalizing x count with
  | nil =>
      rw [List.foldlM_nil, List.length_nil, Nat.pow_zero, Nat.mul_one, List.reverse_nil, Nat.ofDigits_nil, Nat.add_zero]
      refine ⟨iff_of_false nofun fun past => ?_, fun y same => by cases same; exact tracks⟩
      have reached := (tracks.powers 970).mpr past
      rw [one, ← twoTo_add] at reached
      exact absurd x.representable.2 (Nat.not_lt.mpr reached)
  | @cons c digit rest values written each ih =>
      have below := written.1
      have sum : count * twoTo shift ^ (digit :: values).length + Nat.ofDigits (twoTo shift) (digit :: values).reverse =
          (count * twoTo shift + digit) * twoTo shift ^ values.length + Nat.ofDigits (twoTo shift) values.reverse := by
        rw [List.length_cons, List.reverse_cons, Nat.ofDigits_append, Nat.ofDigits_singleton, List.length_reverse,
          Nat.pow_succ]
        ring
      rw [sum, List.foldlM_cons, (digitIn?_eq_some_iff small).mpr written, Option.bind_some]
      cases shifted : x.shiftIn? (twoTo shift) digit with
      | none =>
          refine ⟨iff_of_true rfl ?_, fun y read => absurd read.symm (Option.some_ne_none y)⟩
          calc limit ≤ count * twoTo shift + digit := (tracks.shiftIn?_eq_none_iff below).mp shifted
            _ ≤ (count * twoTo shift + digit) * twoTo shift ^ values.length :=
              Nat.le_mul_of_pos_right _ (Nat.pow_pos (twoTo_pos shift))
            _ ≤ (count * twoTo shift + digit) * twoTo shift ^ values.length +
                Nat.ofDigits (twoTo shift) values.reverse := Nat.le_add_right _ _
      | some next => exact ih (tracks.shiftIn? below shifted)

end Reading

theorem radix_power {mark : Char} {radix : Nat} (marked : (mark, radix) ∈ radixMarks) :
    radix ≤ 16 ∧ ∃ shift, radix = Binary64.twoTo shift := by
  simp only [radixMarks, List.mem_cons, Prod.mk.injEq, List.not_mem_nil, or_false] at marked
  rcases marked with ⟨_, rfl⟩ | ⟨_, rfl⟩ | ⟨_, rfl⟩ | ⟨_, rfl⟩ | ⟨_, rfl⟩ | ⟨_, rfl⟩
  · exact ⟨by decide, 4, rfl⟩
  · exact ⟨by decide, 4, rfl⟩
  · exact ⟨by decide, 3, rfl⟩
  · exact ⟨by decide, 3, rfl⟩
  · exact ⟨by decide, 1, rfl⟩
  · exact ⟨by decide, 1, rfl⟩

namespace RadixText
open Binary64
variable {radix : Nat} {digits : List Char} (small : radix ≤ 16)
include small

theorem exists_of_readRadix? {x : Binary64} (read : Loose.readRadix? radix digits = some x) :
    ∃ count, RadixText radix digits count := by
  unfold Loose.readRadix? at read
  split at read
  · cases read
  · rename_i some
    obtain ⟨values, each⟩ := exists_digits small read
    exact ⟨_, by simpa using some, values, each, rfl⟩

variable {count shift : Nat} (power : radix = twoTo shift) (written : RadixText radix digits count)
include power written

theorem readRadix?_spec :
    (Loose.readRadix? radix digits = none ↔ limit ≤ count) ∧
    ∀ x, Loose.readRadix? radix digits = some x → Tracks x count := by
  obtain ⟨some, values, each, rfl⟩ := written
  have read := foldlM_spec small power each .zero
  rw [Nat.zero_mul, Nat.zero_add] at read
  rw [Loose.readRadix?, if_neg (by simpa using some)]
  exact read

-- Up to 2^53 nothing is rounded.
theorem exists_readRadix? (exact : count ≤ safe) :
    ∃ x, Loose.readRadix? radix digits = some x ∧ x.toUnits = count * one := by
  obtain ⟨past, tracks⟩ := readRadix?_spec small power written
  cases read : Loose.readRadix? radix digits with
  | none =>
      have within : safe < limit := by decide +kernel
      exact absurd (past.mp read) (Nat.not_le.mpr (Nat.lt_of_le_of_lt exact within))
  | some x =>
      have known := tracks x read
      refine ⟨x, rfl, ?_⟩
      rw [Binary64.toUnits, known.positive, known.exact exact, if_neg Bool.false_ne_true, Int.natCast_mul]

end RadixText

end Conform
