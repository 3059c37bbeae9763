import Conform.Proofs.Number.Rounding
import Conform.Proofs.Number.Text

namespace Conform

namespace Binary64

section Rounding

theorem nearest_le_of_lt {num den place : Nat} (small : num / den < twoTo (place + 53)) :
    nearest num den ≤ twoTo (place + 53) := by
  rcases Nat.eq_zero_or_pos (num / den) with zero | positive
  · have least := Nat.one_le_two_pow (n := place + 53)
    have bound := nearest_eq_or num den
    rw [zero] at bound
    have one : gap 0 = 1 := rfl
    rw [one] at bound
    change 1 ≤ twoTo (place + 53) at least
    omega
  · have logs := log2_lt (by omega) small
    have floor := Nat.div_mul_le_self (num / den) (gap (num / den))
    have next := add_le_of_dvd (Nat.dvd_mul_left (gap (num / den)) (num / den / gap (num / den)))
      (twoTo_dvd (by omega : (num / den).log2 - 52 ≤ place + 53)) (by omega)
    have rounded := nearest_eq_or num den
    omega

theorem le_nearest_of_le {num den place : Nat} (large : twoTo place ≤ num / den) : twoTo place ≤ nearest num den := by
  have room := twoTo_pos place
  have logs := log2_le large room
  rw [log2_twoTo] at logs
  have power := twoTo_le logs
  have floor := twoTo_log2_le_floor (by omega : 0 < num / den)
  have rounded := nearest_eq_or num den
  omega

-- Half of the last place of doubles below 2^(place + 54), less than that power of two.
def edge (place : Nat) : Nat := (2 * safe - 1) * twoTo place

theorem twoTo_add_53 (place : Nat) : twoTo (place + 53) = safe * twoTo place := by
  rw [twoTo_add, ← safe_eq, Nat.mul_comm]

theorem twoTo_add_54 (place : Nat) : twoTo (place + 54) = safe * (2 * twoTo place) := by
  rw [show place + 54 = place + 1 + 53 by omega, twoTo_add_53, twoTo_succ]

theorem edge_add_twoTo (place : Nat) : edge place + twoTo place = twoTo (place + 54) := by
  have parts : 2 * safe - 1 + 1 = safe * 2 := rfl
  rw [twoTo_add_54, ← Nat.mul_assoc, ← parts, edge, Nat.add_mul (2 * safe - 1) 1, Nat.one_mul]

theorem edge_le (place : Nat) : edge place ≤ twoTo (place + 54) := by
  rw [← edge_add_twoTo]
  exact Nat.le_add_right _ _

theorem twoTo_le_edge (place : Nat) : twoTo (place + 53) ≤ edge place := by
  rw [twoTo_add_53, edge]
  exact Nat.mul_le_mul_right _ (by decide)

theorem edge_add (first second : Nat) : edge (first + second) = edge first * twoTo second := by
  rw [edge, edge, twoTo_add, Nat.mul_assoc]

theorem edge_pos (place : Nat) : 0 < edge place := Nat.mul_pos (by decide) (twoTo_pos place)

-- Below an even limit the topmost quotient is odd, so that half of the divisor is enough to round it up.
theorem le_roundHalfEven_iff {num den top : Nat} (positive : 0 < den) (odd : top % 2 = 1) (last : num / den ≤ top) :
    top + 1 ≤ roundHalfEven num den ↔ (2 * top + 1) * den ≤ 2 * num := by
  have division := Nat.div_add_mod' num den
  have remainder := Nat.mod_lt num positive
  have spread : (2 * top + 1) * den = 2 * (top * den) + den := by ring
  rw [spread]
  rcases Nat.lt_or_eq_of_le last with less | same
  · have few : (num / den + 1) * den ≤ top * den := Nat.mul_le_mul_right den less
    have rounded := roundHalfEven_le num den
    rw [Nat.succ_mul] at few
    exact iff_of_false (by omega) (by omega)
  · rw [same] at division
    unfold roundHalfEven
    rw [same]
    by_cases half : 2 * (num % den) < den
    · rw [if_pos (.inl half)]
      exact iff_of_false (by omega) (by omega)
    · rw [if_neg (by omega)]
      exact iff_of_true (Nat.le_refl _) (by omega)

theorem gap_of_binade {units place : Nat} (large : twoTo (place + 53) ≤ units) (below : units < twoTo (place + 54)) :
    gap units = 2 * twoTo place := by
  have room := twoTo_pos (place + 53)
  have upper := log2_lt (by omega) below
  have lower := log2_le large room
  rw [log2_twoTo] at lower
  rw [gap, show units.log2 - 52 = place + 1 by omega, twoTo_succ]

-- In the last binade below a power of two only the topmost quotient can be rounded up to it.
theorem twoTo_le_nearest_iff {num den place : Nat} (positive : 0 < den) :
    twoTo (place + 54) ≤ nearest num den ↔ edge place * den ≤ num := by
  have whole := twoTo_add_54 place
  have room := twoTo_pos place
  rcases Nat.lt_or_ge (num / den) (twoTo (place + 53)) with small | large
  · have rounded := nearest_le_of_lt small
    have less := (Nat.div_lt_iff_lt_mul positive).mp small
    have few : twoTo (place + 53) * den ≤ edge place * den := Nat.mul_le_mul_right den (twoTo_le_edge place)
    have double : twoTo (place + 54) = 2 * twoTo (place + 53) := twoTo_succ (place + 53)
    have some := twoTo_pos (place + 53)
    exact iff_of_false (by omega) (by omega)
  · rcases Nat.lt_or_ge (num / den) (twoTo (place + 54)) with below | above
    · have step := gap_of_binade large below
      have last : num / (den * gap (num / den)) < safe := by
        rw [← Nat.div_div_eq_div_mul, Nat.div_lt_iff_lt_mul (gap_pos _), step, ← whole]
        exact below
      have rounded := le_roundHalfEven_iff (Nat.mul_pos positive (gap_pos (num / den)))
        (by decide : (safe - 1) % 2 = 1) (Nat.le_sub_one_of_lt last)
      rw [show safe - 1 + 1 = safe from rfl, show 2 * (safe - 1) + 1 = 2 * safe - 1 from rfl, step,
        show (2 * safe - 1) * (den * (2 * twoTo place)) = 2 * (edge place * den) by rw [edge]; ring] at rounded
      rw [nearest, whole, step, Nat.mul_le_mul_right_iff (Nat.mul_pos Nat.two_pos room), rounded]
      exact Nat.mul_le_mul_left_iff Nat.two_pos
    · have rounded := le_nearest_of_le above
      have many := (Nat.le_div_iff_mul_le positive).mp above
      have few : edge place * den ≤ twoTo (place + 54) * den := Nat.mul_le_mul_right den (edge_le place)
      exact iff_of_true rounded (Nat.le_trans few many)

end Rounding

-- Half of the last place below 2^1024: from here on numbers are nearer to infinity than to a double.
def limit : Nat := edge 970

theorem cast_twoTo (exponent : Nat) : (twoTo exponent : ℚ) = 2 ^ exponent := by
  rw [twoTo, Nat.pow_eq, Nat.cast_pow, Nat.cast_ofNat]

theorem limit_eq : (limit : ℚ) = 2 ^ 1024 - 2 ^ 970 := by
  rw [eq_sub_iff_add_eq, ← cast_twoTo, ← cast_twoTo, ← Nat.cast_add, limit, edge_add_twoTo]

theorem limit_pos : 0 < limit := edge_pos 970

theorem limit_le_ten_pow : limit ≤ 10 ^ 400 := by decide +kernel

theorem bound_le_nearest_iff {num den : Nat} (positive : 0 < den) :
    bound ≤ nearest num den ↔ limit * one * den ≤ num := by
  rw [limit, one, ← edge_add]
  exact twoTo_le_nearest_iff positive

theorem ofRatio?_eq_none_iff {negative : Bool} {num den : Nat} (positive : 0 < den) :
    ofRatio? negative num den = none ↔ limit * one * den ≤ num := by
  rw [← bound_le_nearest_iff positive]
  unfold ofRatio?
  split
  · rename_i small
    exact iff_of_false (Option.some_ne_none _) (Nat.not_le.mpr small)
  · rename_i large
    exact iff_of_true rfl (Nat.not_lt.mp large)

end Binary64

namespace Decimal
open Binary64

theorem magnitude_bounds {decimal : Decimal} (positive : 0 < decimal.digits) :
    (10 : ℚ) ^ ((Nat.toDigits 10 decimal.digits).length + decimal.exponent - 1) ≤ decimal.magnitude ∧
    decimal.magnitude < 10 ^ ((Nat.toDigits 10 decimal.digits).length + decimal.exponent) := by
  obtain ⟨lower, upper⟩ := length_toDigits_bounds positive
  have count := Nat.length_toDigits_pos (b := 10) (n := decimal.digits)
  generalize (Nat.toDigits 10 decimal.digits).length = length at *
  have room : (0 : ℚ) < 10 ^ decimal.exponent := zpow_pos (by norm_num) _
  have first : (length : Int) + decimal.exponent - 1 = (length - 1 : Nat) + decimal.exponent := by omega
  rw [magnitude, first, zpow_add₀ (by norm_num), zpow_add₀ (by norm_num), zpow_natCast, zpow_natCast]
  exact ⟨mul_le_mul_of_nonneg_right (by exact_mod_cast lower) room.le,
    mul_lt_mul_of_pos_right (by exact_mod_cast upper) room⟩

-- A decimal number has a finite double exactly below the limit.
theorem toBinary64?_eq_none_iff (decimal : Decimal) :
    decimal.toBinary64? = none ↔ (limit : ℚ) ≤ decimal.magnitude := by
  have least : (1 : ℚ) ≤ limit := by exact_mod_cast limit_pos
  have most : (limit : ℚ) ≤ 10 ^ (400 : Int) := by exact_mod_cast limit_le_ten_pow
  rcases Nat.eq_zero_or_pos decimal.digits with none | some
  · have zero : decimal.magnitude = 0 := by rw [magnitude, none, Nat.cast_zero, zero_mul]
    rw [toBinary64?, if_pos (.inl none), zero]
    exact iff_of_false (Option.some_ne_none _) (by linarith)
  · obtain ⟨lower, upper⟩ := magnitude_bounds some
    unfold toBinary64?
    dsimp only
    generalize ((Nat.toDigits 10 decimal.digits).length : Int) + decimal.exponent = size at *
    by_cases tiny : size < -400
    · have few : (10 : ℚ) ^ size ≤ 1 := zpow_le_one_of_nonpos₀ (by norm_num) (by omega)
      rw [if_pos (.inr tiny)]
      exact iff_of_false (Option.some_ne_none _) (by linarith)
    · rw [if_neg (by omega)]
      by_cases huge : 400 < size
      · have many : (10 : ℚ) ^ (400 : Int) ≤ 10 ^ (size - 1) := zpow_le_zpow_right₀ (by norm_num) (by omega)
        rw [if_pos huge]
        exact iff_of_true rfl (by linarith)
      · rw [if_neg huge, magnitude, ten_zpow]
        split
        · have nothing : (-decimal.exponent).toNat = 0 := by omega
          rw [ofRatio?_eq_none_iff Nat.one_pos, Nat.mul_one, Nat.mul_le_mul_right_iff Binary64.one_pos, nothing,
            show Nat.pow 10 0 = 1 from rfl, Nat.cast_one, div_one, ← Nat.cast_mul, Nat.cast_le]
        · have nothing : decimal.exponent.toNat = 0 := by omega
          have room : 0 < Nat.pow 10 (-decimal.exponent).toNat := Nat.pow_pos (by decide)
          rw [ofRatio?_eq_none_iff room, Nat.mul_right_comm, Nat.mul_le_mul_right_iff Binary64.one_pos, nothing,
            show Nat.pow 10 0 = 1 from rfl, Nat.cast_one, mul_one_div, le_div_iff₀ (by exact_mod_cast room),
            ← Nat.cast_mul, Nat.cast_le]

end Decimal
end Conform
