import Conform.Proofs.Number.Shortest
import Conform.Proofs.Number.Whole

namespace Conform.Binary64

section Nearest

theorem roundHalfEven_cases (num den : Nat) :
    (roundHalfEven num den = num / den ∧ 2 * (num % den) ≤ den) ∨
    (roundHalfEven num den = num / den + 1 ∧ den ≤ 2 * (num % den)) := by
  unfold roundHalfEven
  dsimp only
  split
  · exact .inl ⟨rfl, by omega⟩
  · exact .inr ⟨rfl, by omega⟩

theorem nearest_eq_or (num den : Nat) :
    nearest num den = num / den / gap (num / den) * gap (num / den) ∨
    nearest num den = num / den / gap (num / den) * gap (num / den) + gap (num / den) := by
  rw [nearest, Nat.div_div_eq_div_mul, ← Nat.succ_mul]
  rcases roundHalfEven_cases num (den * gap (num / den)) with ⟨down, _⟩ | ⟨up, _⟩
  · exact .inl (by rw [down])
  · exact .inr (by rw [up])

theorem twoTo_log2_le_floor {units : Nat} (positive : 0 < units) : twoTo units.log2 ≤ units / gap units * gap units := by
  have multiple := Nat.div_mul_cancel (twoTo_dvd (Nat.sub_le units.log2 52))
  have quotient := Nat.div_le_div_right (c := gap units) (twoTo_log2_le (by omega : units ≠ 0))
  rw [← multiple]
  exact Nat.mul_le_mul_right _ quotient

-- A magnitude lies between two multiples of its gap, and no double lies between those.
theorem outside_of_aligned (units : Nat) {other : Nat} (aligned : gap other ∣ other) :
    other ≤ units / gap units * gap units ∨ units / gap units * gap units + gap units ≤ other := by
  apply Decidable.byContradiction
  intro between
  have room := gap_pos units
  rcases Nat.eq_zero_or_pos units with rfl | positive
  · have one : gap 0 = 1 := rfl
    omega
  · have start := twoTo_log2_le_floor positive
    have logs : units.log2 ≤ other.log2 := by
      have monotone := log2_le (by omega : twoTo units.log2 ≤ other) (twoTo_pos _)
      rwa [log2_twoTo] at monotone
    have divides : gap units ∣ other := Nat.dvd_trans (twoTo_dvd (by omega)) aligned
    have next := add_le_of_dvd (Nat.dvd_mul_left (gap units) (units / gap units)) divides (by omega)
    omega

theorem nearest_le_distance (units : Nat) {other : Nat} (aligned : gap other ∣ other) :
    ((nearest units 1 : Int) - units).natAbs ≤ ((other : Int) - units).natAbs := by
  have whole := Nat.div_add_mod' units (gap units)
  have small := Nat.mod_lt units (gap_pos units)
  have outside := outside_of_aligned units aligned
  have rounded := roundHalfEven_cases units (gap units)
  simp only [nearest, Nat.div_one, Nat.one_mul]
  rcases rounded with ⟨down, near⟩ | ⟨up, near⟩
  · rw [down]
    generalize units / gap units * gap units = lower at *
    omega
  · rw [up, Nat.succ_mul]
    generalize units / gap units * gap units = lower at *
    omega

end Nearest

-- The double nearest to an integer, in units; a tie goes to the even significand.
def nearestUnits (value : Int) : Int := value.sign * (nearest (value.natAbs * one) 1 : Nat)

theorem toUnits_ofInt (value : Int) (small : value.natAbs < wide) : (ofInt value small).toUnits = nearestUnits value := by
  unfold toUnits nearestUnits ofInt
  dsimp only
  rcases Int.lt_trichotomy value 0 with negative | rfl | positive
  · rw [if_pos (by simpa using negative), Int.sign_eq_neg_one_of_neg negative, Int.neg_one_mul]
  · have zero : nearest 0 1 = 0 := nearest_exact 0 (Nat.zero_mod _)
    simp [zero]
  · rw [if_neg (by simpa using Int.le_of_lt positive), Int.sign_eq_one_of_pos positive, Int.one_mul]

-- No double is nearer to an integer.
def IsNearest (x : Binary64) (value : Int) : Prop :=
  ∀ y : Binary64, (x.toUnits - value * one).natAbs ≤ (y.toUnits - value * one).natAbs

theorem isNearest_ofInt (value : Int) (small : value.natAbs < wide) : (ofInt value small).IsNearest value := by
  intro y
  have aligned : gap y.units ∣ y.units := Nat.dvd_of_mod_eq_zero y.representable.1
  have near := nearest_le_distance (value.natAbs * one) aligned
  have near' := nearest_le_distance (value.natAbs * one) (Nat.dvd_zero (gap 0))
  rw [toUnits_ofInt, nearestUnits]
  rw [Int.natCast_mul] at near near'
  generalize nearest (value.natAbs * one) 1 = rounded at near near' ⊢
  have sign : y.toUnits = y.units ∨ y.toUnits = -y.units := by
    unfold toUnits
    split
    · exact .inr rfl
    · exact .inl rfl
  -- a double of the other sign is no nearer than zero, which is a double too
  rcases Int.lt_trichotomy value 0 with negative | rfl | positive
  · have size : (value.natAbs : Int) = -value := Int.ofNat_natAbs_of_nonpos (Int.le_of_lt negative)
    have below : value * one ≤ 0 := Int.mul_nonpos_of_nonpos_of_nonneg (Int.le_of_lt negative) (Int.natCast_nonneg _)
    rw [size, Int.neg_mul] at near near'
    rw [Int.sign_eq_neg_one_of_neg negative, Int.neg_one_mul]
    omega
  · simp only [Int.sign_zero, Int.zero_mul, Int.sub_zero, Int.natAbs_zero, Nat.zero_le]
  · have size : (value.natAbs : Int) = value := Int.natAbs_of_nonneg (Int.le_of_lt positive)
    have above : 0 ≤ value * one := Int.mul_nonneg (Int.le_of_lt positive) (Int.natCast_nonneg _)
    rw [size] at near near'
    rw [Int.sign_eq_one_of_pos positive, Int.one_mul]
    omega

theorem units_of_exact (value : Int) (small : value.natAbs < wide) (exact : value.natAbs ≤ safe) :
    (ofInt value small).toUnits = value * one := by
  have units : ((ofInt value small).units : Int) = value.natAbs * one := by
    rw [units_ofInt value small exact, Int.natCast_mul]
  unfold toUnits
  rw [units]
  by_cases negative : value < 0
  · rw [if_pos (by simpa [ofInt] using negative), Int.ofNat_natAbs_of_nonpos (Int.le_of_lt negative), Int.neg_mul,
      Int.neg_neg]
  · rw [if_neg (by simpa [ofInt] using negative), Int.natAbs_of_nonneg (Int.not_lt.mp negative)]

theorem safe_lt_wide : safe < wide := by decide

namespace IsNearest
variable {x y : Binary64} {first second : Int}

-- Were the doubles the other way round, each would be nearer to the other integer.
theorem mono (near : x.IsNearest first) (near' : y.IsNearest second) (less : first < second) : x ≤ y := by
  have apart : first * one < second * one := Int.mul_lt_mul_of_pos_right less (Int.natCast_pos.mpr one_pos)
  have left := near y
  have right := near' x
  show x.toUnits ≤ y.toUnits
  omega

theorem exact (near : x.IsNearest first) (small : first.natAbs ≤ safe) : x.toUnits = first * one := by
  have fits := Nat.lt_of_le_of_lt small safe_lt_wide
  have distance := near (.ofInt first fits)
  rw [units_of_exact first fits small] at distance
  omega

theorem le_of_le (near : x.IsNearest first) (le : first ≤ second) (small : second.natAbs ≤ safe) :
    x.toUnits ≤ second * one := by
  rcases Int.lt_or_eq_of_le le with less | rfl
  · have fits := Nat.lt_of_le_of_lt small safe_lt_wide
    have below : x.toUnits ≤ (ofInt second fits).toUnits := near.mono (isNearest_ofInt second fits) less
    rwa [units_of_exact second fits small] at below
  · exact Int.le_of_eq (near.exact small)

theorem ge_of_ge (near : x.IsNearest first) (ge : second ≤ first) (small : second.natAbs ≤ safe) :
    second * one ≤ x.toUnits := by
  rcases Int.lt_or_eq_of_le ge with less | rfl
  · have fits := Nat.lt_of_le_of_lt small safe_lt_wide
    have above : (ofInt second fits).toUnits ≤ x.toUnits := (isNearest_ofInt second fits).mono near less
    rwa [units_of_exact second fits small] at above
  · exact Int.le_of_eq (near.exact small).symm

-- Beyond 2^53 two integers may share a double, but one that is below it shares its double with no other.
theorem le_iff (near : x.IsNearest first) (near' : y.IsNearest second)
    (either : first.natAbs < safe ∨ second.natAbs < safe) : x ≤ y ↔ first ≤ second := by
  have room : (0 : Int) < one := Int.natCast_pos.mpr one_pos
  constructor
  · intro le
    have units : x.toUnits ≤ y.toUnits := le
    apply Decidable.byContradiction
    intro greater
    have greater := Int.not_le.mp greater
    rcases either with small | small
    · have below := near'.le_of_le (Int.le_sub_one_of_lt greater) (by omega)
      rw [near.exact (Nat.le_of_lt small)] at units
      rw [Int.sub_mul, Int.one_mul] at below
      omega
    · have above := near.ge_of_ge (Int.add_one_le_of_lt greater) (by omega)
      rw [near'.exact (Nat.le_of_lt small)] at units
      rw [Int.add_mul, Int.one_mul] at above
      omega
  · intro le
    rcases Int.lt_or_eq_of_le le with less | rfl
    · exact near.mono near' less
    · have small : first.natAbs ≤ safe := by omega
      show x.toUnits ≤ y.toUnits
      rw [near.exact small, near'.exact small]

end IsNearest

theorem whole_mul_one {x : Binary64} (integral : x.isWhole = true) : x.whole * one = x.toUnits := by
  have units : (x.units / one : Nat) * one = x.units :=
    Nat.div_mul_cancel (Nat.dvd_of_mod_eq_zero (by simpa [isWhole] using integral))
  have units : ((x.units / one : Nat) : Int) * one = x.units := by exact_mod_cast units
  unfold whole toUnits
  split
  · rw [Int.neg_mul, units]
  · exact units

-- What is stored of a double is worth the same.
theorem toUnits_ofBinary64 (x : Binary64) : (Number.ofBinary64 x).toBinary64.toUnits = x.toUnits := by
  by_cases stored : x.isWhole = true ∧ x.isSafe = true
  · rw [Number.toBinary64_ofBinary64_of_isWhole stored.2 stored.1, Number.toBinary64,
      units_of_exact _ _ (whole_natAbs_le stored.2), whole_mul_one stored.1]
  · rw [Number.ofBinary64, dif_neg stored]
    rfl

end Conform.Binary64
