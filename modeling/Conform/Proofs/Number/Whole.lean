import Conform.Json.Basic

namespace Conform

namespace Binary64

theorem isWhole_ofInt {value : Int} (small : value.natAbs < wide) (exact : value.natAbs ≤ safe) :
    (ofInt value small).isWhole = true := by
  simp [isWhole, units_ofInt value small exact]

theorem isSafe_ofInt {value : Int} (small : value.natAbs < wide) (exact : value.natAbs ≤ safe) :
    (ofInt value small).isSafe = true := by
  simpa [isSafe, units_ofInt value small exact] using Nat.mul_le_mul_right one exact

-- From 2^53 on, neighbouring doubles are at least one apart.
theorem one_dvd_gap {units : Nat} (large : safe * one ≤ units) : one ∣ gap units := by
  rw [safe_eq, one, ← twoTo_add] at large
  refine twoTo_dvd (Decidable.byContradiction fun short => ?_)
  have below : twoTo (units.log2 + 1) ≤ twoTo (53 + scale) := twoTo_le (by omega)
  have above := lt_twoTo_log2 units
  omega

theorem isWhole_of_large {x : Binary64} (large : safe * one ≤ x.units) : x.isWhole = true := by
  have aligned := Nat.dvd_of_mod_eq_zero x.representable.1
  simpa [isWhole] using Nat.mod_eq_zero_of_dvd (Nat.dvd_trans (one_dvd_gap large) aligned)

theorem isSafe_of_not_isWhole {x : Binary64} (fractional : ¬ x.isWhole = true) : x.isSafe = true := by
  simp only [isSafe, decide_eq_true_eq]
  refine Decidable.byContradiction fun large => fractional (isWhole_of_large ?_)
  omega

end Binary64

namespace Number
open Binary64

theorem ofBinary64_ofInt {value : Int} (small : value.natAbs < wide) (exact : value.natAbs ≤ safe) :
    ofBinary64 (.ofInt value small) = .integer value (inRange_of_natAbs_le_safe exact) := by
  rw [toBinary64_ofBinary64_of_isWhole (isSafe_ofInt small exact) (isWhole_ofInt small exact)]
  congr 1
  exact whole_ofInt value small exact

theorem ofInt?_eq_some {value : Int} (exact : value.natAbs ≤ safe) :
    ofInt? value = some (.integer value (inRange_of_natAbs_le_safe exact)) :=
  dif_pos (inRange_of_natAbs_le_safe exact)

-- A number that a double is stored as is a small integer, or that double, which then is not a small integer.
theorem ofBinary64_cases (x : Binary64) :
    (∃ small : x.isSafe = true, ofBinary64 x =
      .integer x.whole (inRange_of_natAbs_le_safe (whole_natAbs_le small))) ∨ ofBinary64 x = .float x := by
  by_cases stored : x.isWhole = true ∧ x.isSafe = true
  · exact .inl ⟨stored.2, toBinary64_ofBinary64_of_isWhole stored.2 stored.1⟩
  · exact .inr (dif_neg stored)

end Number
end Conform
