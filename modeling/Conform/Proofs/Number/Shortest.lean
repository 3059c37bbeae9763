import Conform.Number.Shortest
import Mathlib.Algebra.Order.Field.Power
import Mathlib.Data.Rat.Cast.Order
import Mathlib.Tactic.FieldSimp
import Mathlib.Tactic.Linarith
import Mathlib.Tactic.Positivity
import Mathlib.Tactic.Ring

namespace Conform.Binary64

section Gaps

theorem units_lt (units : Nat) : units < 9007199254740992 * gap units := by
  have upper : twoTo (units.log2 + 1) ≤ twoTo (53 + (units.log2 - 52)) := twoTo_le (by omega)
  rw [twoTo_add 53] at upper
  exact Nat.lt_of_lt_of_le (lt_twoTo_log2 units) upper

-- How far below a double the numbers begin that read back as it, in quarters of units.
def below (units : Nat) : Nat := if units == twoTo units.log2 && gap units != 1 then gap units else 2 * gap units

theorem below_le (units : Nat) : below units ≤ 2 * gap units := by
  unfold below
  split <;> omega

theorem below_of_power {units : Nat} (power : units = twoTo units.log2) (wide : gap units ≠ 1) :
    below units = gap units := by
  unfold below
  rw [if_pos (by simp [← power, wide])]

theorem power_of_below_lt {units : Nat} (short : below units ≠ 2 * gap units) :
    units = twoTo units.log2 ∧ gap units ≠ 1 := by
  unfold below at short
  split at short
  · rename_i both
    simpa using both
  · exact absurd rfl short

-- Where gaps are above one unit, a power of two is 2^52 of them.
theorem twoTo_log2_of_gap {units : Nat} (wide : gap units ≠ 1) : twoTo units.log2 = 4503599627370496 * gap units := by
  have large : 52 < units.log2 := by
    apply Decidable.byContradiction
    intro small
    have none : units.log2 - 52 = 0 := by omega
    exact wide (by rw [gap, none]; rfl)
  have split : units.log2 = 52 + (units.log2 - 52) := by omega
  rw [gap]
  conv_lhs => rw [split, twoTo_add]
  rfl

theorem log2_le {first second : Nat} (less : first ≤ second) (positive : 0 < first) : first.log2 ≤ second.log2 := by
  have lower : twoTo first.log2 ≤ first := twoTo_log2_le (by omega)
  have upper := lt_twoTo_log2 second
  apply Decidable.byContradiction
  intro larger
  have step : twoTo (second.log2 + 1) ≤ twoTo first.log2 := twoTo_le (by omega)
  omega

theorem gap_cases {first second : Nat} (less : first ≤ second) (positive : 0 < first) :
    gap first = gap second ∨
    (first < twoTo second.log2 ∧ (gap second = 2 * gap first ∨ 4 * gap first ≤ gap second)) := by
  have logs := log2_le less positive
  by_cases same : first.log2 - 52 = second.log2 - 52
  · exact .inl (congrArg twoTo same)
  · have upper : twoTo (first.log2 + 1) ≤ twoTo second.log2 := twoTo_le (by omega)
    refine .inr ⟨Nat.lt_of_lt_of_le (lt_twoTo_log2 first) upper, ?_⟩
    by_cases next : second.log2 - 52 = first.log2 - 52 + 1
    · exact .inl (by rw [gap, gap, next, twoTo_succ])
    · have far : twoTo (first.log2 - 52 + 2) ≤ gap second := twoTo_le (by omega)
      rw [twoTo_succ, twoTo_succ] at far
      exact .inr (by rw [gap]; omega)

theorem add_le_of_dvd {gap first second : Nat} (aligned : gap ∣ first) (aligned' : gap ∣ second)
    (less : first < second) : first + gap ≤ second := by
  have apart := Nat.le_of_dvd (Nat.sub_pos_of_lt less) (Nat.dvd_sub aligned' aligned)
  omega

-- On one grid the next point is at least one gap away.
theorem grid_apart {gap short count next : Nat} (positive : 0 < gap) (near : short ≤ 2 * gap)
    (less : gap * count < gap * next) :
    4 * (gap * count) + 2 * gap + short < 4 * (gap * next) ∨
    (4 * (gap * count) + 2 * gap + short = 4 * (gap * next) ∧ ¬ (count % 2 = 0 ∧ next % 2 = 0)) := by
  have order : count < next := Nat.lt_of_mul_lt_mul_left less
  obtain ⟨further, rfl⟩ := Nat.exists_eq_add_of_lt order
  have spread : gap * (count + further + 1) = gap * count + gap * further + gap := by ring
  rcases Nat.eq_zero_or_pos further with rfl | some
  · rw [spread]
    omega
  · have wide : gap ≤ gap * further := Nat.le_mul_of_pos_right gap some
    rw [spread]
    omega

-- The numbers that read back as a double end before those begin that read back as the next, or they meet in one number,
-- which then belongs to one of them only.
theorem intervals_apart {first second : Nat} (aligned : gap first ∣ first) (aligned' : gap second ∣ second)
    (positive : 0 < first) (less : first < second) :
    4 * first + 2 * gap first + below second < 4 * second ∨
    (4 * first + 2 * gap first + below second = 4 * second ∧
      ¬ (first / gap first % 2 = 0 ∧ second / gap second % 2 = 0)) := by
  have room := gap_pos first
  have room' := gap_pos second
  have short := below_le second
  have small := units_lt first
  have start : twoTo second.log2 ≤ second := twoTo_log2_le (by omega)
  rcases gap_cases (Nat.le_of_lt less) positive with same | ⟨lower, wider⟩
  · obtain ⟨count, whole⟩ := aligned
    obtain ⟨next, whole'⟩ := aligned'
    have quotient : first / gap first = count := Nat.div_eq_of_eq_mul_right room whole
    have quotient' : second / gap second = next := Nat.div_eq_of_eq_mul_right room' whole'
    rw [quotient, quotient']
    rw [← same] at whole' short
    have apart : 4 * (gap first * count) + 2 * gap first + below second < 4 * (gap first * next) ∨
        (4 * (gap first * count) + 2 * gap first + below second = 4 * (gap first * next) ∧
          ¬ (count % 2 = 0 ∧ next % 2 = 0)) := grid_apart room short (by omega)
    rwa [← whole, ← whole'] at apart
  · have several : gap second ≠ 1 := by omega
    have power := twoTo_log2_of_gap several
    have near := add_le_of_dvd aligned (twoTo_dvd (by have := log2_le (Nat.le_of_lt less) positive; omega)) lower
    by_cases least : second = twoTo second.log2
    · have narrow := below_of_power least several
      rcases wider with double | far
      · by_cases last : first + gap first = second
        · have odd : first / gap first = 9007199254740991 := Nat.div_eq_of_eq_mul_right room (by omega)
          exact .inr ⟨by omega, fun even => by omega⟩
        · have nearer := add_le_of_dvd (Nat.dvd_add_self_right.mpr aligned)
            (Nat.dvd_trans (Dvd.intro_left 2 double.symm) aligned') (by omega : first + gap first < second)
          exact .inl (by omega)
      · exact .inl (by omega)
    · have further := add_le_of_dvd (Dvd.intro_left 4503599627370496 power.symm) aligned' (by omega)
      exact .inl (by omega)

end Gaps

section Intervals

-- The number `candidate * 10^place`, in quarters of units.
def quarters (candidate : Nat) (place : Int) : ℚ := 4 * candidate * 10 ^ place * one

-- The numbers that read back as a magnitude, in quarters of units.
def ReadsAs (units : Nat) (value : ℚ) : Prop :=
  if units / gap units % 2 = 0 then (4 * units : ℚ) ≤ value + below units ∧ value ≤ 4 * units + 2 * gap units
  else (4 * units : ℚ) < value + below units ∧ value < 4 * units + 2 * gap units

theorem ten_zpow (place : Int) :
    (10 : ℚ) ^ place = (Nat.pow 10 place.toNat : Nat) / (Nat.pow 10 (-place).toNat : Nat) := by
  push_cast [Nat.pow_eq]
  rw [eq_div_iff (by positivity), ← zpow_natCast, ← zpow_natCast, ← zpow_add₀ (by norm_num)]
  congr 1
  omega

theorem quarters_eq (candidate : Nat) (place : Int) :
    quarters candidate place =
      ((4 * candidate * Nat.pow 10 place.toNat * one : Nat) : ℚ) / (Nat.pow 10 (-place).toNat : Nat) := by
  rw [quarters, ten_zpow]
  push_cast
  ring

section Ratio
variable {bound cut num den : Nat} (positive : 0 < den)
include positive

theorem low_le_iff (room : cut ≤ bound) : (bound - cut) * den ≤ num ↔ (bound : ℚ) ≤ num / den + cut := by
  rw [← sub_le_iff_le_add, le_div_iff₀ (by exact_mod_cast positive), ← Nat.cast_sub room]
  norm_cast

theorem low_lt_iff (room : cut ≤ bound) : (bound - cut) * den < num ↔ (bound : ℚ) < num / den + cut := by
  rw [← sub_lt_iff_lt_add, lt_div_iff₀ (by exact_mod_cast positive), ← Nat.cast_sub room]
  norm_cast

theorem le_high_iff : num ≤ bound * den ↔ (num / den : ℚ) ≤ bound := by
  rw [div_le_iff₀ (by exact_mod_cast positive)]
  norm_cast

theorem lt_high_iff : num < bound * den ↔ (num / den : ℚ) < bound := by
  rw [div_lt_iff₀ (by exact_mod_cast positive)]
  norm_cast

end Ratio

theorem readsBack_iff {units : Nat} (positive : 0 < units) (candidate : Nat) (place : Int) :
    readsBack units candidate place = true ↔ ReadsAs units (quarters candidate place) := by
  have room : below units ≤ 4 * units := by
    have short := below_le units
    have less := gap_le units positive
    omega
  have denominator : 0 < Nat.pow 10 (-place).toNat := Nat.pow_pos (by decide)
  have low : (4 * units : ℚ) = (4 * units : Nat) := by norm_cast
  have high : (4 * units + 2 * gap units : ℚ) = (4 * units + 2 * gap units : Nat) := by norm_cast
  unfold readsBack ReadsAs
  dsimp only
  rw [← below, quarters_eq, high, low]
  by_cases even : units / gap units % 2 = 0
  · simp only [even, beq_self_eq_true, if_true, Bool.and_eq_true, decide_eq_true_eq]
    rw [low_le_iff denominator room, le_high_iff denominator]
  · simp only [even, beq_iff_eq, if_false, Bool.and_eq_true, decide_eq_true_eq]
    rw [low_lt_iff denominator room, lt_high_iff denominator]

theorem ReadsAs.weak {units : Nat} {value : ℚ} (reads : ReadsAs units value) :
    (4 * units : ℚ) ≤ value + below units ∧ value ≤ 4 * units + 2 * gap units := by
  unfold ReadsAs at reads
  split at reads
  · exact reads
  · exact ⟨le_of_lt reads.1, le_of_lt reads.2⟩

theorem ReadsAs.strict {units : Nat} {value : ℚ} (reads : ReadsAs units value) (odd : ¬ units / gap units % 2 = 0) :
    (4 * units : ℚ) < value + below units ∧ value < 4 * units + 2 * gap units := by
  rwa [ReadsAs, if_neg odd] at reads

theorem not_readsAs_of_lt {first second : Nat} {value : ℚ} (aligned : gap first ∣ first)
    (aligned' : gap second ∣ second) (positive : 0 < first) (less : first < second) (reads : ReadsAs first value) :
    ¬ ReadsAs second value := by
  intro reads'
  have upper := reads.weak.2
  have lower := reads'.weak.1
  rcases intervals_apart aligned aligned' positive less with apart | ⟨meet, odd⟩
  · have apart : (4 * first + 2 * gap first + below second : ℚ) < 4 * second := by exact_mod_cast apart
    linarith
  · have meet : (4 * first + 2 * gap first + below second : ℚ) = 4 * second := by exact_mod_cast meet
    by_cases even : first / gap first % 2 = 0
    · have strict := (reads'.strict fun even' => odd ⟨even, even'⟩).1
      linarith
    · have strict := (reads.strict even).2
      linarith

-- No number reads back as two magnitudes.
theorem readsAs_unique {first second : Nat} {value : ℚ} (aligned : gap first ∣ first) (aligned' : gap second ∣ second)
    (positive : 0 < first) (positive' : 0 < second) (reads : ReadsAs first value) (reads' : ReadsAs second value) :
    first = second := by
  rcases Nat.lt_trichotomy first second with less | same | greater
  · exact absurd reads' (not_readsAs_of_lt aligned aligned' positive less reads)
  · exact same
  · exact absurd reads (not_readsAs_of_lt aligned' aligned positive' greater reads')

end Intervals

section Digits

theorem length_toDigits_bounds {value : Nat} (positive : 0 < value) :
    10 ^ ((Nat.toDigits 10 value).length - 1) ≤ value ∧ value < 10 ^ (Nat.toDigits 10 value).length := by
  have count := Nat.length_toDigits_pos (b := 10) (n := value)
  refine ⟨?_, (Nat.length_toDigits_le_iff (by decide) count).mp (Nat.le_refl _)⟩
  apply Decidable.byContradiction
  intro short
  rcases Nat.eq_zero_or_pos ((Nat.toDigits 10 value).length - 1) with single | several
  · rw [single] at short
    omega
  · have fewer := (Nat.length_toDigits_le_iff (b := 10) (n := value) (by decide) several).mpr (Nat.not_le.mp short)
    omega

-- The first digit stands at the exponent that is computed for it.
theorem decimalExponent_bounds {units : Nat} (positive : 0 < units) :
    (10 : ℚ) ^ decimalExponent units * one ≤ units ∧ (units : ℚ) < 10 ^ (decimalExponent units + 1) * one := by
  have room := one_pos
  unfold decimalExponent
  split
  · rename_i large
    obtain ⟨lower, upper⟩ := length_toDigits_bounds (Nat.div_pos large room)
    have count := Nat.length_toDigits_pos (b := 10) (n := units / one)
    generalize (Nat.toDigits 10 (units / one)).length = length at *
    obtain ⟨before, rfl⟩ := Nat.exists_eq_add_of_lt count
    have lower : 10 ^ before * one ≤ units := (Nat.le_div_iff_mul_le room).mp (by simpa using lower)
    have upper : units < 10 ^ (before + 1) * one := (Nat.div_lt_iff_lt_mul room).mp (by simpa using upper)
    have exponent : ((0 + before + 1 : Nat) : Int) - 1 = before := by omega
    rw [exponent, zpow_natCast, ← Nat.cast_succ, zpow_natCast]
    exact ⟨by exact_mod_cast lower, by exact_mod_cast upper⟩
  · rename_i small
    obtain ⟨lower, upper⟩ := length_toDigits_bounds (Nat.div_pos (by omega : units ≤ one - 1) positive)
    have count := Nat.length_toDigits_pos (b := 10) (n := (one - 1) / units)
    generalize (Nat.toDigits 10 ((one - 1) / units)).length = length at *
    obtain ⟨before, rfl⟩ := Nat.exists_eq_add_of_lt count
    have lower : 10 ^ before * units < one := by
      have := (Nat.le_div_iff_mul_le positive).mp (show 10 ^ before ≤ (one - 1) / units by simpa using lower)
      omega
    have upper : one ≤ 10 ^ (before + 1) * units := by
      have := (Nat.div_lt_iff_lt_mul positive).mp (show (one - 1) / units < 10 ^ (before + 1) by simpa using upper)
      omega
    have exponent : -((0 + before + 1 : Nat) : Int) + 1 = -(before : Int) := by omega
    have exponent' : -((0 + before + 1 : Nat) : Int) = -((before + 1 : Nat) : Int) := by omega
    rw [exponent, exponent', zpow_neg, zpow_neg, zpow_natCast, zpow_natCast, inv_mul_le_iff₀ (by positivity),
      lt_inv_mul_iff₀ (by positivity)]
    exact ⟨by exact_mod_cast upper, by exact_mod_cast lower⟩

theorem mem_neighbours {units : Nat} {place : Int} {candidate : Nat} : candidate ∈ neighbours units place ↔
    candidate = units * Nat.pow 10 (-place).toNat / (one * Nat.pow 10 place.toNat) ∨
      candidate = units * Nat.pow 10 (-place).toNat / (one * Nat.pow 10 place.toNat) + 1 := by
  unfold neighbours
  dsimp only
  split
  · simp only [List.mem_cons, List.not_mem_nil, or_false]
  · simp only [List.mem_cons, List.not_mem_nil, or_false]
    exact or_comm

theorem exists_near_quotient (num : Nat) {den : Nat} (positive : 0 < den) :
    ∃ candidate, (candidate = num / den ∨ candidate = num / den + 1) ∧ 2 * |(candidate * den : ℚ) - num| ≤ den := by
  have whole := Nat.div_add_mod num den
  have small := Nat.mod_lt num positive
  have exact : (num : ℚ) = den * (num / den : Nat) + (num % den : Nat) := by exact_mod_cast whole.symm
  by_cases near : 2 * (num % den) ≤ den
  · refine ⟨num / den, .inl rfl, ?_⟩
    have near : (2 * (num % den : Nat) : ℚ) ≤ den := by exact_mod_cast near
    rw [abs_sub_comm, abs_of_nonneg (by rw [exact]; ring_nf; positivity)]
    linarith
  · refine ⟨num / den + 1, .inr rfl, ?_⟩
    have near : (den : ℚ) < 2 * (num % den : Nat) := by exact_mod_cast Nat.not_le.mp near
    have small : ((num % den : Nat) : ℚ) < den := by exact_mod_cast small
    push_cast
    rw [abs_of_nonneg (by linarith)]
    linarith

-- One of the two numbers around a magnitude is at most half a step of the grid away from it.
theorem exists_near (units : Nat) (place : Int) : ∃ candidate ∈ neighbours units place,
    |quarters candidate place - 4 * units| ≤ 2 * 10 ^ place * one := by
  have positive : 0 < one * Nat.pow 10 place.toNat := Nat.mul_pos one_pos (Nat.pow_pos (by decide))
  have scale : (0 : ℚ) < (Nat.pow 10 (-place).toNat : Nat) := by exact_mod_cast Nat.pow_pos (by decide)
  obtain ⟨candidate, either, near⟩ := exists_near_quotient (units * Nat.pow 10 (-place).toNat) positive
  refine ⟨candidate, mem_neighbours.mpr either, ?_⟩
  rw [quarters, ten_zpow]
  generalize Nat.pow 10 (-place).toNat = parts at *
  generalize Nat.pow 10 place.toNat = times at *
  generalize one = unit at *
  push_cast at near
  have split : 4 * (candidate : ℚ) * (times / parts) * unit - 4 * units =
      4 * (candidate * (unit * times) - units * parts) / parts := by
    field_simp
  have step : 2 * ((times : ℚ) / parts) * unit * parts = 2 * (unit * times) := by
    field_simp
  rw [split, abs_div, abs_of_pos scale, div_le_iff₀ scale, abs_mul, step, abs_of_pos (by norm_num : (0 : ℚ) < 4)]
  linarith

theorem two_mul_units_lt (units : Nat) : 2 * units < 10000000000000000 * below units := by
  have small := units_lt units
  by_cases plain : below units = 2 * gap units
  · omega
  · obtain ⟨power, wide⟩ := power_of_below_lt plain
    have start := twoTo_log2_of_gap wide
    have narrow := below_of_power power wide
    have room := gap_pos units
    omega

theorem readsAs_of_near {units : Nat} {value : ℚ} (near : |value - 4 * units| * 10000000000000000 ≤ 2 * units) :
    ReadsAs units value := by
  have lower : (2 * units : ℚ) < 10000000000000000 * below units := by exact_mod_cast two_mul_units_lt units
  have narrow : (below units : ℚ) ≤ 2 * gap units := by exact_mod_cast below_le units
  obtain ⟨left, right⟩ := abs_lt.mp (show |value - 4 * units| < below units by linarith)
  unfold ReadsAs
  split
  · exact ⟨by linarith, by linarith⟩
  · exact ⟨by linarith, by linarith⟩

-- Seventeen digits are enough.
theorem exists_readsBack {units : Nat} (positive : 0 < units) :
    ∃ candidate ∈ neighbours units (decimalExponent units - 16),
      readsBack units candidate (decimalExponent units - 16) = true := by
  obtain ⟨candidate, within, near⟩ := exists_near units (decimalExponent units - 16)
  refine ⟨candidate, within, (readsBack_iff positive _ _).mpr (readsAs_of_near ?_)⟩
  have first := (decimalExponent_bounds positive).1
  have step : (10 : ℚ) ^ (decimalExponent units - 16) * 10000000000000000 = 10 ^ decimalExponent units := by
    rw [zpow_sub₀ (by norm_num)]
    norm_num
  calc |quarters candidate (decimalExponent units - 16) - 4 * units| * 10000000000000000
      ≤ 2 * 10 ^ (decimalExponent units - 16) * one * 10000000000000000 := by gcongr
    _ = 2 * (10 ^ decimalExponent units * one) := by rw [← step]; ring
    _ ≤ 2 * units := by linarith

theorem range_split {count middle : Nat} {before after : List Nat}
    (all : List.range count = before ++ middle :: after) :
    middle < count ∧ ∀ earlier < middle, earlier ∈ before := by
  have length := congrArg List.length all
  have place := congrArg (·[before.length]?) all
  simp only [List.length_range, List.length_append, List.length_cons] at length
  have inside : before.length < count := by omega
  have middle : before.length = middle := by simpa [inside] using place
  refine ⟨by omega, fun earlier less => ?_⟩
  have same := congrArg (·[earlier]?) all
  rw [← middle] at less
  have reached : earlier < count := by omega
  simp only [List.getElem?_range reached, List.getElem?_append_left less] at same
  exact List.mem_of_getElem? same.symm

-- The grid of the shortest number is the first that has one, and it is found among seventeen.
theorem shortestOnGrid_spec {units : Nat} (positive : 0 < units) :
    ∃ extra < 17, (shortestOnGrid units).2 = decimalExponent units - (extra : Nat) ∧
      readsBack units (shortestOnGrid units).1 (shortestOnGrid units).2 = true ∧
      ∀ coarser < extra, ∀ candidate ∈ neighbours units (decimalExponent units - (coarser : Nat)),
        ¬ readsBack units candidate (decimalExponent units - (coarser : Nat)) = true := by
  obtain ⟨last, within, reads⟩ := exists_readsBack positive
  unfold shortestOnGrid
  dsimp only
  cases hits : (List.range 17).findSome? fun (extra : Nat) =>
      ((neighbours units (decimalExponent units - extra)).find?
        (readsBack units · (decimalExponent units - extra))).map (·, decimalExponent units - extra) with
  | none =>
      have missed := List.findSome?_eq_none_iff.mp hits 16 (by decide)
      simp only [Option.map_eq_none_iff, List.find?_eq_none] at missed
      exact absurd reads (missed last within)
  | some hit =>
      obtain ⟨before, extra, after, all, found, earlier⟩ := List.findSome?_eq_some_iff.mp hits
      obtain ⟨few, passed⟩ := range_split all
      obtain ⟨candidate, first, rfl⟩ := Option.map_eq_some_iff.mp found
      have reads := List.find?_some first
      simp only [Option.getD_some]
      refine ⟨extra, few, rfl, reads, fun coarser less candidate within => ?_⟩
      have missed := earlier coarser (passed coarser less)
      simp only [Option.map_eq_none_iff, List.find?_eq_none] at missed
      exact missed candidate within

theorem readsAs_self {units : Nat} (positive : 0 < units) : ReadsAs units (4 * units) := by
  have lower : (0 : ℚ) < below units := by
    have := two_mul_units_lt units
    exact_mod_cast (by omega : 0 < below units)
  have upper : (0 : ℚ) < gap units := by exact_mod_cast gap_pos units
  unfold ReadsAs
  split
  · exact ⟨by linarith, by linarith⟩
  · exact ⟨by linarith, by linarith⟩

theorem readsAs_shortestOnGrid {units : Nat} (positive : 0 < units) :
    ReadsAs units (quarters (shortestOnGrid units).1 (shortestOnGrid units).2) := by
  obtain ⟨_, _, _, reads, _⟩ := shortestOnGrid_spec positive
  exact (readsBack_iff positive _ _).mp reads

theorem shortestOnGrid_pos {units : Nat} (positive : 0 < units) : 0 < (shortestOnGrid units).1 := by
  apply Nat.pos_of_ne_zero
  intro none
  have lower := (readsAs_shortestOnGrid positive).weak.1
  have short : (below units : ℚ) ≤ 2 * units := by
    exact_mod_cast Nat.le_trans (below_le units) (Nat.mul_le_mul_left 2 (gap_le units positive))
  have some : (0 : ℚ) < units := by exact_mod_cast positive
  simp only [quarters, none, Nat.cast_zero, mul_zero, zero_mul, zero_add] at lower
  linarith

-- A whole number needs no digit after the point.
theorem place_nonneg_of_whole {count : Nat} (positive : 0 < count) : 0 ≤ (shortestOnGrid (count * one)).2 := by
  have large : one ≤ count * one := Nat.le_mul_of_pos_left one positive
  have room : 0 < count * one := Nat.mul_pos positive one_pos
  obtain ⟨extra, _, place, _, earlier⟩ := shortestOnGrid_spec room
  have first : 0 ≤ decimalExponent (count * one) := by
    have := Nat.length_toDigits_pos (b := 10) (n := count * one / one)
    unfold decimalExponent
    rw [if_pos large]
    omega
  apply Decidable.byContradiction
  intro negative
  have zero : decimalExponent (count * one) - ((decimalExponent (count * one)).toNat : Nat) = 0 := by omega
  have missed := earlier (decimalExponent (count * one)).toNat (by omega) count
  rw [zero] at missed
  refine missed (mem_neighbours.mpr (.inl ?_)) ((readsBack_iff room _ _).mpr ?_)
  · simp [Nat.mul_div_cancel _ one_pos]
  · have exact : quarters count 0 = 4 * ((count * one : Nat) : ℚ) := by
      rw [quarters, zpow_zero]
      push_cast
      ring
    rw [exact]
    exact readsAs_self room

end Digits

end Conform.Binary64
