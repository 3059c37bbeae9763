namespace Conform

namespace Binary64

def twoTo (exponent : Nat) : Nat := Nat.pow 2 exponent

theorem twoTo_pos (exponent : Nat) : 0 < twoTo exponent := Nat.two_pow_pos exponent

theorem twoTo_add (first second : Nat) : twoTo (first + second) = twoTo first * twoTo second := Nat.pow_add 2 first second

theorem twoTo_succ (exponent : Nat) : twoTo (exponent + 1) = 2 * twoTo exponent := Nat.pow_succ'

theorem twoTo_le {low high : Nat} (le : low ≤ high) : twoTo low ≤ twoTo high := Nat.pow_le_pow_right (by decide) le

theorem twoTo_dvd {low high : Nat} (le : low ≤ high) : twoTo low ∣ twoTo high := Nat.pow_dvd_pow 2 le

theorem lt_twoTo_log2 (value : Nat) : value < twoTo (value.log2 + 1) := Nat.lt_log2_self

theorem log2_twoTo (exponent : Nat) : (twoTo exponent).log2 = exponent := Nat.log2_two_pow

theorem log2_lt {value exponent : Nat} (nonzero : value ≠ 0) (less : value < twoTo exponent) : value.log2 < exponent :=
  (Nat.log2_lt nonzero).mpr less

theorem twoTo_log2_le {value : Nat} (nonzero : value ≠ 0) : twoTo value.log2 ≤ value := Nat.log2_self_le nonzero

-- A unit is 2^-1074, and the first magnitude past the finite doubles is 2^2098 units.
def scale : Nat := 1074
def reach : Nat := 2098

-- Whole numbers of magnitude 2^53 and below are doubles.
def safe : Nat := 9007199254740992

-- A hundred bits are room enough for every integer that is made a double.
def wide : Nat := 1267650600228229401496703205376

-- One, in units.
def one : Nat := twoTo scale

def bound : Nat := twoTo reach

def gap (units : Nat) : Nat := twoTo (units.log2 - 52)

def Representable (units : Nat) : Prop := units % gap units = 0 ∧ units < bound

instance (units : Nat) : Decidable (Representable units) := inferInstanceAs (Decidable (_ ∧ _))

theorem one_pos : 0 < one := twoTo_pos scale

theorem bound_pos : 0 < bound := twoTo_pos reach

theorem safe_eq : safe = twoTo 53 := rfl

theorem wide_eq : wide = twoTo 100 := rfl

-- A hundred bits of whole part leave room for one more.
theorem wide_le_bound : 2 * (wide * one) ≤ bound := by
  rw [wide_eq, one, bound, ← twoTo_add, ← twoTo_succ]
  exact twoTo_le (by decide)

def roundHalfEven (num den : Nat) : Nat :=
  let quotient := num / den
  let twice := 2 * (num % den)
  if twice < den ∨ (twice = den ∧ quotient % 2 = 0) then quotient else quotient + 1

-- A tie goes to the even significand.
def nearest (num den : Nat) : Nat :=
  roundHalfEven num (den * gap (num / den)) * gap (num / den)

theorem gap_pos (units : Nat) : 0 < gap units := twoTo_pos _

theorem roundHalfEven_le (num den : Nat) : roundHalfEven num den ≤ num / den + 1 := by
  unfold roundHalfEven
  dsimp only
  split <;> omega

theorem roundHalfEven_exact (num den : Nat) (positive : 0 < den) (divides : num % den = 0) :
    roundHalfEven num den = num / den := by
  simp [roundHalfEven, divides, positive]

-- A multiple of 2^k by at most 2^53 has no more than 53 significant bits.
theorem gap_dvd (count shift : Nat) (small : count ≤ safe) : gap (count * twoTo shift) ∣ count * twoTo shift := by
  rw [safe_eq] at small
  rcases Nat.eq_zero_or_pos count with rfl | positive
  · simp
  · rcases Nat.lt_or_eq_of_le small with less | rfl
    · have upper : count * twoTo shift < twoTo (shift + 53) := by
        rw [twoTo_add, Nat.mul_comm]
        exact Nat.mul_lt_mul_of_pos_left less (twoTo_pos _)
      have nonzero : count * twoTo shift ≠ 0 := by
        have := Nat.mul_pos positive (twoTo_pos shift); omega
      have logs := log2_lt nonzero upper
      exact Nat.dvd_trans (twoTo_dvd (by omega : (count * twoTo shift).log2 - 52 ≤ shift)) (Nat.dvd_mul_left _ _)
    · rw [← twoTo_add]
      refine twoTo_dvd ?_
      rw [log2_twoTo]; omega

theorem roundHalfEven_small (num den : Nat) : roundHalfEven num (den * gap (num / den)) ≤ safe := by
  rw [safe_eq]
  have step := roundHalfEven_le num (den * gap (num / den))
  rw [← Nat.div_div_eq_div_mul] at step
  suffices num / den / gap (num / den) < twoTo 53 by omega
  rw [Nat.div_lt_iff_lt_mul (gap_pos _), gap, ← twoTo_add]
  exact Nat.lt_of_lt_of_le (lt_twoTo_log2 _) (twoTo_le (by omega))

theorem nearest_aligned (num den : Nat) : nearest num den % gap (nearest num den) = 0 :=
  Nat.mod_eq_zero_of_dvd (gap_dvd _ _ (roundHalfEven_small num den))

theorem gap_le (units : Nat) (positive : 0 < units) : gap units ≤ units :=
  Nat.le_trans (twoTo_le (Nat.sub_le _ _)) (twoTo_log2_le (by omega))

theorem nearest_le (units : Nat) : nearest units 1 ≤ 2 * units := by
  rcases Nat.eq_zero_or_pos units with rfl | positive
  · simp [nearest, roundHalfEven, gap_pos]
  · have upper : nearest units 1 ≤ (units / gap units + 1) * gap units := by
      simpa [nearest] using Nat.mul_le_mul_right (gap units) (roundHalfEven_le units (gap units))
    have whole := Nat.div_mul_le_self units (gap units)
    have less := gap_le units positive
    rw [Nat.add_mul] at upper
    omega

theorem nearest_exact (units : Nat) (aligned : units % gap units = 0) : nearest units 1 = units := by
  simp only [nearest, Nat.div_one, Nat.one_mul]
  rw [roundHalfEven_exact _ _ (gap_pos _) aligned, Nat.div_mul_cancel (Nat.dvd_of_mod_eq_zero aligned)]

end Binary64

-- Every finite double is a whole number of units of 2^-1074, so comparing, truncating and rounding
-- are integer arithmetic. Zero has both signs.
structure Binary64 where
  negative : Bool
  units : Nat
  representable : Binary64.Representable units
deriving DecidableEq

namespace Binary64

def ofRatio? (negative : Bool) (num den : Nat) : Option Binary64 :=
  if small : nearest num den < bound then some ⟨negative, nearest num den, nearest_aligned num den, small⟩
  else none

-- At most a hundred bits, so that the result is finite.
def ofInt (value : Int) (small : value.natAbs < wide) : Binary64 where
  negative := value < 0
  units := nearest (value.natAbs * one) 1
  representable := by
    refine ⟨nearest_aligned _ _, Nat.lt_of_le_of_lt (nearest_le _) ?_⟩
    have upper : value.natAbs * one < wide * one := Nat.mul_lt_mul_of_pos_right small one_pos
    have room := wide_le_bound
    omega

def zero : Binary64 := ⟨false, 0, by simp [Representable, bound_pos]⟩

def toUnits (x : Binary64) : Int := if x.negative then -(x.units : Int) else x.units

def isWhole (x : Binary64) : Bool := x.units % one == 0

def whole (x : Binary64) : Int :=
  if x.negative then -((x.units / one : Nat) : Int) else (x.units / one : Nat)

def isZero (x : Binary64) : Bool := x.units == 0

-- Up to 2^53 every whole number is a double.
def isSafe (x : Binary64) : Bool := x.units ≤ safe * one

instance : LT Binary64 := ⟨fun x y => x.toUnits < y.toUnits⟩
instance : LE Binary64 := ⟨fun x y => x.toUnits ≤ y.toUnits⟩
instance (x y : Binary64) : Decidable (x < y) := inferInstanceAs (Decidable (x.toUnits < y.toUnits))
instance (x y : Binary64) : Decidable (x ≤ y) := inferInstanceAs (Decidable (x.toUnits ≤ y.toUnits))

def shiftIn? (x : Binary64) (radix digit : Nat) : Option Binary64 :=
  ofRatio? x.negative (x.units * radix + digit * one) 1

-- Products and quotients of doubles are rounded to doubles again.
def mul? (x y : Binary64) : Option Binary64 := ofRatio? (x.negative != y.negative) (x.units * y.units) one

def div? (x y : Binary64) : Option Binary64 := ofRatio? (x.negative != y.negative) (x.units * one) y.units

def tenTo? (exponent : Nat) : Option Binary64 := ofRatio? false (Nat.pow 10 exponent * one) 1

theorem whole_natAbs_le {x : Binary64} (isSafe : x.isSafe = true) : x.whole.natAbs ≤ safe := by
  have less : x.units / one ≤ safe :=
    Nat.div_le_of_le_mul (by simpa [Binary64.isSafe, Nat.mul_comm] using isSafe)
  unfold whole
  split
  · rw [Int.natAbs_neg, Int.natAbs_natCast]; exact less
  · rw [Int.natAbs_natCast]; exact less

theorem units_ofInt (value : Int) (small : value.natAbs < wide) (exact : value.natAbs ≤ safe) :
    (ofInt value small).units = value.natAbs * one :=
  nearest_exact _ (Nat.mod_eq_zero_of_dvd (gap_dvd _ scale exact))

theorem whole_ofInt (value : Int) (small : value.natAbs < wide) (exact : value.natAbs ≤ safe) :
    (ofInt value small).whole = value := by
  have kept : (ofInt value small).units / one = value.natAbs := by
    rw [units_ofInt value small exact]
    exact Nat.mul_div_cancel _ one_pos
  have sign : (ofInt value small).negative = decide (value < 0) := rfl
  unfold whole
  rw [kept, sign]
  by_cases h : value < 0
  · simp only [h, decide_true, if_true]; omega
  · simp only [h, decide_false, Bool.false_eq_true, if_false]; omega

end Binary64

end Conform
