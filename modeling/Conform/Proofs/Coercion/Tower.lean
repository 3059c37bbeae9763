import Conform.Proofs.Coercion.Canonical
import Conform.Proofs.Number.Overflow
import Conform.Proofs.Number.Rounding
import Conform.Registry.Builtin

namespace Conform

namespace Binary64

def worth (x : Binary64) : ℚ := x.toUnits / one

theorem cast_one_pos : (0 : ℚ) < one := by exact_mod_cast one_pos

theorem worth_of_isWhole {x : Binary64} (integral : x.isWhole = true) : x.worth = x.whole := by
  rw [worth, ← whole_mul_one integral, Int.cast_mul, Int.cast_natCast, mul_div_cancel_right₀ _ cast_one_pos.ne']

theorem isWhole_iff {x : Binary64} : x.isWhole = true ↔ ∃ value : ℤ, x.worth = value := by
  constructor
  · exact fun integral => ⟨x.whole, worth_of_isWhole integral⟩
  · rintro ⟨value, same⟩
    rw [worth, div_eq_iff cast_one_pos.ne'] at same
    have units : x.toUnits = value * one := by exact_mod_cast same
    have divides : (one : Int) ∣ x.toUnits := units ▸ Int.dvd_mul_left ..
    have divides : one ∣ x.units := by
      rw [Binary64.toUnits] at divides
      split at divides
      · exact Int.natCast_dvd_natCast.mp (Int.dvd_neg.mp divides)
      · exact Int.natCast_dvd_natCast.mp divides
    simpa [isWhole] using Nat.mod_eq_zero_of_dvd divides

theorem abs_worth (x : Binary64) : |x.worth| = x.units / one := by
  have units : |(x.toUnits : ℚ)| = x.units := by
    unfold Binary64.toUnits
    split <;> simp
  rw [worth, abs_div, units, abs_of_pos cast_one_pos]

theorem worth_nonneg_iff (x : Binary64) : 0 ≤ x.worth ↔ 0 ≤ x.toUnits := by
  rw [worth, le_div_iff₀ cast_one_pos, zero_mul, Int.cast_nonneg_iff]

end Binary64

namespace Number
open Binary64 (one safe)

-- What a number is worth, exactly.
def worth : Number → ℚ
  | .integer value _ => value
  | .float x => x.worth

-- Whether a number is kept as an integer, unless it is too large.
def Stored (number : Number) : Prop := (∃ value inRange, number = .integer value inRange) ∨ 2 ^ 53 < |number.worth|

theorem worth_ofBinary64 (x : Binary64) : (ofBinary64 x).worth = x.worth := by
  by_cases stored : x.isWhole = true ∧ x.isSafe = true
  · rw [toBinary64_ofBinary64_of_isWhole stored.2 stored.1, worth, Binary64.worth_of_isWhole stored.1]
  · rw [ofBinary64, dif_neg stored, worth]

theorem stored_ofBinary64 {x : Binary64} (integral : x.isWhole = true) : (ofBinary64 x).Stored := by
  by_cases small : x.isSafe = true
  · exact .inl ⟨_, _, toBinary64_ofBinary64_of_isWhole small integral⟩
  · have large : safe * one < x.units := by simpa [Binary64.isSafe] using small
    have power : (2 : ℚ) ^ 53 = safe := by rw [Binary64.safe_eq, Binary64.cast_twoTo]
    refine .inr ?_
    rw [worth_ofBinary64, Binary64.abs_worth, lt_div_iff₀ Binary64.cast_one_pos, power]
    exact_mod_cast large

theorem abs_worth_lt (number : Number) : |number.worth| < 2 ^ 1024 := by
  cases number with
  | integer value inRange =>
      have small : |value| < 2 ^ 65 := by
        rw [abs_lt]
        simp only [signedEnd, unsignedEnd] at inRange
        omega
      have power : (2 : ℚ) ^ 65 ≤ 2 ^ 1024 := pow_le_pow_right₀ (by norm_num) (by norm_num)
      refine lt_of_lt_of_le ?_ power
      rw [worth]
      exact_mod_cast small
  | float x =>
      have bounded : x.units < Binary64.twoTo 1024 * one := by
        rw [one, ← Binary64.twoTo_add]
        exact x.representable.2
      rw [worth, Binary64.abs_worth, div_lt_iff₀ Binary64.cast_one_pos, ← Binary64.cast_twoTo]
      exact_mod_cast bounded

-- Rounding an integer to a double keeps its sign.
theorem zero_le_toBinary64_iff (number : Number) : Binary64.zero ≤ number.toBinary64 ↔ 0 ≤ number.worth := by
  show 0 ≤ number.toBinary64.toUnits ↔ _
  cases number with
  | integer value inRange =>
      have small : (0 : Int).natAbs < safe := by decide
      have fits := Nat.lt_trans small Binary64.safe_lt_wide
      have order := (Binary64.isNearest_ofInt 0 fits).le_iff
        (Binary64.isNearest_ofInt value (natAbs_lt_wide inRange)) (.inl small)
      rw [worth, Int.cast_nonneg_iff, ← order]
      show _ ↔ (Binary64.ofInt 0 fits).toUnits ≤ _
      rw [Binary64.units_of_exact 0 fits (Nat.le_of_lt small), Int.zero_mul, toBinary64]
  | float x => rw [worth, Binary64.worth_nonneg_iff, toBinary64]

theorem isIntegral_iff (number : Number) : number.isIntegral = true ↔ ∃ value : ℤ, number.worth = value := by
  cases number with
  | integer value inRange => exact iff_of_true rfl ⟨value, rfl⟩
  | float x => exact Binary64.isWhole_iff

-- What becomes of a whole number: a double of at most 2^53 turns into an integer.
def settled : Number → Number
  | .integer value inRange => .integer value inRange
  | .float x => .ofBinary64 x

theorem worth_settled (number : Number) : number.settled.worth = number.worth := by
  cases number with
  | integer value inRange => rfl
  | float x => exact worth_ofBinary64 x

theorem stored_settled {number : Number} (integral : number.isIntegral = true) : number.settled.Stored := by
  cases number with
  | integer value inRange => exact .inl ⟨value, inRange, rfl⟩
  | float x => exact stored_ofBinary64 integral

end Number

namespace Coercion

theorem integerOf?_eq_some {number : Number} {result : Json} :
    integerOf? number = some result ↔ number.isIntegral = true ∧ result = .number number.settled := by
  cases number with
  | integer value inRange => simp [integerOf?, Number.isIntegral, Number.settled, eq_comm]
  | float x =>
      rw [integerOf?, Number.isIntegral, Number.settled]
      split
      · rename_i integral
        simp [integral, Json.ofNumber, eq_comm]
      · rename_i fractional
        simp [fractional]

theorem int_iff {value result : Json} :
    int value = some result ↔ ∃ number, float value = some (.number number) ∧ (∃ whole : ℤ, number.worth = whole) ∧
      result = .number number.settled := by
  simp only [int_eq_some, integerOf?_eq_some, Number.isIntegral_iff]

theorem unsigned_iff {value result : Json} :
    unsigned value = some result ↔ int value = some result ∧ ∃ number, result = .number number ∧ 0 ≤ number.worth := by
  rw [unsigned, Option.filter_eq_some_iff]
  refine and_congr_right fun accepted => ?_
  obtain ⟨number, rfl⟩ := int_numeric value result accepted
  rw [isNonnegative, decide_eq_true_eq, Number.zero_le_toBinary64_iff]
  constructor
  · exact fun nonnegative => ⟨number, rfl, nonnegative⟩
  · rintro ⟨other, same, nonnegative⟩
    cases same
    exact nonnegative

theorem int_stored {value : Json} {number : Number} (accepted : int value = some (.number number)) : number.Stored := by
  obtain ⟨read, _, integral, same⟩ := int_iff.mp accepted
  cases same
  exact Number.stored_settled ((Number.isIntegral_iff read).mpr integral)

theorem wholeOf?_stored {x : Binary64} {number : Number} (accepted : wholeOf? x = some (.number number)) :
    number.Stored := by
  unfold wholeOf? at accepted
  split at accepted
  · rename_i integral
    cases accepted
    exact Number.stored_ofBinary64 integral
  · unfold Number.ofInt? at accepted
    split at accepted
    · cases accepted
      exact .inl ⟨_, _, rfl⟩
    · cases accepted

theorem timestamp_stored {value : Json} {number : Number} (accepted : timestamp value = some (.number number)) :
    number.Stored := by
  obtain ⟨stored, same, again⟩ := timestamp_again accepted
  cases same
  exact wholeOf?_stored again

end Coercion

namespace Registry
open Coercion

theorem check_eq_ok {types : Table TypeEntry} {name : String} {entry : TypeEntry} (found : types.get? name = some entry)
    {value result : Json} : check types name value = .ok result ↔ entry.coerce value = some result := by
  unfold check
  rw [found]
  dsimp only
  cases entry.coerce value <;> simp

theorem check_eq_rejected {types : Table TypeEntry} {name : String} {entry : TypeEntry}
    (found : types.get? name = some entry) {value : Json} (refused : entry.coerce value = none) :
    check types name value = .error (.rejected name) := by
  unfold check
  rw [found]
  dsimp only
  rw [refused]

-- How the results of the numeric types on one value go together.
structure Tower (value : Json) : Prop where
  shared : (∃ result, check builtinTypes "num" value = .ok result ∧ check builtinTypes "float" value = .ok result) ∨
    (check builtinTypes "num" value = .error (.rejected "num") ∧
      check builtinTypes "float" value = .error (.rejected "float"))
  integral : (∃ result, check builtinTypes "int" value = .ok result) ↔
    ∃ number, check builtinTypes "float" value = .ok (.number number) ∧ ∃ whole : ℤ, number.worth = whole
  same : ∀ number integer, check builtinTypes "float" value = .ok (.number number) →
    check builtinTypes "int" value = .ok (.number integer) → integer.worth = number.worth
  nonnegative : ∀ result, check builtinTypes "unsigned" value = .ok result ↔
    check builtinTypes "int" value = .ok result ∧ ∃ number, result = .number number ∧ 0 ≤ number.worth
  finite : ∀ name ∈ ["float", "num", "int", "unsigned", "timestamp"], ∀ result,
    check builtinTypes name value = .ok result → ∃ number, result = .number number ∧ |number.worth| < 2 ^ 1024
  stored : ∀ name ∈ ["int", "unsigned", "timestamp"], ∀ number,
    check builtinTypes name value = .ok (.number number) → number.Stored

theorem exists_numeric {name : String} (listed : name ∈ ["float", "num", "int", "unsigned", "timestamp"]) :
    ∃ entry, builtinTypes.get? name = some entry ∧ Coercion.Numeric entry.coerce := by
  simp only [List.mem_cons, List.not_mem_nil, or_false] at listed
  rcases listed with rfl | rfl | rfl | rfl | rfl
  · exact ⟨⟨float, false⟩, rfl, float_numeric⟩
  · exact ⟨⟨float, false⟩, rfl, float_numeric⟩
  · exact ⟨⟨int, false⟩, rfl, int_numeric⟩
  · exact ⟨⟨unsigned, false⟩, rfl, unsigned_numeric⟩
  · exact ⟨⟨timestamp, false⟩, rfl, timestamp_numeric⟩

theorem numeric_types_form_tower (value : Json) : Tower value := by
  have floats : builtinTypes.get? "float" = some ⟨float, false⟩ := rfl
  have nums : builtinTypes.get? "num" = some ⟨float, false⟩ := rfl
  have ints : builtinTypes.get? "int" = some ⟨int, false⟩ := rfl
  have unsigneds : builtinTypes.get? "unsigned" = some ⟨unsigned, false⟩ := rfl
  have timestamps : builtinTypes.get? "timestamp" = some ⟨timestamp, false⟩ := rfl
  refine ⟨?_, ?_, ?_, ?_, ?_, ?_⟩
  · cases read : float value with
    | some result => exact .inl ⟨result, (check_eq_ok nums).mpr read, (check_eq_ok floats).mpr read⟩
    | none => exact .inr ⟨check_eq_rejected nums read, check_eq_rejected floats read⟩
  · simp only [check_eq_ok ints, check_eq_ok floats, int_iff]
    constructor
    · rintro ⟨_, number, read, integral, _⟩
      exact ⟨number, read, integral⟩
    · rintro ⟨number, read, integral⟩
      exact ⟨_, number, read, integral, rfl⟩
  · intro number integer read whole
    rw [check_eq_ok floats] at read
    rw [check_eq_ok ints, int_iff] at whole
    obtain ⟨other, read', _, same⟩ := whole
    cases read.symm.trans read'
    cases same
    exact number.worth_settled
  · intro result
    rw [check_eq_ok unsigneds, check_eq_ok ints]
    exact unsigned_iff
  · intro name listed result accepted
    obtain ⟨entry, found, numeric⟩ := exists_numeric listed
    obtain ⟨number, rfl⟩ := numeric value result ((check_eq_ok found).mp accepted)
    exact ⟨number, rfl, number.abs_worth_lt⟩
  · intro name listed number accepted
    simp only [List.mem_cons, List.not_mem_nil, or_false] at listed
    rcases listed with rfl | rfl | rfl
    · exact int_stored ((check_eq_ok ints).mp accepted)
    · exact int_stored (unsigned_iff.mp ((check_eq_ok unsigneds).mp accepted)).1
    · exact timestamp_stored ((check_eq_ok timestamps).mp accepted)

end Registry
end Conform
