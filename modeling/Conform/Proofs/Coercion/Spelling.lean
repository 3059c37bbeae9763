import Conform.Proofs.Coercion.Tower
import Conform.Proofs.Number.Literal

namespace Conform
open Conform.Text

-- An integer after a sign, or digits of a radix after its mark.
inductive IntegerLiteral : List Char → Int → Prop
  | decimal {sign digits : List Char} {value : Int} (written : IntegerText sign digits value) :
      IntegerLiteral (sign ++ digits) value
  | marked {mark : Char} {radix count : Nat} {digits : List Char} (marked : (mark, radix) ∈ radixMarks)
      (written : RadixText radix digits count) : IntegerLiteral ('0' :: mark :: digits) count

theorem Number.ofBinary64_of_units {x : Binary64} {value : Int} (units : x.toUnits = value * Binary64.one)
    (small : value.natAbs ≤ Binary64.safe) : ofBinary64 x = .integer value (inRange_of_natAbs_le_safe small) := by
  have room : (Binary64.one : Int) ≠ 0 := Int.natCast_ne_zero.mpr Binary64.one_pos.ne'
  have worth : x.worth = value := by
    rw [Binary64.worth, units, Int.cast_mul, Int.cast_natCast, mul_div_cancel_right₀ _ Binary64.cast_one_pos.ne']
  have integral : x.isWhole = true := Binary64.isWhole_iff.mpr ⟨value, worth⟩
  have whole : x.whole = value := by
    have scaled := Binary64.whole_mul_one integral
    rw [units] at scaled
    exact Int.eq_of_mul_eq_mul_right room scaled
  have safe : x.isSafe = true := by
    have magnitude : x.units = value.natAbs * Binary64.one := by
      rw [← Int.natAbs_natCast Binary64.one, ← Int.natAbs_mul, ← units, Binary64.toUnits]
      split
      · rw [Int.natAbs_neg, Int.natAbs_natCast]
      · rw [Int.natAbs_natCast]
    rw [Binary64.isSafe, magnitude, decide_eq_true_eq]
    exact Nat.mul_le_mul_right _ small
  subst whole
  exact toBinary64_ofBinary64_of_isWhole safe integral

section Reading
variable {text : List Char}

theorem readNumber?_congr {other : List Char} (same : trim text = trim other) :
    Loose.readNumber? text = Loose.readNumber? other := by
  unfold Loose.readNumber?
  rw [same]

theorem IntegerText.readNumber?_of_trim {sign digits : List Char} {value : Int} (written : IntegerText sign digits value)
    (spelled : trim text = sign ++ digits) : Loose.readNumber? text = Loose.readNumber? (sign ++ digits) :=
  readNumber?_congr (spelled.trans written.tight.symm)

theorem IntegerLiteral.exists_readNumber? {value : Int} (literal : IntegerLiteral (trim text) value)
    (small : value.natAbs ≤ Binary64.safe) :
    ∃ x, Loose.readNumber? text = some x ∧ x.toUnits = value * Binary64.one := by
  generalize spelled : trim text = core at literal
  cases literal with
  | decimal written =>
      have fits := Nat.lt_of_le_of_lt small Binary64.safe_lt_wide
      obtain ⟨x, read, units⟩ := written.exists_readNumber? fits
      refine ⟨x, (written.readNumber?_of_trim spelled).trans read, ?_⟩
      rw [units, ← Binary64.toUnits_ofInt value fits, Binary64.units_of_exact value fits small]
  | marked marked written =>
      obtain ⟨few, shift, power⟩ := radix_power marked
      rw [readNumber?_of_marked spelled marked]
      exact written.exists_readRadix? few power small

end Reading

-- Rounding leaves an integer at 1 in magnitude at least, so that it keeps its sign.
theorem Decimal.toUnits_neg {count : Nat} (positive : 0 < count) {x : Binary64}
    (found : toBinary64? ⟨true, count, 0⟩ = some x) : x.toUnits < 0 := by
  unfold toBinary64? at found
  dsimp only at found
  rw [if_neg (by omega)] at found
  split at found
  · cases found
  · rw [if_pos (Int.le_refl 0), show Nat.pow 10 (Int.toNat 0) = 1 from rfl, Nat.mul_one] at found
    unfold Binary64.ofRatio? at found
    split at found
    · have whole : Binary64.one ≤ Binary64.nearest (count * Binary64.one) 1 :=
        Binary64.le_nearest_of_le (by
          rw [Nat.div_one]
          exact Nat.le_mul_of_pos_left _ positive)
      have room := Binary64.one_pos
      cases found
      rw [Binary64.toUnits, if_pos rfl]
      dsimp only
      omega
    · cases found

theorem IntegerText.toUnits_neg {sign digits : List Char} {value : Int} (written : IntegerText sign digits value)
    (below : value < 0) {x : Binary64} (read : Loose.readNumber? (sign ++ digits) = some x) : x.toUnits < 0 := by
  have minus : sign = ['-'] := by
    have worth := written.worth
    split at worth
    · assumption
    · omega
  rw [written.readNumber?_eq, Loose.readDecimal?, written.read?, Option.bind_some, decide_eq_true minus] at read
  exact Decimal.toUnits_neg (by omega) read

namespace Coercion
variable {text : String} {value : Int}

theorem float_string (text : String) : float (.string text) = (Loose.readNumber? text.toList).map Json.ofNumber := rfl

theorem float_integerLiteral (literal : IntegerLiteral (trim text.toList) value) (small : value.natAbs ≤ Binary64.safe) :
    float (.string text) = some (.number (.integer value (Number.inRange_of_natAbs_le_safe small))) := by
  obtain ⟨x, read, units⟩ := literal.exists_readNumber? small
  rw [float_string, read, Option.map_some, Json.ofNumber, Number.ofBinary64_of_units units small]

theorem int_integerLiteral (literal : IntegerLiteral (trim text.toList) value) (small : value.natAbs ≤ Binary64.safe) :
    int (.string text) = some (.number (.integer value (Number.inRange_of_natAbs_le_safe small))) :=
  int_iff.mpr ⟨_, float_integerLiteral literal small, ⟨value, rfl⟩, rfl⟩

theorem unsigned_unread (unread : Loose.readNumber? text.toList = none) : unsigned (.string text) = none := by
  rw [unsigned, int, float_string, unread]
  rfl

-- A negative integer is none, whether or not there is a double for it.
theorem unsigned_negative {sign digits : List Char} (written : IntegerText sign digits value) (below : value < 0)
    (spelled : trim text.toList = sign ++ digits) : unsigned (.string text) = none := by
  refine Option.eq_none_iff_forall_ne_some.mpr fun result accepted => ?_
  obtain ⟨whole, number, rfl, nonnegative⟩ := unsigned_iff.mp accepted
  obtain ⟨stored, float, _, same⟩ := int_iff.mp whole
  cases same
  obtain ⟨x, read, same⟩ := Option.map_eq_some_iff.mp ((float_string text).symm.trans float)
  cases same
  rw [written.readNumber?_of_trim spelled] at read
  rw [Number.worth_settled, Number.worth_ofBinary64, Binary64.worth_nonneg_iff] at nonnegative
  exact absurd (written.toUnits_neg below read) (Int.not_lt.mpr nonnegative)

end Coercion

namespace Registry

-- No spelling of an integer up to 2^53 loses anything on the way through a double.
theorem integer_texts_become_integers (text : String) :
    (∀ value, IntegerLiteral (trim text.toList) value → ∀ small : value.natAbs ≤ Binary64.safe,
      check builtinTypes "int" (.string text) =
        .ok (.number (.integer value (Number.inRange_of_natAbs_le_safe small)))) ∧
    (∀ count : Nat, RadixText 16 text.toList count → ∀ small : (count : Int).natAbs ≤ Binary64.safe,
      check builtinTypes "hex" (.string text) =
        .ok (.number (.integer count (Number.inRange_of_natAbs_le_safe small)))) := by
  have ints : builtinTypes.get? "int" = some ⟨Coercion.int, false⟩ := rfl
  have hexes : builtinTypes.get? "hex" = some ⟨Coercion.hex, false⟩ := rfl
  constructor
  · intro value literal small
    exact (check_eq_ok ints).mpr (Coercion.int_integerLiteral literal small)
  · intro count written small
    have power : 16 = Binary64.twoTo 4 := rfl
    obtain ⟨x, read, units⟩ := written.exists_readRadix? (Nat.le_refl 16) power small
    refine (check_eq_ok hexes).mpr ?_
    show (Loose.readRadix? 16 text.toList).map Json.ofNumber = _
    rw [read, Option.map_some, Json.ofNumber, Number.ofBinary64_of_units units small]

-- The last safe integer on either side, with blanks and zeros in front, and in three radices.
theorem last_safe_integers_spelled :
    IntegerLiteral (trim " -0009007199254740992 ".toList) (-9007199254740992) ∧
    IntegerLiteral (trim "0X20000000000000".toList) 9007199254740992 ∧
    IntegerLiteral (trim "0o400000000000000000".toList) 9007199254740992 ∧
    RadixText 16 "001FfFfFfFfFfFfF".toList 9007199254740991 ∧
    check builtinTypes "int" (.string " -0009007199254740992 ") =
      .ok (.number (.integer (-9007199254740992) (by decide))) ∧
    check builtinTypes "int" (.string "0X20000000000000") = .ok (.number (.integer 9007199254740992 (by decide))) ∧
    check builtinTypes "int" (.string "0o400000000000000000") = .ok (.number (.integer 9007199254740992 (by decide))) ∧
    check builtinTypes "hex" (.string "001FfFfFfFfFfFfF") = .ok (.number (.integer 9007199254740991 (by decide))) := by
  have below : IntegerLiteral (trim " -0009007199254740992 ".toList) (-9007199254740992) :=
    @IntegerLiteral.decimal ['-'] "0009007199254740992".toList _
      ⟨.inr (.inr rfl), by decide, List.all_eq_true.mp rfl, rfl⟩
  have hexadecimal : IntegerLiteral (trim "0X20000000000000".toList) 9007199254740992 :=
    @IntegerLiteral.marked 'X' 16 9007199254740992 "20000000000000".toList (by decide)
      ⟨by decide, [2, 0, 0, 0, 0, 0, 0, 0, 0, 0, 0, 0, 0, 0], by decide, by decide⟩
  have octal : IntegerLiteral (trim "0o400000000000000000".toList) 9007199254740992 :=
    @IntegerLiteral.marked 'o' 8 9007199254740992 "400000000000000000".toList (by decide)
      ⟨by decide, [4, 0, 0, 0, 0, 0, 0, 0, 0, 0, 0, 0, 0, 0, 0, 0, 0, 0], by decide, by decide⟩
  have bare : RadixText 16 "001FfFfFfFfFfFfF".toList 9007199254740991 :=
    ⟨by decide, [0, 0, 1, 15, 15, 15, 15, 15, 15, 15, 15, 15, 15, 15, 15, 15], by decide, by decide⟩
  exact ⟨below, hexadecimal, octal, bare, (integer_texts_become_integers _).1 _ below (by decide),
    (integer_texts_become_integers _).1 _ hexadecimal (by decide),
    (integer_texts_become_integers _).1 _ octal (by decide),
    (integer_texts_become_integers _).2 _ bare (by decide)⟩

end Registry
end Conform
