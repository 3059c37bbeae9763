import Conform.Json.Printer
import Conform.Number.Decimal
import Conform.Proofs.Number.Shortest
import Conform.Proofs.Number.Whole
import Conform.Text.Split
import Mathlib.Data.List.TakeWhile

namespace Conform

theorem isDigit_of_mem_digits {value : Nat} : ∀ c ∈ Nat.toDigits 10 value, c.isDigit = true :=
  fun _ within => Nat.isDigit_of_mem_toDigits (by decide) (by decide) within

theorem isDigit_of_mem_zeros {count : Nat} : ∀ c ∈ List.replicate count '0', c.isDigit = true :=
  fun _ within => List.eq_of_mem_replicate within ▸ rfl

theorem Binary64.isDigit_shortest (x : Binary64) : ∀ c ∈ x.shortest.digits, c.isDigit = true := by
  unfold shortest
  split
  · simp
  · intro c within
    have kept := (List.dropWhile_sublist (· == '0')).subset (List.mem_reverse.mp within)
    exact isDigit_of_mem_digits c (List.mem_reverse.mp kept)

def isNumeric (c : Char) : Bool := c.isDigit || c == '-' || c == '+' || c == '.' || c == 'e'

-- What texts of numbers are made of.
def Numeric (text : List Char) : Prop := ∀ c ∈ text, isNumeric c = true

instance (text : List Char) : Decidable (Numeric text) := List.decidableBAll (isNumeric · = true) text

namespace Numeric

theorem append_iff {first second : List Char} : Numeric (first ++ second) ↔ Numeric first ∧ Numeric second :=
  List.forall_mem_append

theorem cons_iff {c : Char} {rest : List Char} : Numeric (c :: rest) ↔ isNumeric c = true ∧ Numeric rest :=
  List.forall_mem_cons

theorem of_digits {text : List Char} (digits : ∀ c ∈ text, c.isDigit = true) : Numeric text := by
  intro c within
  simp [isNumeric, digits c within]

theorem toDigits (value : Nat) : Numeric (Nat.toDigits 10 value) := of_digits isDigit_of_mem_digits

theorem zeros (count : Nat) : Numeric (List.replicate count '0') := of_digits isDigit_of_mem_zeros

theorem signText (negative : Bool) : Numeric (Shortest.signText negative) := by
  cases negative <;> decide

section Layout
variable {number : Shortest} (digits : ∀ c ∈ number.digits, c.isDigit = true)
include digits

theorem take (count : Nat) : Numeric (number.digits.take count) :=
  of_digits fun c within => digits c (List.mem_of_mem_take within)

theorem drop (count : Nat) : Numeric (number.digits.drop count) :=
  of_digits fun c within => digits c (List.mem_of_mem_drop within)

theorem positional : Numeric number.positional := by
  unfold Shortest.positional
  dsimp only
  split
  · exact append_iff.mpr ⟨cons_iff.mpr ⟨rfl, cons_iff.mpr ⟨rfl, zeros _⟩⟩, of_digits digits⟩
  · split
    · exact append_iff.mpr ⟨of_digits digits, zeros _⟩
    · exact append_iff.mpr ⟨take digits _, cons_iff.mpr ⟨rfl, drop digits _⟩⟩

theorem scientific (plus : Bool) : Numeric (number.scientific plus) := by
  unfold Shortest.scientific
  refine append_iff.mpr ⟨append_iff.mpr ⟨append_iff.mpr ⟨take digits 1, ?_⟩, cons_iff.mpr ⟨rfl, ?_⟩⟩, toDigits _⟩
  · split
    · exact nofun
    · exact cons_iff.mpr ⟨rfl, drop digits 1⟩
  · split
    · decide
    · split <;> decide

end Layout

theorem write (layout : FloatLayout) (x : Binary64) : Numeric (layout.write x) := by
  unfold FloatLayout.write
  refine append_iff.mpr ⟨signText _, ?_⟩
  split
  · split
    · exact append_iff.mpr ⟨positional x.isDigit_shortest, by decide⟩
    · exact positional x.isDigit_shortest
  · exact scientific x.isDigit_shortest _

theorem numberText (value : Number) : Numeric (Json.numberText value) := by
  cases value with
  | integer value _ => exact append_iff.mpr ⟨signText _, toDigits _⟩
  | float value => exact write _ value

end Numeric

namespace Decimal

def magnitude (decimal : Decimal) : ℚ := decimal.digits * 10 ^ decimal.exponent

theorem ofDigits_append_zeros (digits : List Char) (count : Nat) :
    ofDigits (digits ++ List.replicate count '0') = 10 ^ count * ofDigits digits := by
  change Nat.ofDigitChars 10 (digits ++ List.replicate count '0') 0 = _
  rw [Nat.ofDigitChars_append, Nat.ofDigitChars_replicate_zero]
  rfl

theorem ofDigits_toDigits (value : Nat) : ofDigits (Nat.toDigits 10 value) = value := Nat.ofDigitChars_ten_toDigits

-- What may come after digits: nothing, or something that is neither a digit nor a point.
def Ends (tail : List Char) : Prop := ∀ c, tail.head? = some c → c.isDigit = false ∧ c ≠ '.'

theorem Ends.nil : Ends [] := nofun

theorem splitSign_signText (negative : Bool) {body : List Char} (digit : ∀ c, body.head? = some c → c.isDigit = true) :
    splitSign (Shortest.signText negative ++ body) = (negative, body) := by
  cases negative with
  | true => rfl
  | false =>
      cases body with
      | nil => rfl
      | cons c rest =>
          have known : c.isDigit = true := digit c rfl
          have plus : c ≠ '+' := fun same => by rw [same] at known; cases known
          have minus : c ≠ '-' := fun same => by rw [same] at known; cases known
          simp [Shortest.signText, splitSign, plus, minus]

section Parts
variable {whole fraction tail : List Char} (digits : ∀ c ∈ whole, c.isDigit = true) (some : whole ≠ [])
include digits some

theorem head_digit (rest : List Char) : ∀ c, (whole ++ rest).head? = .some c → c.isDigit = true := by
  intro c first
  rw [List.head?_append_of_ne_nil _ some] at first
  exact digits c (List.mem_of_head? first)

variable (ends : Ends tail)
include ends

theorem read?_plain (negative : Bool) :
    read? (Shortest.signText negative ++ (whole ++ tail)) =
      (readExponent? tail).map fun exponent => ⟨negative, ofDigits whole, exponent⟩ := by
  have stop : ∀ c, tail.head? = .some c → c.isDigit = false := fun c first => (ends c first).1
  have pointless : splitFraction tail = ([], tail) := by
    cases tail with
    | nil => rfl
    | cons c rest =>
        have other : c ≠ '.' := (ends c rfl).2
        simp [splitFraction, other]
  unfold read?
  rw [splitSign_signText negative (head_digit digits some tail)]
  dsimp only
  rw [Text.takeWhile_stop digits stop, Text.dropWhile_stop digits stop, pointless]
  simp [some]

theorem read?_pointed (negative : Bool) (digits' : ∀ c ∈ fraction, c.isDigit = true) :
    read? (Shortest.signText negative ++ (whole ++ '.' :: (fraction ++ tail))) =
      (readExponent? tail).map fun exponent =>
        ⟨negative, ofDigits (whole ++ fraction), exponent - fraction.length⟩ := by
  have stop : ∀ c, tail.head? = .some c → c.isDigit = false := fun c first => (ends c first).1
  have point : ∀ c, ('.' :: (fraction ++ tail)).head? = .some c → c.isDigit = false := by
    intro c first
    cases first
    rfl
  unfold read?
  rw [splitSign_signText negative (head_digit digits some _)]
  dsimp only
  rw [Text.takeWhile_stop digits point, Text.dropWhile_stop digits point, splitFraction,
    Text.takeWhile_stop digits' stop, Text.dropWhile_stop digits' stop]
  simp [some]

end Parts

theorem readExponent?_scientific (exponent : Int) :
    readExponent? ('e' :: (if exponent < 0 then ['-'] else ['+']) ++ Nat.toDigits 10 exponent.natAbs) =
      some exponent := by
  have sign : splitSign ((if exponent < 0 then ['-'] else ['+']) ++ Nat.toDigits 10 exponent.natAbs) =
      (decide (exponent < 0), Nat.toDigits 10 exponent.natAbs) := by
    split <;> simp [splitSign, *]
  rw [List.cons_append, readExponent?, sign]
  dsimp only
  rw [if_pos, ofDigits_toDigits]
  · by_cases negative : exponent < 0
    · simp only [negative, decide_true, if_true]
      congr 1
      omega
    · simp only [negative, decide_false, Bool.false_eq_true, if_false]
      congr 1
      omega
  · simp [List.all_eq_true.mpr isDigit_of_mem_digits]

end Decimal

namespace Shortest

-- The number that digits and exponent stand for.
def magnitude (number : Shortest) : ℚ :=
  Decimal.ofDigits number.digits * 10 ^ (number.exponent + 1 - number.digits.length)

section Layout
variable {number : Shortest} (digits : ∀ c ∈ number.digits, c.isDigit = true) (some : number.digits ≠ [])
include digits some

theorem read?_scientific (negative : Bool) :
    Decimal.read? (signText negative ++ number.scientific true) =
      .some ⟨negative, Decimal.ofDigits number.digits, number.exponent + 1 - number.digits.length⟩ := by
  obtain ⟨written, exponent⟩ := number
  dsimp only at digits some ⊢
  obtain ⟨first, rest, rfl⟩ := List.exists_cons_of_ne_nil some
  have digit : ∀ c ∈ [first], c.isDigit = true := by simpa using digits first (List.mem_cons_self ..)
  have ends : Decimal.Ends ('e' :: (if exponent < 0 then ['-'] else ['+']) ++ Nat.toDigits 10 exponent.natAbs) := by
    intro c head
    cases head
    decide
  cases rest with
  | nil =>
      have read := Decimal.read?_plain digit (by simp) ends negative
      rw [Decimal.readExponent?_scientific] at read
      simpa [scientific] using read
  | cons second others =>
      have digits' : ∀ c ∈ second :: others, c.isDigit = true :=
        fun c within => digits c (List.mem_cons_of_mem _ within)
      have read := Decimal.read?_pointed digit (by simp) ends negative digits'
      rw [Decimal.readExponent?_scientific] at read
      simp only [Option.map_some] at read
      rw [show exponent + 1 - ((first :: second :: others).length : Int) = exponent - (second :: others).length by
        simp only [List.length_cons]; omega]
      simpa [scientific] using read

-- A number below one, or with digits after its point.
theorem read?_positional (negative : Bool) (fraction : number.exponent + 1 < number.digits.length) :
    Decimal.read? (signText negative ++ number.positional) =
      .some ⟨negative, Decimal.ofDigits number.digits, number.exponent + 1 - number.digits.length⟩ := by
  have stop : Decimal.readExponent? [] = .some 0 := rfl
  have count : 0 < number.digits.length := List.length_pos_iff.mpr some
  unfold positional
  dsimp only
  by_cases small : number.exponent < 0
  · have zero : ∀ c ∈ ['0'], c.isDigit = true := List.forall_mem_singleton.mpr rfl
    have digits' : ∀ c ∈ List.replicate (-number.exponent - 1).toNat '0' ++ number.digits, c.isDigit = true :=
      List.forall_mem_append.mpr ⟨isDigit_of_mem_zeros, digits⟩
    have read := Decimal.read?_pointed zero (by simp) .nil negative digits'
    simp only [List.append_nil, List.singleton_append, stop, Decimal.ofDigits_zero_cons, Decimal.ofDigits_leading_zeros,
      List.length_append, List.length_replicate, Option.map_some] at read
    rw [if_pos small]
    refine read.trans ?_
    congr 2
    omega
  · have digits' : ∀ c ∈ number.digits.take (number.exponent.toNat + 1), c.isDigit = true :=
      fun c within => digits c (List.mem_of_mem_take within)
    have digits'' : ∀ c ∈ number.digits.drop (number.exponent.toNat + 1), c.isDigit = true :=
      fun c within => digits c (List.mem_of_mem_drop within)
    have first : number.digits.take (number.exponent.toNat + 1) ≠ [] := by simpa [List.take_eq_nil_iff] using some
    have read := Decimal.read?_pointed digits' first .nil negative digits''
    rw [List.append_nil, stop, List.take_append_drop, List.length_drop, Option.map_some] at read
    rw [if_neg small, if_neg (by omega)]
    refine read.trans ?_
    congr 2
    omega

omit digits in
-- A number whose digits end at the point or before it.
theorem positional_of_integral (integral : number.digits.length ≤ number.exponent + 1) :
    number.positional = number.digits ++ List.replicate (number.exponent + 1 - number.digits.length).toNat '0' := by
  have count : 0 < number.digits.length := List.length_pos_iff.mpr some
  unfold positional
  dsimp only
  rw [if_neg (by omega), if_pos (by omega)]
  congr 2
  omega

-- A number whose digits end at the point or before it, with a zero after the point.
theorem read?_whole (negative : Bool) {zeros : Nat} (count : number.exponent + 1 - number.digits.length = zeros) :
    Decimal.read? (signText negative ++ (number.positional ++ ['.', '0'])) =
      .some ⟨negative, 10 ^ (zeros + 1) * Decimal.ofDigits number.digits, -1⟩ := by
  have zero : ∀ c ∈ ['0'], c.isDigit = true := List.forall_mem_singleton.mpr rfl
  have digits' : ∀ c ∈ number.digits ++ List.replicate zeros '0', c.isDigit = true :=
    List.forall_mem_append.mpr ⟨digits, isDigit_of_mem_zeros⟩
  have value : Decimal.ofDigits (number.digits ++ List.replicate zeros '0' ++ ['0']) =
      10 ^ (zeros + 1) * Decimal.ofDigits number.digits := by
    rw [List.append_assoc, ← List.replicate_succ', Decimal.ofDigits_append_zeros]
  have read := Decimal.read?_pointed digits' (by simp [some]) .nil negative zero
  rw [value] at read
  rw [positional_of_integral some (by omega), count]
  exact read

end Layout

end Shortest

namespace Binary64

theorem trailing_zeros (digits : List Char) :
    ∃ count, digits = (digits.reverse.dropWhile (· == '0')).reverse ++ List.replicate count '0' := by
  refine ⟨(digits.reverse.takeWhile (· == '0')).length, ?_⟩
  have zeros : digits.reverse.takeWhile (· == '0') =
      List.replicate (digits.reverse.takeWhile (· == '0')).length '0' :=
    List.eq_replicate_iff.mpr ⟨rfl, fun c within => by simpa using List.mem_takeWhile_imp within⟩
  rw [← List.reverse_replicate, ← zeros, ← List.reverse_append, List.takeWhile_append_dropWhile, List.reverse_reverse]

section Shortest
variable {x : Binary64} (some : 0 < x.units)
include some

-- The digits kept are those of the number on the grid, less its last zeros.
theorem shortest_kept : ∃ zeros : Nat,
    Nat.toDigits 10 (shortestOnGrid x.units).1 = x.shortest.digits ++ List.replicate zeros '0' ∧
    x.shortest.exponent + 1 - x.shortest.digits.length = (shortestOnGrid x.units).2 + zeros := by
  obtain ⟨zeros, split⟩ := trailing_zeros (Nat.toDigits 10 (shortestOnGrid x.units).1)
  have length := congrArg List.length split
  rw [List.length_append, List.length_replicate] at length
  unfold shortest
  rw [if_neg (by simp [isZero]; omega)]
  dsimp only
  exact ⟨zeros, split, by omega⟩

theorem magnitude_shortest :
    x.shortest.magnitude = (shortestOnGrid x.units).1 * 10 ^ (shortestOnGrid x.units).2 := by
  obtain ⟨zeros, split, exponent⟩ := shortest_kept some
  have value := congrArg Decimal.ofDigits split
  rw [Decimal.ofDigits_toDigits, Decimal.ofDigits_append_zeros] at value
  rw [Shortest.magnitude, exponent, value, zpow_add₀ (by norm_num), zpow_natCast]
  push_cast
  ring

theorem readsAs_shortest : ReadsAs x.units (4 * (x.shortest.magnitude * one)) := by
  have same : quarters (shortestOnGrid x.units).1 (shortestOnGrid x.units).2 = 4 * (x.shortest.magnitude * one) := by
    rw [quarters, magnitude_shortest some]
    ring
  exact same ▸ readsAs_shortestOnGrid some

theorem magnitude_pos : 0 < x.shortest.magnitude := by
  have candidate : (0 : ℚ) < (shortestOnGrid x.units).1 := by exact_mod_cast shortestOnGrid_pos some
  rw [magnitude_shortest some]
  exact mul_pos candidate (zpow_pos (by norm_num) _)

end Shortest

theorem eq_zero_or_pos (x : Binary64) : x.isZero = true ∨ 0 < x.units := by
  rcases Nat.eq_zero_or_pos x.units with none | some
  · exact .inl (by simp [isZero, none])
  · exact .inr some

theorem shortest_of_isZero {x : Binary64} (zero : x.isZero = true) : x.shortest = ⟨['0'], 0⟩ := if_pos zero

theorem magnitude_of_isZero {x : Binary64} (zero : x.isZero = true) : x.shortest.magnitude = 0 := by
  rw [shortest_of_isZero zero, Shortest.magnitude, Decimal.ofDigits_zero_cons]
  exact zero_mul _

theorem digits_ne_nil (x : Binary64) : x.shortest.digits ≠ [] := by
  rcases x.eq_zero_or_pos with zero | some
  · rw [shortest_of_isZero zero]
    simp
  · intro none
    have positive := magnitude_pos some
    simp [Shortest.magnitude, none, Decimal.ofDigits] at positive

theorem integral_of_isWhole {x : Binary64} (whole : x.isWhole = true) :
    x.shortest.digits.length ≤ x.shortest.exponent + 1 := by
  rcases x.eq_zero_or_pos with zero | some
  · rw [shortest_of_isZero zero]
    decide
  · obtain ⟨zeros, _, exponent⟩ := shortest_kept some
    obtain ⟨count, exact⟩ : one ∣ x.units := Nat.dvd_of_mod_eq_zero (by simpa [isWhole] using whole)
    rw [Nat.mul_comm] at exact
    have place := place_nonneg_of_whole (Nat.pos_of_mul_pos_right (exact ▸ some : 0 < count * one))
    rw [← exact] at place
    omega

theorem gap_le_one {units : Nat} (small : units < safe * one) : gap units ≤ one := by
  rw [safe_eq, one, ← twoTo_add] at small
  rcases Nat.eq_zero_or_pos units with rfl | some
  · exact one_pos
  · have logs := log2_lt (Nat.ne_of_gt some) small
    exact twoTo_le (by omega)

-- A double that a whole number reads back as is that whole number, unless doubles are too far apart to tell.
theorem isWhole_of_readsAs {x : Binary64} {count : Nat} (some : 0 < x.units) (positive : 0 < count)
    (reads : ReadsAs x.units (4 * (count * one))) : x.isWhole = true := by
  by_cases large : safe * one ≤ x.units
  · exact isWhole_of_large large
  · have near : 4 * (count * one) ≤ 4 * x.units + 2 * gap x.units := by exact_mod_cast reads.weak.2
    have close := gap_le_one (Nat.not_le.mp large)
    have small : count ≤ safe := by
      apply Decidable.byContradiction
      intro greater
      have next : (safe + 1) * one ≤ count * one := Nat.mul_le_mul_right one (by omega)
      rw [Nat.add_mul] at next
      omega
    have room : 0 < count * one := Nat.mul_pos positive one_pos
    have reads' := readsAs_self room
    rw [Nat.cast_mul] at reads'
    have same : x.units = count * one := readsAs_unique (Nat.dvd_of_mod_eq_zero x.representable.1)
      (gap_dvd count scale small) some room reads reads'
    simp [isWhole, same]

-- Digits that end at the point are those of a whole number.
theorem isWhole_of_integral {x : Binary64} (integral : x.shortest.digits.length ≤ x.shortest.exponent + 1) :
    x.isWhole = true := by
  rcases x.eq_zero_or_pos with zero | some
  · rw [isZero, beq_iff_eq] at zero
    simp [isWhole, zero]
  · obtain ⟨zeros, count⟩ := Int.eq_ofNat_of_zero_le (Int.sub_nonneg.mpr integral)
    have exact : x.shortest.magnitude = (Decimal.ofDigits x.shortest.digits * 10 ^ zeros : Nat) := by
      rw [Shortest.magnitude, count, zpow_natCast]
      push_cast
      rfl
    have reads := readsAs_shortest some
    have positive := magnitude_pos some
    rw [exact] at reads positive
    exact isWhole_of_readsAs some (by exact_mod_cast positive) reads

theorem fraction_of_not_isWhole {x : Binary64} (fractional : ¬ x.isWhole = true) :
    x.shortest.exponent + 1 < x.shortest.digits.length :=
  Int.not_le.mp fun integral => fractional (isWhole_of_integral integral)

-- What is written of a double is a literal of its shortest digits.
theorem read?_write (x : Binary64) : ∃ decimal : Decimal, Decimal.read? (Json.floatLayout.write x) = some decimal ∧
    decimal.negative = x.negative ∧ decimal.magnitude = x.shortest.magnitude := by
  have digits := x.isDigit_shortest
  have some := x.digits_ne_nil
  unfold FloatLayout.write
  dsimp only
  by_cases near : Json.floatLayout.positionalFrom ≤ x.shortest.exponent ∧
      x.shortest.exponent < Json.floatLayout.positionalBelow
  · rw [if_pos near]
    by_cases whole : x.isWhole = true
    · have integral := integral_of_isWhole whole
      obtain ⟨zeros, count⟩ := Int.eq_ofNat_of_zero_le (Int.sub_nonneg.mpr integral)
      rw [if_pos whole]
      refine ⟨_, Shortest.read?_whole digits some x.negative count, rfl, ?_⟩
      rw [Decimal.magnitude, Shortest.magnitude, count, zpow_neg_one, zpow_natCast]
      push_cast
      ring
    · rw [if_neg whole]
      exact ⟨_, Shortest.read?_positional digits some x.negative (fraction_of_not_isWhole whole), rfl, rfl⟩
  · rw [if_neg near]
    exact ⟨_, Shortest.read?_scientific digits some x.negative, rfl, rfl⟩

theorem eq_of_magnitude {x y : Binary64} (sign : x.negative = y.negative)
    (same : x.shortest.magnitude = y.shortest.magnitude) : x = y := by
  have units : x.units = y.units := by
    rcases x.eq_zero_or_pos with zero | some <;> rcases y.eq_zero_or_pos with zero' | some'
    · exact (beq_iff_eq.mp zero).trans (beq_iff_eq.mp zero').symm
    · rw [magnitude_of_isZero zero] at same
      exact absurd same (ne_of_lt (magnitude_pos some'))
    · rw [magnitude_of_isZero zero'] at same
      exact absurd same.symm (ne_of_lt (magnitude_pos some))
    · have reads := readsAs_shortest some
      rw [same] at reads
      exact readsAs_unique (Nat.dvd_of_mod_eq_zero x.representable.1) (Nat.dvd_of_mod_eq_zero y.representable.1)
        some some' reads (readsAs_shortest some')
  obtain ⟨_, _, _⟩ := x
  obtain ⟨_, _, _⟩ := y
  cases sign
  cases units
  rfl

theorem write_injective {x y : Binary64} (same : Json.floatLayout.write x = Json.floatLayout.write y) : x = y := by
  obtain ⟨decimal, read, sign, magnitude⟩ := x.read?_write
  obtain ⟨decimal', read', sign', magnitude'⟩ := y.read?_write
  rw [same, read'] at read
  cases read
  exact eq_of_magnitude (sign.symm.trans sign') (magnitude.symm.trans magnitude')

-- Unlike an integer, a double is written with a point or an exponent.
theorem marked_write (x : Binary64) : '.' ∈ Json.floatLayout.write x ∨ 'e' ∈ Json.floatLayout.write x := by
  unfold FloatLayout.write
  dsimp only
  split
  · split
    · exact .inl (by simp)
    · rename_i fractional
      have fraction := fraction_of_not_isWhole fractional
      refine .inl (List.mem_append_right _ ?_)
      unfold Shortest.positional
      dsimp only
      split
      · simp
      · rw [if_neg (by omega)]
        simp
  · exact .inr (List.mem_append_right _ (by simp [Shortest.scientific]))

end Binary64

namespace Json

theorem read?_integerText (value : Int) :
    Decimal.read? (Shortest.integerText value) = some ⟨decide (value < 0), value.natAbs, 0⟩ := by
  have digits : ∀ c ∈ Nat.toDigits 10 value.natAbs, c.isDigit = true := isDigit_of_mem_digits
  have read := Decimal.read?_plain digits Nat.toDigits_ne_nil .nil (decide (value < 0))
  rw [List.append_nil, Decimal.ofDigits_toDigits] at read
  exact read

theorem integerText_injective {value value' : Int} (same : Shortest.integerText value = Shortest.integerText value') :
    value = value' := by
  have read := read?_integerText value
  rw [same, read?_integerText] at read
  simp only [Option.some.injEq, Decimal.mk.injEq, decide_eq_decide, and_true] at read
  omega

theorem not_mem_integerText (value : Int) {c : Char} (digit : ¬ c.isDigit = true) (minus : c ≠ '-') :
    c ∉ Shortest.integerText value := by
  intro within
  rcases List.mem_append.mp within with sign | other
  · cases negative : decide (value < 0) <;> simp [Shortest.signText, negative, minus] at sign
  · exact digit (isDigit_of_mem_digits c other)

theorem integerText_ne_write (value : Int) (x : Binary64) : Shortest.integerText value ≠ floatLayout.write x := by
  intro same
  rcases x.marked_write with point | exponent
  · exact not_mem_integerText value (by decide) (by decide) (same ▸ point)
  · exact not_mem_integerText value (by decide) (by decide) (same ▸ exponent)

theorem numberText_ne_nil (value : Number) : numberText value ≠ [] := by
  cases value with
  | integer value _ => exact List.append_ne_nil_of_right_ne_nil _ Nat.toDigits_ne_nil
  | float value =>
      rcases value.marked_write with point | exponent
      · exact List.ne_nil_of_mem point
      · exact List.ne_nil_of_mem exponent

-- No two numbers have the same text.
theorem numberText_injective {value value' : Number} (same : numberText value = numberText value') :
    value = value' := by
  cases value with
  | integer value inRange =>
      cases value' with
      | integer value' inRange' =>
          obtain rfl := integerText_injective same
          rfl
      | float value' => exact absurd same (integerText_ne_write value value')
  | float value =>
      cases value' with
      | integer value' _ => exact absurd same.symm (integerText_ne_write value' value)
      | float value' => exact congrArg Number.float (Binary64.write_injective same)

end Json

end Conform
