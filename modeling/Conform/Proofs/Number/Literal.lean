import Conform.Proofs.Number.Decimal
import Conform.Proofs.Number.Radix

namespace Conform
open Conform.Text

namespace Decimal

-- Decimal digits with an optional point, on at least one side of which there is one, and the places after the point.
inductive Mantissa : List Char → Nat → Nat → Prop
  | plain {whole : List Char} (filled : whole ≠ []) (digits : ∀ c ∈ whole, c.isDigit = true) :
      Mantissa whole (Nat.ofDigitChars 10 whole 0) 0
  | pointed {whole fraction : List Char} (filled : whole ≠ [] ∨ fraction ≠ [])
      (digits : ∀ c ∈ whole ++ fraction, c.isDigit = true) :
      Mantissa (whole ++ '.' :: fraction) (Nat.ofDigitChars 10 (whole ++ fraction) 0) fraction.length

-- What may follow: nothing, or a power of ten.
inductive Exponent : List Char → Int → Prop
  | nothing : Exponent [] 0
  | power {mark : Char} {sign digits : List Char} {value : Int} (marked : mark = 'e' ∨ mark = 'E')
      (written : IntegerText sign digits value) : Exponent (mark :: (sign ++ digits)) value

-- A decimal literal and the number that it stands for.
inductive Written : List Char → Decimal → Prop
  | literal {sign body tail : List Char} {count places : Nat} {power : Int}
      (signed : sign = [] ∨ sign = ['+'] ∨ sign = ['-']) (mantissa : Mantissa body count places)
      (scaled : Exponent tail power) : Written (sign ++ (body ++ tail)) ⟨decide (sign = ['-']), count, power - places⟩

def value (decimal : Decimal) : ℚ := if decimal.negative then -decimal.magnitude else decimal.magnitude

theorem abs_value (decimal : Decimal) : |decimal.value| = decimal.magnitude := by
  have positive : 0 ≤ decimal.magnitude := mul_nonneg (Nat.cast_nonneg _) (zpow_nonneg (by norm_num) _)
  unfold value
  split
  · rw [abs_neg, abs_of_nonneg positive]
  · exact abs_of_nonneg positive

section Signs

theorem exists_sign (text : List Char) :
    ∃ sign body, (sign = [] ∨ sign = ['+'] ∨ sign = ['-']) ∧ text = sign ++ body ∧
      splitSign text = (decide (sign = ['-']), body) := by
  unfold splitSign
  split
  · exact ⟨['-'], _, .inr (.inr rfl), rfl, rfl⟩
  · exact ⟨['+'], _, .inr (.inl rfl), rfl, rfl⟩
  · exact ⟨[], _, .inl rfl, rfl, rfl⟩

theorem splitSign_append {sign body : List Char} (signed : sign = [] ∨ sign = ['+'] ∨ sign = ['-'])
    (unsigned : ∀ c, body.head? = some c → c ≠ '+' ∧ c ≠ '-') :
    splitSign (sign ++ body) = (decide (sign = ['-']), body) := by
  rcases signed with rfl | rfl | rfl
  · cases body with
    | nil => rfl
    | cons c rest =>
        have other := unsigned c rfl
        simp [splitSign, other.1, other.2]
  · rfl
  · rfl

theorem ne_sign_of_isDigit {c : Char} (digit : c.isDigit = true) : c ≠ '+' ∧ c ≠ '-' := by
  constructor
  · rintro rfl
    cases digit
  · rintro rfl
    cases digit

end Signs

section Exponents

theorem exponent_of_readExponent? {tail : List Char} {power : Int} (read : readExponent? tail = some power) :
    Exponent tail power := by
  cases tail with
  | nil =>
      cases read
      exact .nothing
  | cons c rest =>
      obtain ⟨sign, digits, signed, rfl, signs⟩ := exists_sign rest
      unfold readExponent? at read
      dsimp only at read
      rw [signs] at read
      dsimp only at read
      split at read
      · rename_i checked
        simp only [Bool.and_eq_true, Bool.or_eq_true, beq_iff_eq, Bool.not_eq_true', List.isEmpty_eq_false_iff,
          List.all_eq_true] at checked
        cases read
        refine .power checked.1.1 ⟨signed, checked.1.2, checked.2, ?_⟩
        simp only [decide_eq_true_eq]
        rfl
      · cases read

theorem readExponent?_of_exponent {tail : List Char} {power : Int} (scaled : Exponent tail power) :
    readExponent? tail = some power := by
  cases scaled with
  | nothing => rfl
  | @power mark sign digits value marked written =>
      have signs := splitSign_append written.signed fun c first =>
        ne_sign_of_isDigit (written.decimal c (List.mem_of_head? first))
      have letter : (mark == 'e' || mark == 'E') = true := by simpa using marked
      unfold readExponent?
      dsimp only
      rw [signs]
      dsimp only
      rw [letter, if_pos (by simpa [written.filled] using written.decimal), written.worth]
      simp only [decide_eq_true_eq]
      rfl

theorem Exponent.ends {tail : List Char} {power : Int} (scaled : Exponent tail power) : Ends tail := by
  intro c first
  cases scaled with
  | nothing => cases first
  | power marked written =>
      cases first
      rcases marked with rfl | rfl <;> decide

end Exponents

section Mantissas

theorem Mantissa.unsigned {body : List Char} {count places : Nat} (mantissa : Mantissa body count places)
    (tail : List Char) : ∀ c, (body ++ tail).head? = some c → c ≠ '+' ∧ c ≠ '-' := by
  intro c first
  cases mantissa with
  | plain filled digits =>
      rw [List.head?_append_of_ne_nil _ filled] at first
      exact ne_sign_of_isDigit (digits c (List.mem_of_head? first))
  | @pointed whole fraction filled digits =>
      cases whole with
      | nil =>
          cases first
          decide
      | cons d rest =>
          cases first
          exact ne_sign_of_isDigit (digits _ (List.mem_cons_self ..))

theorem exists_leading_digits (text : List Char) :
    ∃ digits rest, text = digits ++ rest ∧ (∀ c ∈ digits, c.isDigit = true) ∧
      text.takeWhile Char.isDigit = digits ∧ text.dropWhile Char.isDigit = rest :=
  ⟨_, _, List.takeWhile_append_dropWhile.symm, List.all_eq_true.mp List.all_takeWhile, rfl, rfl⟩

theorem written_of_read? {text : List Char} {decimal : Decimal} (read : read? text = some decimal) :
    Written text decimal := by
  obtain ⟨sign, body, signed, rfl, signs⟩ := exists_sign text
  obtain ⟨front, rest, rfl, whole, taken, dropped⟩ := exists_leading_digits body
  unfold read? at read
  rw [signs] at read
  dsimp only at read
  rw [taken, dropped] at read
  unfold splitFraction at read
  split at read
  · rename_i after
    obtain ⟨fraction, tail, rfl, places, taken, dropped⟩ := exists_leading_digits after
    dsimp only at read
    rw [taken, dropped] at read
    split at read
    · cases read
    · rename_i some
      obtain ⟨power, scaled, rfl⟩ := Option.map_eq_some_iff.mp read
      have filled : front ≠ [] ∨ fraction ≠ [] := by
        simpa [Classical.or_iff_not_imp_left] using some
      have literal := Written.literal signed (.pointed filled (List.forall_mem_append.mpr ⟨whole, places⟩))
        (exponent_of_readExponent? scaled)
      rw [List.append_assoc, List.cons_append] at literal
      exact literal
  · dsimp only at read
    split at read
    · cases read
    · rename_i some
      obtain ⟨power, scaled, rfl⟩ := Option.map_eq_some_iff.mp read
      have literal := Written.literal signed (.plain (by simpa using some) whole) (exponent_of_readExponent? scaled)
      rw [List.append_nil]
      exact literal

theorem read?_of_written {text : List Char} {decimal : Decimal} (written : Written text decimal) :
    read? text = some decimal := by
  cases written with
  | @literal sign body tail count places power signed mantissa scaled =>
      have signs := splitSign_append signed (mantissa.unsigned tail)
      have ends := scaled.ends
      have stop : ∀ c, tail.head? = some c → c.isDigit = false := fun c first => (ends c first).1
      unfold read?
      rw [signs]
      dsimp only
      cases mantissa with
      | plain filled digits =>
          have pointless : splitFraction tail = ([], tail) := by
            cases tail with
            | nil => rfl
            | cons c rest => simp [splitFraction, (ends c rfl).2]
          rw [takeWhile_stop digits stop, dropWhile_stop digits stop, pointless]
          dsimp only
          rw [if_neg (by simpa using filled), readExponent?_of_exponent scaled, List.append_nil]
          rfl
      | @pointed whole fraction filled digits =>
          obtain ⟨front, back⟩ := List.forall_mem_append.mp digits
          have point : ∀ c, ('.' :: (fraction ++ tail)).head? = some c → c.isDigit = false := by
            intro c first
            cases first
            rfl
          rw [List.append_assoc, List.cons_append, takeWhile_stop front point, dropWhile_stop front point, splitFraction,
            takeWhile_stop back stop, dropWhile_stop back stop]
          dsimp only
          rw [if_neg (by simpa [Classical.or_iff_not_imp_left] using filled), readExponent?_of_exponent scaled]
          rfl

end Mantissas

theorem read?_marked {mark : Char} {radix : Nat} (marked : (mark, radix) ∈ radixMarks) (digits : List Char) :
    read? ('0' :: mark :: digits) = none := by
  have other : mark ≠ 'e' ∧ mark ≠ 'E' ∧ mark ≠ '.' ∧ mark.isDigit = false := by
    simp only [radixMarks, List.mem_cons, Prod.mk.injEq, List.not_mem_nil, or_false] at marked
    rcases marked with ⟨rfl, _⟩ | ⟨rfl, _⟩ | ⟨rfl, _⟩ | ⟨rfl, _⟩ | ⟨rfl, _⟩ | ⟨rfl, _⟩ <;> decide
  simp [read?, splitSign, splitFraction, readExponent?, other]

end Decimal

-- A literal of a number, and what it is worth.
inductive Literal : List Char → ℚ → Prop
  | decimal {text : List Char} {decimal : Decimal} (written : decimal.Written text) : Literal text decimal.value
  | marked {mark : Char} {radix count : Nat} {digits : List Char} (marked : (mark, radix) ∈ radixMarks)
      (written : RadixText radix digits count) : Literal ('0' :: mark :: digits) count

section Reading
variable {text : List Char}

theorem readNumber?_of_marked {mark : Char} {radix : Nat} {digits : List Char} (tight : trim text = '0' :: mark :: digits)
    (marked : (mark, radix) ∈ radixMarks) : Loose.readNumber? text = Loose.readRadix? radix digits := by
  unfold Loose.readNumber?
  split
  · rename_i empty
    rw [tight] at empty
    cases empty
  · rename_i mark' digits' same
    rw [tight] at same
    cases same
    rw [radixOf?_eq_some_iff.mpr marked]
  · rename_i other
    exact absurd tight (other mark digits)

theorem readNumber?_of_unmarked (filled : trim text ≠ [])
    (unmarked : ∀ mark radix digits, trim text = '0' :: mark :: digits → (mark, radix) ∉ radixMarks) :
    Loose.readNumber? text = Loose.readDecimal? (trim text) := by
  unfold Loose.readNumber?
  split
  · rename_i empty
    exact absurd empty filled
  · rename_i mark digits tight
    split
    · rename_i radix found
      exact absurd (radixOf?_eq_some_iff.mp found) (unmarked mark radix digits tight)
    · rw [tight]
  · rfl

theorem readNumber?_of_written {decimal : Decimal} (written : decimal.Written (trim text)) :
    Loose.readNumber? text = decimal.toBinary64? := by
  have read := Decimal.read?_of_written written
  rw [readNumber?_of_unmarked, Loose.readDecimal?, read, Option.bind_some]
  · intro empty
    rw [empty] at read
    cases read
  · intro mark radix digits tight marked
    rw [tight, Decimal.read?_marked marked] at read
    cases read

theorem readNumber?_eq_none_iff {value : ℚ} (literal : Literal (trim text) value) :
    Loose.readNumber? text = none ↔ (2 : ℚ) ^ 1024 - 2 ^ 970 ≤ |value| := by
  rw [← Binary64.limit_eq]
  generalize spelled : trim text = core at literal
  cases literal with
  | decimal written =>
      subst spelled
      rw [readNumber?_of_written written, Decimal.abs_value, Decimal.toBinary64?_eq_none_iff]
  | marked marked written =>
      obtain ⟨small, shift, power⟩ := radix_power marked
      rw [readNumber?_of_marked spelled marked, (written.readRadix?_spec small power).1, Nat.abs_cast, Nat.cast_le]

theorem exists_literal {x : Binary64} (filled : trim text ≠ []) (read : Loose.readNumber? text = some x) :
    ∃ value, Literal (trim text) value := by
  by_cases some : ∃ mark radix digits, trim text = '0' :: mark :: digits ∧ (mark, radix) ∈ radixMarks
  · obtain ⟨mark, radix, digits, tight, marked⟩ := some
    rw [readNumber?_of_marked tight marked] at read
    obtain ⟨count, written⟩ := RadixText.exists_of_readRadix? (radix_power marked).1 read
    exact ⟨count, tight ▸ .marked marked written⟩
  · rw [readNumber?_of_unmarked filled fun mark radix digits tight marked => some ⟨mark, radix, digits, tight, marked⟩,
      Loose.readDecimal?] at read
    obtain ⟨decimal, found, _⟩ := Option.bind_eq_some_iff.mp read
    exact ⟨decimal.value, .decimal (Decimal.written_of_read? found)⟩

-- Nothing at all is zero, a literal is a finite double unless it is rounded past the doubles, and nothing else is a number.
theorem number_texts_are_literals (text : List Char) :
    (trim text = [] → Loose.readNumber? text = some .zero) ∧
    (∀ value, Literal (trim text) value →
      ((∃ x, Loose.readNumber? text = some x) ↔ |value| < (2 : ℚ) ^ 1024 - 2 ^ 970)) ∧
    (trim text ≠ [] → (¬ ∃ value, Literal (trim text) value) → Loose.readNumber? text = none) := by
  refine ⟨fun empty => ?_, fun value literal => ?_, fun filled unwritten => ?_⟩
  · unfold Loose.readNumber?
    rw [empty]
  · rw [← not_le, ← readNumber?_eq_none_iff literal]
    exact Option.ne_none_iff_exists'.symm
  · exact Option.eq_none_iff_forall_ne_some.mpr fun x read => unwritten (exists_literal filled read)

-- A blank, a fraction with a power of ten, a number past the doubles, digits of a radix, and a sign without digits.
theorem edge_texts_read :
    (trim [' '] = [] ∧ Loose.readNumber? [' '] = some .zero) ∧
    (Literal (trim [' ', '-', '.', '5', 'E', '+', '2']) (-50) ∧
      ∃ x, Loose.readNumber? [' ', '-', '.', '5', 'E', '+', '2'] = some x) ∧
    (Literal (trim ['1', 'e', '3', '0', '9']) (10 ^ 309) ∧ ¬ ∃ x, Loose.readNumber? ['1', 'e', '3', '0', '9'] = some x) ∧
    (Literal (trim ['0', 'X', 'f', 'F']) 255 ∧ ∃ x, Loose.readNumber? ['0', 'X', 'f', 'F'] = some x) ∧
    (trim ['+'] ≠ [] ∧ (¬ ∃ value, Literal (trim ['+']) value) ∧ Loose.readNumber? ['+'] = none) := by
  have half : Literal (trim [' ', '-', '.', '5', 'E', '+', '2']) (-50) := by
    have digits : ∀ c ∈ [] ++ ['5'], c.isDigit = true := List.forall_mem_singleton.mpr rfl
    have power : IntegerText ['+'] ['2'] 2 := ⟨.inr (.inl rfl), by decide, List.forall_mem_singleton.mpr rfl, rfl⟩
    have worth : Decimal.value ⟨true, 5, 1⟩ = -50 := by norm_num [Decimal.value, Decimal.magnitude]
    rw [← worth]
    exact .decimal (.literal (.inr (.inr rfl)) (.pointed (.inr (by decide)) digits) (.power (.inr rfl) power))
  have large : Literal (trim ['1', 'e', '3', '0', '9']) (10 ^ 309) := by
    have digits : ∀ c ∈ ['1'], c.isDigit = true := List.forall_mem_singleton.mpr rfl
    have power : IntegerText [] ['3', '0', '9'] 309 := ⟨.inl rfl, by decide, List.all_eq_true.mp rfl, rfl⟩
    have worth : Decimal.value ⟨false, 1, 309⟩ = 10 ^ 309 := by
      rw [Decimal.value, if_neg Bool.false_ne_true, Decimal.magnitude, Nat.cast_one, one_mul]
      rfl
    rw [← worth]
    exact .decimal (.literal (.inl rfl) (.plain (by decide) digits) (.power (.inl rfl) power))
  have marked : Literal (trim ['0', 'X', 'f', 'F']) 255 :=
    @Literal.marked 'X' 16 255 ['f', 'F'] (by decide) ⟨by decide, [15, 15], .cons ⟨by decide, rfl⟩ (.cons ⟨by decide, rfl⟩ .nil), rfl⟩
  have bare : ¬ ∃ value, Literal (trim ['+']) value := by
    rintro ⟨value, literal⟩
    have core : trim ['+'] = ['+'] := rfl
    rw [core] at literal
    cases literal with
    | decimal written => cases Decimal.read?_of_written written
  refine ⟨⟨rfl, (number_texts_are_literals _).1 rfl⟩, ⟨half, ((number_texts_are_literals _).2.1 _ half).mpr ?_⟩,
    ⟨large, mt ((number_texts_are_literals _).2.1 _ large).mp ?_⟩,
    ⟨marked, ((number_texts_are_literals _).2.1 _ marked).mpr ?_⟩,
    ⟨by decide, bare, (number_texts_are_literals _).2.2 (by decide) bare⟩⟩
  · rw [abs_neg, abs_of_nonneg (by norm_num), ← Binary64.limit_eq]
    exact_mod_cast (by decide +kernel : 50 < Binary64.limit)
  · rw [not_lt, abs_of_nonneg (by positivity), ← Binary64.limit_eq]
    exact_mod_cast (by decide +kernel : Binary64.limit ≤ 10 ^ 309)
  · rw [abs_of_nonneg (by norm_num), ← Binary64.limit_eq]
    exact_mod_cast (by decide +kernel : 255 < Binary64.limit)

end Reading

end Conform
