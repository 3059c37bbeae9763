import Conform.Proofs.Coercion.Null
import Conform.Proofs.Number.Decimal
import Conform.Proofs.Registry.Builtin
import Conform.Proofs.Schema.Spelling

namespace Conform.Registry
open Conform.Text

section Bounds

-- What is written of a bound: nothing or null if there is none, and otherwise an integer of 64 bits.
inductive BoundText : List Char → Option Int → Prop
  | nothing : BoundText [] none
  | null : BoundText ['n', 'u', 'l', 'l'] none
  | integer {sign digits : List Char} {value : Int} (written : IntegerText sign digits value)
      (inRange : -Number.signedEnd ≤ value ∧ value < Number.signedEnd) : BoundText (sign ++ digits) (some value)

-- A bound as an argument, with blanks around it.
inductive BoundArgument : String → Option Int → Prop
  | padded {before core after : List Char} {bound : Option Int} (front : ∀ c ∈ before, isBlank c = true)
      (back : ∀ c ∈ after, isBlank c = true) (written : BoundText core bound) :
      BoundArgument (.ofList (before ++ core ++ after)) bound

-- What a bound is read as: nothing, or the double nearest to it.
inductive ReadAs : Option Binary64 → Option Int → Prop
  | nothing : ReadAs none none
  | nearest {x : Binary64} {value : Int} (units : x.toUnits = Binary64.nearestUnits value) : ReadAs (some x) (some value)

theorem BoundText.solid {core : List Char} {bound : Option Int} (written : BoundText core bound) :
    ∀ c ∈ core, isBlank c = false ∧ c ≠ ',' ∧ c ≠ '(' ∧ c ≠ ')' := by
  cases written with
  | nothing => exact nofun
  | null =>
      simp
      decide
  | integer written inRange => exact written.solid

theorem BoundArgument.inside {text : String} {bound : Option Int} (argument : BoundArgument text bound) :
    ∀ c ∈ text.toList, c ≠ ',' ∧ c ≠ '(' ∧ c ≠ ')' := by
  have apart : ∀ {c}, isBlank c = true → c ≠ ',' ∧ c ≠ '(' ∧ c ≠ ')' := fun blank =>
    ⟨ne_of_isBlank blank rfl, ne_of_isBlank blank rfl, ne_of_isBlank blank rfl⟩
  cases argument with
  | padded front back written =>
      intro c within
      rw [String.toList_ofList, List.mem_append, List.mem_append] at within
      rcases within with (ahead | inside) | behind
      · exact apart (front c ahead)
      · exact (written.solid c inside).2
      · exact apart (back c behind)

theorem BoundArgument.exists_trimmed {text : String} {bound : Option Int} (argument : BoundArgument text bound) :
    ∃ core, trimmed text = .ofList core ∧ BoundText core bound := by
  cases argument with
  | @padded before core after bound front back written =>
      refine ⟨core, ?_, written⟩
      rw [trimmed, String.toList_ofList, trim_padded front back (trim_of_solid fun c within => (written.solid c within).1)]

theorem BoundText.argument {text : String} {core : List Char} {bound : Option Int} (written : BoundText core bound)
    (spelled : text.toList = core) : BoundArgument text bound := by
  subst spelled
  have argument := BoundArgument.padded (by simp : ∀ c ∈ [], isBlank c = true) (by simp : ∀ c ∈ [], isBlank c = true) written
  rwa [List.nil_append, List.append_nil, String.ofList_toList] at argument

theorem BoundArgument.of_digits {text : String} {value : Int} (filled : text.toList ≠ [])
    (decimal : text.toList.all Char.isDigit = true) (worth : value = Nat.ofDigitChars 10 text.toList 0)
    (inRange : -Number.signedEnd ≤ value ∧ value < Number.signedEnd) : BoundArgument text (some value) :=
  BoundText.argument (.integer ⟨.inl rfl, filled, List.all_eq_true.mp decimal, worth⟩ inRange) rfl

theorem null_integerText {sign digits : List Char} {value : Int} (written : IntegerText sign digits value) :
    Coercion.null (.string (.ofList (sign ++ digits))) = none := by
  refine Coercion.null_of_begins nofun ?_
  rw [Loose.text, String.toList_ofList]
  rcases written.signed with rfl | rfl | rfl
  · obtain ⟨c, rest, rfl⟩ := List.exists_cons_of_ne_nil written.filled
    have top : c.toNat ≤ 57 := (Char.isDigit_iff_toNat.mp (written.decimal c (List.mem_cons_self ..))).2
    exact ⟨c, rest, rfl, Nat.lt_of_le_of_lt top (by decide)⟩
  · exact ⟨'+', digits, rfl, by decide⟩
  · exact ⟨'-', digits, rfl, by decide⟩

theorem firstMatch?_integerText {sign digits : List Char} {value : Int} (written : IntegerText sign digits value)
    {x : Binary64} (read : Loose.readNumber? (sign ++ digits) = some x) :
    firstMatch? builtinTypes [Leaf.nullName, "float"] (.string (.ofList (sign ++ digits))) = some (.ofNumber x) := by
  have float : builtinTypes.get? "float" = some ⟨Coercion.float, false⟩ := rfl
  have stored : Coercion.float (.string (.ofList (sign ++ digits))) = some (.ofNumber x) := by
    show (Loose.readNumber? (String.ofList (sign ++ digits)).toList).map Json.ofNumber = _
    rw [String.toList_ofList, read, Option.map_some]
  rw [firstMatch?_null_or float, null_integerText written, Option.none_or, stored]

theorem exists_readBound? {text : String} {bound : Option Int} (argument : BoundArgument text bound) :
    ∃ read, readBound? [Leaf.nullName, "float"] (some text) = some read ∧ ReadAs read bound := by
  obtain ⟨core, same, written⟩ := argument.exists_trimmed
  unfold readBound?
  dsimp only
  rw [same]
  cases written with
  | nothing => exact ⟨none, rfl, .nothing⟩
  | null => exact ⟨none, rfl, .nothing⟩
  | @integer sign digits value written inRange =>
      have small : value.natAbs < Binary64.wide := by
        simp only [Number.signedEnd, Binary64.wide] at *
        omega
      obtain ⟨x, read, units⟩ := written.exists_readNumber? small
      refine ⟨some (Number.ofBinary64 x).toBinary64, ?_, .nearest ?_⟩
      · rw [firstMatch?_integerText written read]
        rfl
      · rw [Binary64.toUnits_ofBinary64, units]

end Bounds

section Ranges

-- An integer between two bounds, of which either may be missing, in some order of the integers.
def Within (le : Int → Int → Prop) (lo hi : Option Int) (value : Int) : Prop :=
  (∀ bound ∈ lo, le bound value) ∧ ∀ bound ∈ hi, le value bound

-- Bounds that make no range: none at all, or the wrong way round.
def Void (le : Int → Int → Prop) (lo hi : Option Int) : Prop :=
  (lo = none ∧ hi = none) ∨ ∃ low ∈ lo, ∃ high ∈ hi, ¬ le low high

-- What a range between integers does, if integers compare in some order.
structure RangeCheck (le : Int → Int → Prop) (lo hi : Option Int) (built : Except String Transform) : Prop where
  refused : (∃ message, built = .error message) ↔ Void le lo hi
  integers : ∀ range, built = .ok range → ∀ value inRange,
    (Within le lo hi value → range (.number (.integer value inRange)) = .ok (.number (.integer value inRange))) ∧
    (¬ Within le lo hi value → ∃ message, range (.number (.integer value inRange)) = .error message)
  others : ∀ range, built = .ok range → ∀ value, (∀ number, value ≠ .number number) →
    range value = .error "NumRange expects a numeric value"

-- The order of the nearest doubles.
def NearestLe (first second : Int) : Prop := Binary64.nearestUnits first ≤ Binary64.nearestUnits second

theorem not_void {le : Int → Int → Prop} {lo hi : Option Int} :
    ¬ Void le lo hi ↔ (lo.isSome ∨ hi.isSome) ∧ ∀ low ∈ lo, ∀ high ∈ hi, le low high := by
  cases lo <;> cases hi <;> simp [Void]

theorem Range.holds_iff {range : Range Binary64} {value : Binary64} :
    range.holds value = true ↔ (∀ low ∈ range.low, low ≤ value) ∧ ∀ high ∈ range.high, value ≤ high := by
  cases low : range.low <;> cases high : range.high <;> simp [holds, low, high]

namespace ReadAs
variable {read : Option Binary64} {bound : Option Int} (same : ReadAs read bound)
include same

theorem isSome_eq : read.isSome = bound.isSome := by
  cases same <;> rfl

theorem forall_iff {p : Int → Prop} :
    (∀ x ∈ read, p x.toUnits) ↔ ∀ value ∈ bound, p (Binary64.nearestUnits value) := by
  cases same with
  | nothing => simp
  | nearest units => simp [units]

end ReadAs

section Bounded
variable {lo hi : Option Int} {low high : Option Binary64} (left : ReadAs low lo) (right : ReadAs high hi)
include left right

theorem ordered_iff : ((low.isSome ∨ high.isSome) ∧ ∀ first ∈ low, ∀ last ∈ high, first ≤ last) ↔
    ¬ Void NearestLe lo hi := by
  rw [not_void, left.isSome_eq, right.isSome_eq]
  refine and_congr_right fun _ => ?_
  have inner : ∀ first : Binary64, (∀ last ∈ high, first ≤ last) ↔
      ∀ last ∈ hi, first.toUnits ≤ Binary64.nearestUnits last :=
    fun first => right.forall_iff (p := (first.toUnits ≤ ·))
  simp only [inner]
  exact left.forall_iff (p := fun units => ∀ last ∈ hi, units ≤ Binary64.nearestUnits last)

theorem within_iff {value : Int} (small : value.natAbs < Binary64.wide) :
    ((∀ first ∈ low, first ≤ .ofInt value small) ∧ ∀ last ∈ high, .ofInt value small ≤ last) ↔
      Within NearestLe lo hi value := by
  unfold Within NearestLe
  rw [← Binary64.toUnits_ofInt value small]
  exact and_congr (left.forall_iff (p := (· ≤ (Binary64.ofInt value small).toUnits)))
    (right.forall_iff (p := ((Binary64.ofInt value small).toUnits ≤ ·)))

theorem rangeCheck_of_readRange? {arguments : List String}
    (read : readRange? [Leaf.nullName, "float"] id arguments = Range.of? low high) :
    RangeCheck NearestLe lo hi (numRange arguments) := by
  have ordered := ordered_iff left right
  unfold numRange
  rw [read, Range.of?]
  by_cases fine : (low.isSome ∨ high.isSome) ∧ ∀ first ∈ low, ∀ last ∈ high, first ≤ last
  · rw [dif_pos fine]
    dsimp only
    have matched := ordered.mp fine
    refine ⟨⟨fun failed => ?_, fun void => absurd void matched⟩, ?_, ?_⟩
    · obtain ⟨message, failed⟩ := failed
      cases failed
    · intro range built value inRange
      cases built
      have held : (⟨low, high, fine.1, fine.2⟩ : Range Binary64).holds (Number.integer value inRange).toBinary64 = true ↔
          Within NearestLe lo hi value :=
        Range.holds_iff.trans (within_iff left right (Number.natAbs_lt_wide inRange))
      dsimp only
      refine ⟨fun inside => ?_, fun outside => ?_⟩
      · rw [if_pos (held.mpr inside)]
      · rw [if_neg (mt held.mp outside)]
        exact ⟨_, rfl⟩
    · intro range built value other
      cases built
      cases value with
      | number number => exact absurd rfl (other number)
      | _ => rfl
  · rw [dif_neg fine]
    have void : Void NearestLe lo hi := Classical.byContradiction fun matched => fine (ordered.mpr matched)
    exact ⟨⟨fun _ => void, fun _ => ⟨_, rfl⟩⟩, nofun, nofun⟩

end Bounded

theorem numRange_reads {low high : String} {lo hi : Option Binary64}
    (readLow : readBound? [Leaf.nullName, "float"] (some low) = some lo)
    (readHigh : readBound? [Leaf.nullName, "float"] (some high) = some hi) :
    readRange? [Leaf.nullName, "float"] id [low, high] = Range.of? lo hi := by
  rw [readRange?_of_reads [low, high] readLow readHigh, Option.map_id, id, id]

theorem transform_numRange {low high : String} (inside : ∀ c ∈ low.toList, c ≠ ',' ∧ c ≠ '(' ∧ c ≠ ')')
    (inside' : ∀ c ∈ high.toList, c ≠ ',' ∧ c ≠ '(' ∧ c ≠ ')') :
    transform builtin.transforms ("num_range(" ++ low ++ "," ++ high ++ ")") = numRange [low, high] := by
  let written : Leaf.Written := ⟨"num_range", [low, high], by simpa using ⟨inside, inside'⟩⟩
  have text : String.ofList written.text = "num_range(" ++ low ++ "," ++ high ++ ")" := by
    rw [← String.toList_inj, String.toList_ofList]
    simp [written, Leaf.Written.text, join]
  rw [← text, Leaf.Written.transform_text (by decide : nameFault? "num_range" = none), instantiate_numRange rfl]
  rfl

theorem nearestLe_of_le {first second : Int} (fits : first.natAbs < Binary64.wide) (fits' : second.natAbs < Binary64.wide)
    (le : first ≤ second) : NearestLe first second := by
  rcases Int.lt_or_eq_of_le le with less | rfl
  · unfold NearestLe
    rw [← Binary64.toUnits_ofInt first fits, ← Binary64.toUnits_ofInt second fits']
    exact (Binary64.isNearest_ofInt first fits).mono (Binary64.isNearest_ofInt second fits') less
  · exact Int.le_refl _

theorem nearestLe_iff {first second : Int} (fits : first.natAbs < Binary64.wide) (fits' : second.natAbs < Binary64.wide)
    (either : first.natAbs < Binary64.safe ∨ second.natAbs < Binary64.safe) : NearestLe first second ↔ first ≤ second := by
  unfold NearestLe
  rw [← Binary64.toUnits_ofInt first fits, ← Binary64.toUnits_ofInt second fits']
  exact (Binary64.isNearest_ofInt first fits).le_iff (Binary64.isNearest_ofInt second fits') either

section Small
variable {lo hi : Option Int} (small : ∀ bound, bound ∈ lo ∨ bound ∈ hi → bound.natAbs < Binary64.safe)
include small

theorem void_iff_of_small : Void NearestLe lo hi ↔ Void (· ≤ ·) lo hi := by
  rw [← not_iff_not, not_void, not_void]
  refine and_congr_right fun _ => ?_
  refine forall₂_congr fun low first => forall₂_congr fun high last => ?_
  have below := small low (.inl first)
  have above := small high (.inr last)
  exact nearestLe_iff (Nat.lt_trans below Binary64.safe_lt_wide) (Nat.lt_trans above Binary64.safe_lt_wide) (.inl below)

theorem within_iff_of_small {value : Int} (fits : value.natAbs < Binary64.wide) :
    Within NearestLe lo hi value ↔ Within (· ≤ ·) lo hi value := by
  refine and_congr (forall₂_congr fun bound given => ?_) (forall₂_congr fun bound given => ?_)
  · have below := small bound (.inl given)
    exact nearestLe_iff (Nat.lt_trans below Binary64.safe_lt_wide) fits (.inl below)
  · have above := small bound (.inr given)
    exact nearestLe_iff fits (Nat.lt_trans above Binary64.safe_lt_wide) (.inr above)

theorem RangeCheck.exact {built : Except String Transform} (check : RangeCheck NearestLe lo hi built) :
    RangeCheck (· ≤ ·) lo hi built := by
  refine ⟨check.refused.trans (void_iff_of_small small), fun range ready value inRange => ?_, check.others⟩
  rw [← within_iff_of_small small (Number.natAbs_lt_wide inRange)]
  exact check.integers range ready value inRange

end Small

-- A range compares the nearest doubles, which may take two integers for one only if both are past 2^53.
theorem numRange_checks_nearest {low high : String} {lo hi : Option Int} (left : BoundArgument low lo)
    (right : BoundArgument high hi) :
    RangeCheck NearestLe lo hi (transform builtin.transforms ("num_range(" ++ low ++ "," ++ high ++ ")")) ∧
    ((∀ bound, bound ∈ lo ∨ bound ∈ hi → bound.natAbs < Binary64.safe) →
      RangeCheck (· ≤ ·) lo hi (transform builtin.transforms ("num_range(" ++ low ++ "," ++ high ++ ")"))) ∧
    (∀ value : Int, value.natAbs < Binary64.wide →
      ∃ x : Binary64, x.toUnits = Binary64.nearestUnits value ∧ x.IsNearest value) ∧
    ∀ first second : Int, first.natAbs < Binary64.wide → second.natAbs < Binary64.wide →
      (first ≤ second → NearestLe first second) ∧
      (first.natAbs < Binary64.safe ∨ second.natAbs < Binary64.safe → (NearestLe first second ↔ first ≤ second)) := by
  obtain ⟨read, readLow, reads⟩ := exists_readBound? left
  obtain ⟨read', readHigh, reads'⟩ := exists_readBound? right
  have check := rangeCheck_of_readRange? reads reads' (numRange_reads readLow readHigh)
  rw [transform_numRange left.inside right.inside]
  exact ⟨check, fun small => check.exact small,
    fun value fits => ⟨_, Binary64.toUnits_ofInt value fits, Binary64.isNearest_ofInt value fits⟩,
    fun first second fits fits' => ⟨nearestLe_of_le fits fits', nearestLe_iff fits fits'⟩⟩

-- Bounds below 2^53, with blanks and a missing one, and a bound past it.
theorem numRange_checks_nearest_at_bounds :
    BoundArgument "-5" (some (-5)) ∧ BoundArgument " null " none ∧
    BoundArgument "9007199254740993" (some 9007199254740993) ∧
    (∀ bound, bound ∈ some (-5) ∨ bound ∈ none → bound.natAbs < Binary64.safe) ∧
    RangeCheck (· ≤ ·) (some (-5)) none (transform builtin.transforms ("num_range(" ++ "-5" ++ "," ++ " null " ++ ")")) ∧
    RangeCheck NearestLe (some (-5)) (some 9007199254740993)
      (transform builtin.transforms ("num_range(" ++ "-5" ++ "," ++ "9007199254740993" ++ ")")) ∧
    (NearestLe 9007199254740993 9007199254740991 ↔ (9007199254740993 : Int) ≤ 9007199254740991) := by
  have low : BoundArgument "-5" (some (-5)) :=
    BoundText.argument (@BoundText.integer ['-'] ['5'] _
      ⟨.inr (.inr rfl), by decide, List.forall_mem_singleton.mpr rfl, rfl⟩ (by decide)) rfl
  have missing : BoundArgument " null " none :=
    .padded (List.forall_mem_singleton.mpr (rfl : isBlank ' ' = true))
      (List.forall_mem_singleton.mpr (rfl : isBlank ' ' = true)) .null
  have high : BoundArgument "9007199254740993" (some 9007199254740993) :=
    .of_digits (by decide) (by decide) (by decide) (by decide)
  have small : ∀ bound, bound ∈ some (-5) ∨ bound ∈ none → bound.natAbs < Binary64.safe := by
    simp
    decide
  exact ⟨low, missing, high, small, (numRange_checks_nearest low missing).2.1 small, (numRange_checks_nearest low high).1,
    ((numRange_checks_nearest low high).2.2.2 _ _ (by decide) (by decide)).2 (.inr (by decide))⟩

-- Two integers past 2^53 that share a double: as bounds they are not in order, and one passes for being at least the other.
theorem shared_double_passes :
    BoundArgument "9007199254740993" (some 9007199254740993) ∧
    BoundArgument "9007199254740992" (some 9007199254740992) ∧ BoundArgument "" none ∧
    ¬ RangeCheck (· ≤ ·) (some 9007199254740993) (some 9007199254740992)
      (transform builtin.transforms "num_range(9007199254740993,9007199254740992)") ∧
    ¬ RangeCheck (· ≤ ·) (some 9007199254740993) none (transform builtin.transforms "num_range(9007199254740993,)") := by
  have reversed : (transform builtin.transforms "num_range(9007199254740993,9007199254740992)").toBool = true := by
    decide +kernel
  have below : ((transform builtin.transforms "num_range(9007199254740993,)").bind fun range =>
      range (.number (.integer 9007199254740992 (by decide)))).toBool = true := by
    decide +kernel
  refine ⟨?_, ?_, ?_, fun check => ?_, fun check => ?_⟩
  · exact .of_digits (by decide) (by decide) (by decide) (by decide)
  · exact .of_digits (by decide) (by decide) (by decide) (by decide)
  · exact BoundText.argument .nothing rfl
  · obtain ⟨message, failed⟩ := check.refused.mpr (.inr ⟨_, rfl, _, rfl, by decide⟩)
    rw [failed] at reversed
    cases reversed
  · cases built : transform builtin.transforms "num_range(9007199254740993,)" with
    | error message =>
        rw [built] at below
        cases below
    | ok range =>
        obtain ⟨message, failed⟩ := (check.integers range built 9007199254740992 (by decide)).2 (by simp [Within])
        rw [built, Except.bind, failed] at below
        cases below

end Ranges

end Conform.Registry
