import Conform.Proofs.Coercion.Spelling
import Conform.Proofs.Registry.Range

namespace Conform.Registry
open Conform.Text

section Bounds

-- What is written of a length: what stands for null, or a natural number up to 2^53.
inductive LengthText : List Char → Option Nat → Prop
  | null {core : List Char} (like : Coercion.NullLike core) : LengthText core none
  | number {sign digits : List Char} {count : Nat} (written : IntegerText sign digits count)
      (small : count ≤ Binary64.safe) : LengthText (sign ++ digits) (some count)

-- A length as an argument, with blanks around it. A missing argument is no bound.
inductive LengthArgument : Option String → Option Nat → Prop
  | missing : LengthArgument none none
  | given {text : String} {bound : Option Nat} (written : LengthText (trim text.toList) bound) :
      LengthArgument (some text) bound

-- What is no length: an integer below zero, of any size, or a text that is neither null nor a number.
inductive RefusedArgument (text : String) : Prop
  | negative {sign digits : List Char} {value : Int} (written : IntegerText sign digits value) (below : value < 0)
      (spelled : trim text.toList = sign ++ digits)
  | unreadable (other : ¬ Coercion.NullLike (trim text.toList)) (unread : Loose.readNumber? text.toList = none)

theorem get?_unsigned : builtinTypes.get? "unsigned" = some ⟨Coercion.unsigned, false⟩ := rfl

theorem toList_trimmed (text : String) : (trimmed text).toList = trim text.toList := String.toList_ofList

theorem lengthBound_ofInt {count : Nat} (small : count ≤ Binary64.safe) (fits : (count : Int).natAbs < Binary64.wide) :
    lengthBound (.ofInt count fits) = count := by
  have room : Binary64.safe ≤ Number.unsignedEnd.toNat - 1 := by decide
  rw [lengthBound, Binary64.whole_ofInt count fits small, Int.toNat_natCast]
  exact Nat.min_eq_left (Nat.le_trans small room)

theorem unsigned_integerText {sign digits : List Char} {count : Nat} (written : IntegerText sign digits count)
    (small : (count : Int).natAbs ≤ Binary64.safe) :
    Coercion.unsigned (.string (.ofList (sign ++ digits))) =
      some (.number (.integer count (Number.inRange_of_natAbs_le_safe small))) := by
  have literal : IntegerLiteral (trim (String.ofList (sign ++ digits)).toList) count := by
    rw [String.toList_ofList, written.tight]
    exact .decimal written
  exact Coercion.unsigned_iff.mpr
    ⟨Coercion.int_integerLiteral literal small, _, rfl, Int.cast_nonneg (Int.natCast_nonneg count)⟩

theorem exists_readBound?_length {argument : Option String} {bound : Option Nat} (given : LengthArgument argument bound) :
    ∃ read, readBound? [Leaf.nullName, "unsigned"] argument = some read ∧ read.map lengthBound = bound := by
  cases given with
  | missing => exact ⟨none, rfl, rfl⟩
  | @given text bound written =>
      unfold readBound?
      dsimp only
      rw [firstMatch?_null_or get?_unsigned, trimmed]
      generalize trim text.toList = core at written
      cases written with
      | null like =>
          rw [Coercion.null_string, String.toList_ofList, if_pos like]
          exact ⟨none, rfl, rfl⟩
      | @number sign digits count written small =>
          rw [null_integerText written, Option.none_or, unsigned_integerText written small]
          have inRange := @Number.inRange_of_natAbs_le_safe count small
          exact ⟨_, rfl, congrArg some (lengthBound_ofInt small (Number.natAbs_lt_wide inRange))⟩

theorem readBound?_refused {text : String} (refused : RefusedArgument text) :
    readBound? [Leaf.nullName, "unsigned"] (some text) = none := by
  unfold readBound?
  dsimp only
  rw [firstMatch?_null_or get?_unsigned]
  cases refused with
  | @negative sign digits value written below spelled =>
      have core : trim (trimmed text).toList = sign ++ digits := by
        rw [toList_trimmed, trim_trim, spelled]
      have other : Coercion.null (.string (trimmed text)) = none := by
        rw [trimmed, spelled]
        exact null_integerText written
      rw [other, Option.none_or, Coercion.unsigned_negative written below core]
  | unreadable other unread =>
      have again : Loose.readNumber? (trimmed text).toList = none := by
        rw [← unread]
        apply readNumber?_congr
        rw [toList_trimmed, trim_trim]
      have solid : ¬ Coercion.NullLike (trimmed text).toList := by
        rwa [toList_trimmed]
      rw [Coercion.null_string, if_neg solid, Option.none_or, Coercion.unsigned_unread again]

end Bounds

section Lengths

-- A number of characters between two bounds, of which either may be missing.
def InLength (lo hi : Option Nat) (count : Nat) : Prop := (∀ low ∈ lo, low ≤ count) ∧ ∀ high ∈ hi, count ≤ high

-- Bounds that make no range: none at all, or the wrong way round.
def NoLength (lo hi : Option Nat) : Prop := (lo = none ∧ hi = none) ∨ ∃ low ∈ lo, ∃ high ∈ hi, high < low

-- A bound as a message shows it.
def shownLength : Option Nat → String
  | none => "null"
  | some count => toString count

-- What a range of lengths does with texts and with other values.
structure CountsCharacters (lo hi : Option Nat) (range : Transform) : Prop where
  within : ∀ text : String, InLength lo hi text.length → range (.string text) = .ok (.string text)
  outside : ∀ text : String, ¬ InLength lo hi text.length →
    range (.string text) = .error ("Expected strlen [" ++ shownLength lo ++ ", " ++ shownLength hi ++ "]")
  others : ∀ value, (∀ text, value ≠ .string text) → range value = .error "StrRange expects a string value"

-- What two bounds make.
structure LengthCheck (lo hi : Option Nat) (built : Except String Transform) : Prop where
  refused : built = .error "Invalid StrRange range values" ↔ NoLength lo hi
  accepted : ¬ NoLength lo hi → ∃ range, built = .ok range ∧ CountsCharacters lo hi range

theorem not_noLength {lo hi : Option Nat} :
    ¬ NoLength lo hi ↔ (lo.isSome ∨ hi.isSome) ∧ ∀ low ∈ lo, ∀ high ∈ hi, low ≤ high := by
  cases lo <;> cases hi <;> simp [NoLength]

theorem Range.holds_iff_inLength {range : Range Nat} {count : Nat} :
    range.holds count = true ↔ InLength range.low range.high count := by
  cases low : range.low <;> cases high : range.high <;> simp [holds, low, high, InLength]

theorem Range.text_toString (range : Range Nat) :
    range.text toString = "[" ++ shownLength range.low ++ ", " ++ shownLength range.high ++ "]" := by
  cases low : range.low <;> cases high : range.high <;> simp [text, low, high, shownLength]

section Built
variable {lo hi : Option Nat} {arguments : List String}

theorem lengthCheck_of_readRange?
    (read : readRange? [Leaf.nullName, "unsigned"] lengthBound arguments = Range.of? lo hi) :
    LengthCheck lo hi (strRange arguments) := by
  unfold strRange
  rw [read, Range.of?]
  by_cases fine : (lo.isSome ∨ hi.isSome) ∧ ∀ low ∈ lo, ∀ high ∈ hi, low ≤ high
  · rw [dif_pos fine]
    dsimp only
    have matched := not_noLength.mpr fine
    refine ⟨iff_of_false (by simp) matched, fun _ => ⟨_, rfl, fun text inside => ?_, fun text outside => ?_, ?_⟩⟩
    · dsimp only
      rw [if_pos (Range.holds_iff_inLength.mpr inside)]
    · dsimp only
      rw [if_neg (mt Range.holds_iff_inLength.mp outside), Range.text_toString,
        show "Expected strlen [" = "Expected strlen " ++ "[" from rfl]
      simp only [String.append_assoc]
    · intro value other
      cases value with
      | string text => exact absurd rfl (other text)
      | _ => rfl
  · rw [dif_neg fine]
    have void : NoLength lo hi := Classical.byContradiction fun matched => fine (not_noLength.mp matched)
    exact ⟨iff_of_true rfl void, fun matched => absurd void matched⟩

theorem readRange?_lengths (left : LengthArgument arguments[0]? lo) (right : LengthArgument arguments[1]? hi) :
    readRange? [Leaf.nullName, "unsigned"] lengthBound arguments = Range.of? lo hi := by
  obtain ⟨low, readLow, sameLow⟩ := exists_readBound?_length left
  obtain ⟨high, readHigh, sameHigh⟩ := exists_readBound?_length right
  rw [readRange?_of_reads arguments readLow readHigh, sameLow, sameHigh]

theorem readRange?_refused {text : String} (refused : RefusedArgument text)
    (there : text ∈ arguments[0]? ∨ text ∈ arguments[1]?) :
    readRange? [Leaf.nullName, "unsigned"] lengthBound arguments = none := by
  have unread := readBound?_refused refused
  unfold readRange?
  rcases there with first | second
  · rw [Option.mem_def.mp first, unread]
    rfl
  · rw [Option.mem_def.mp second, unread]
    cases readBound? [Leaf.nullName, "unsigned"] arguments[0]? <;> rfl

end Built

-- Characters are counted, not bytes; a blank argument is no bound, and one that is refused is refused next to any other.
theorem strRange_counts_characters (call : Leaf.Written) (named : call.name = "str_range") :
    (∀ lo hi, LengthArgument call.arguments[0]? lo → LengthArgument call.arguments[1]? hi →
      LengthCheck lo hi (transform builtin.transforms (.ofList call.text))) ∧
    ∀ text, RefusedArgument text → text ∈ call.arguments[0]? ∨ text ∈ call.arguments[1]? →
      transform builtin.transforms (.ofList call.text) = .error "Invalid StrRange range values" := by
  have fine : nameFault? call.name = none := by
    rw [named]
    decide
  rw [Leaf.Written.transform_text fine, instantiate_strRange named]
  refine ⟨fun lo hi left right => lengthCheck_of_readRange? (readRange?_lengths left right),
    fun text refused there => ?_⟩
  show strRange call.arguments = _
  rw [strRange, readRange?_refused refused there]

def paddedCall : Leaf.Written := ⟨"str_range", [" 02 ", "NULL"], by simp⟩
def negativeCall : Leaf.Written := ⟨"str_range", [" -1", " 02 "], by simp⟩
def wordCall : Leaf.Written := ⟨"str_range", ["NULL", "two"], by simp⟩

-- A bound between blanks next to a null in capitals, and arguments that are refused next to these.
theorem strRange_counts_characters_at_bounds :
    LengthArgument (some " 02 ") (some 2) ∧ LengthArgument (some "NULL") none ∧ RefusedArgument " -1" ∧
    RefusedArgument "two" ∧
    LengthCheck (some 2) none (transform builtin.transforms "str_range( 02 ,NULL)") ∧
    transform builtin.transforms "str_range( -1, 02 )" = .error "Invalid StrRange range values" ∧
    transform builtin.transforms "str_range(NULL,two)" = .error "Invalid StrRange range values" := by
  have two : LengthArgument (some " 02 ") (some 2) :=
    .given (@LengthText.number [] ['0', '2'] 2 ⟨.inl rfl, by decide, List.all_eq_true.mp rfl, rfl⟩ (by decide))
  have null : LengthArgument (some "NULL") none := .given (.null (by decide))
  have negative : RefusedArgument " -1" :=
    @RefusedArgument.negative " -1" ['-'] ['1'] (-1)
      ⟨.inr (.inr rfl), by decide, List.forall_mem_singleton.mpr rfl, rfl⟩ (by decide) rfl
  have unreadable : RefusedArgument "two" := .unreadable (by decide) rfl
  have padded : "str_range( 02 ,NULL)" = String.ofList paddedCall.text := by decide
  have below : "str_range( -1, 02 )" = String.ofList negativeCall.text := by decide
  have word : "str_range(NULL,two)" = String.ofList wordCall.text := by decide
  rw [padded, below, word]
  exact ⟨two, null, negative, unreadable, (strRange_counts_characters paddedCall rfl).1 _ _ two null,
    (strRange_counts_characters negativeCall rfl).2 _ negative (.inl rfl),
    (strRange_counts_characters wordCall rfl).2 _ unreadable (.inr rfl)⟩

end Lengths

end Conform.Registry
