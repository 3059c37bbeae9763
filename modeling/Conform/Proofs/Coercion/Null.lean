import Conform.Coercion.Basic
import Conform.Proofs.Json.Structure
import Conform.Proofs.Number.Text
import Conform.Proofs.Text.Case

namespace Conform

def BeginsWith (kind : Char → Prop) (text : List Char) : Prop := ∃ c rest, text = c :: rest ∧ kind c

theorem digits_begin (value : Nat) : BeginsWith (·.isDigit = true) (Nat.toDigits 10 value) := by
  cases h : Nat.toDigits 10 value with
  | nil => exact absurd h Nat.toDigits_ne_nil
  | cons c rest => exact ⟨c, rest, rfl, isDigit_of_mem_digits c (h ▸ List.mem_cons_self ..)⟩

namespace Shortest

-- A number without digits is padded with zeros, and one below 1 has a zero before its point.
theorem positional_begins {number : Shortest} (all : ∀ c ∈ number.digits, c.isDigit = true) :
    BeginsWith (·.isDigit = true) number.positional := by
  unfold positional
  dsimp only
  split
  · exact ⟨'0', _, rfl, by decide⟩
  · cases h : number.digits with
    | nil => exact ⟨'0', List.replicate number.exponent.toNat '0', by simp [List.replicate_succ], by decide⟩
    | cons c rest =>
        have digit := all c (h ▸ List.mem_cons_self ..)
        split
        · exact ⟨c, _, rfl, digit⟩
        · exact ⟨c, _, rfl, digit⟩

theorem signed_begins {body : List Char} (digits : BeginsWith (·.isDigit = true) body) (negative : Bool) :
    BeginsWith (·.toNat < 65) (signText negative ++ body) := by
  obtain ⟨c, rest, rfl, digit⟩ := digits
  cases negative with
  | true => exact ⟨'-', c :: rest, rfl, by decide⟩
  | false =>
      refine ⟨c, rest, rfl, ?_⟩
      have top : c.toNat ≤ 57 := (Char.isDigit_iff_toNat.mp digit).2
      omega

end Shortest

namespace Binary64

theorem plainText_begins (x : Binary64) : BeginsWith (·.toNat < 65) x.plainText := by
  refine Shortest.signed_begins ?_ x.negative
  split
  · exact digits_begin _
  · exact Shortest.positional_begins x.isDigit_shortest

end Binary64

theorem Loose.numberText_begins (number : Number) : BeginsWith (·.toNat < 65) (numberText number).toList := by
  cases number with
  | integer value =>
      rw [numberText, String.toList_ofList]
      exact Shortest.signed_begins (digits_begin value.natAbs) _
  | float x =>
      rw [numberText, String.toList_ofList]
      exact x.plainText_begins

namespace Coercion

-- Nothing at all, or the word in any letter case.
def NullLike (text : List Char) : Prop := text = [] ∨ text.map Char.toLower = ['n', 'u', 'l', 'l']

instance (text : List Char) : Decidable (NullLike text) := inferInstanceAs (Decidable (_ ∨ _))

theorem null_string (text : String) : null (.string text) = if NullLike text.toList then some .null else none := by
  have nothing : Text.lowered text = "" ↔ text.toList = [] := by
    rw [Text.lowered, ← String.toList_inj, String.toList_ofList, String.toList_empty, Text.lower_eq_iff (by simp),
      List.map_eq_nil_iff]
  have word : Text.lowered text = "null" ↔ text.toList.map Char.toLower = ['n', 'u', 'l', 'l'] := by
    rw [Text.lowered, ← String.toList_inj, String.toList_ofList, ← Text.lower_eq_iff (by simp; decide)]
    exact Iff.rfl
  show (if (Text.lowered text == "" || Text.lowered text == "null") = true then _ else _) = _
  simp only [Bool.or_eq_true, beq_iff_eq, nothing, word]
  rfl

-- Other values than null itself stand for null by their text alone.
theorem null_eq_text {value : Json} (other : value ≠ .null) : null value = null (.string (Loose.text value)) := by
  cases value with
  | null => exact absurd rfl other
  | _ => rfl

theorem null_of_begins {value : Json} (other : value ≠ .null)
    (begins : BeginsWith (·.toNat < 65) (Loose.text value).toList) : null value = none := by
  obtain ⟨c, rest, written, early⟩ := begins
  have letter := Text.toNat_toLower c
  rw [if_neg (by omega)] at letter
  rw [null_eq_text other, null_string, if_neg]
  rintro (empty | word)
  · cases written.symm.trans empty
  · rw [written, List.map_cons] at word
    rw [(List.cons.inj word).1] at letter
    exact absurd (letter ▸ early) (by decide)

theorem null_number (number : Number) : null (.number number) = none :=
  null_of_begins nofun (Loose.numberText_begins number)

theorem null_bool (value : Bool) : null (.bool value) = none := by
  cases value <;> rfl

theorem null_text {value : Json} (absent : null value = none) : null (.string (Loose.text value)) = none := by
  rw [← null_eq_text, absent]
  rintro rfl
  cases absent

-- The canonical form of whatever stands for null is null itself.
theorem null_eq_some {value canonical : Json} (taken : null value = some canonical) : canonical = .null := by
  cases value with
  | null => cases taken; rfl
  | _ =>
      simp only [null] at taken
      split at taken
      · cases taken; rfl
      · cases taken

section Structure

-- What stands for null, by its structure.
inductive StandsForNull : Json → Prop
  | null : StandsForNull .null
  | string {text : String} (word : Text.lowered text = "" ∨ Text.lowered text = "null") : StandsForNull (.string text)
  | nothing : StandsForNull (.array [])
  | single {item : Json} (inner : StandsForNull item) : StandsForNull (.array [item])

theorem itemTexts_cons {item : Json} (other : item ≠ .null) (rest : List Json) :
    Loose.itemTexts (item :: rest) = Loose.text item :: Loose.itemTexts rest := by
  cases item with
  | null => exact absurd rfl other
  | _ => rfl

theorem exists_itemTexts (item : Json) (rest : List Json) :
    ∃ text, Loose.itemTexts (item :: rest) = text :: Loose.itemTexts rest := by
  cases item <;> exact ⟨_, rfl⟩

-- Null as the only item is blank, and null by itself is the word: both stand for null.
theorem null_single (item : Json) : null (.array [item]) = null item := by
  by_cases blank : item = .null
  · rw [blank]
    rfl
  · have same : Loose.text (.array [item]) = Loose.text item := by
      rw [Loose.text, itemTexts_cons blank, Loose.itemTexts, String.intercalate_singleton]
    rw [null_eq_text (by simp), same, ← null_eq_text blank]

theorem comma_mem_text (first second : Json) (rest : List Json) :
    ',' ∈ (Loose.text (.array (first :: second :: rest))).toList := by
  obtain ⟨before, heads⟩ := exists_itemTexts first (second :: rest)
  obtain ⟨after, tails⟩ := exists_itemTexts second rest
  rw [Loose.text, heads, tails, String.intercalate_cons_cons]
  simp

theorem null_several (first second : Json) (rest : List Json) : null (.array (first :: second :: rest)) = none := by
  have comma := comma_mem_text first second rest
  rw [null_eq_text (by simp), null_string, if_neg]
  rintro (empty | word)
  · rw [empty] at comma
    cases comma
  · have lower : Char.toLower ',' ∈ ['n', 'u', 'l', 'l'] := word ▸ List.mem_map_of_mem comma
    exact absurd lower (by decide)

theorem null_object (members : Members) : null (.object members) = none := by
  rw [null_eq_text (by simp), null_string, Loose.text, if_neg (by decide)]

theorem null_isSome_iff {value : Json} : (null value).isSome = true ↔ StandsForNull value := by
  induction value using Json.induction with
  | null => exact iff_of_true rfl .null
  | bool value => exact iff_of_false (by simp [null_bool]) fun stands => by cases stands
  | number value => exact iff_of_false (by simp [null_number]) fun stands => by cases stands
  | string text =>
      have word : StandsForNull (.string text) ↔ Text.lowered text = "" ∨ Text.lowered text = "null" :=
        ⟨fun stands => by cases stands; assumption, .string⟩
      rw [word]
      simp [null, Loose.text]
  | array items ih =>
      rcases items with _ | ⟨first, _ | ⟨second, rest⟩⟩
      · exact iff_of_true rfl .nothing
      · rw [null_single, ih first (List.mem_singleton_self first)]
        exact ⟨.single, fun stands => by cases stands; assumption⟩
      · exact iff_of_false (by simp [null_several]) fun stands => by cases stands
  | object members => exact iff_of_false (by simp [null_object]) fun stands => by cases stands

theorem null_eq_some_iff {value canonical : Json} :
    null value = some canonical ↔ StandsForNull value ∧ canonical = .null := by
  rw [← null_isSome_iff]
  constructor
  · intro taken
    exact ⟨by rw [taken]; rfl, null_eq_some taken⟩
  · rintro ⟨taken, rfl⟩
    obtain ⟨canonical, given⟩ := Option.isSome_iff_exists.mp taken
    rw [given, null_eq_some given]

end Structure

end Coercion
end Conform
