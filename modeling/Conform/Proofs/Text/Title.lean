import Conform.Proofs.Text.Case
import Conform.Proofs.Text.Language
import Conform.Registry.Builtin
import Mathlib.Data.List.SplitBy
import Mathlib.Data.List.TakeWhile

namespace Conform.Text

section Stretches

-- The longest stretches of blanks and of other characters, in order.
def stretches (text : List Char) : List (List Char) := text.splitBy fun c d => isBlank c == isBlank d

theorem stretches_append {kind : Bool} {stretch rest : List Char} (some : stretch ≠ [])
    (uniform : ∀ c ∈ stretch, isBlank c = kind) (turn : ∀ c ∈ rest.head?, isBlank c = !kind) :
    stretches (stretch ++ rest) = stretch :: stretches rest := by
  have alike : stretch.IsChain fun c d => (isBlank c == isBlank d) = true := by
    refine (List.pairwise_of_forall_mem_list fun c here d there => ?_).isChain
    rw [uniform c here, uniform d there, beq_self_eq_true]
  rw [stretches, List.splitBy_append, List.splitBy_of_isChain some alike]
  · rfl
  · intro c last d first
    rw [uniform c (List.mem_of_mem_getLast? last), turn d first]
    cases kind <;> rfl

theorem exists_first_stretch {c : Char} {tail : List Char} : ∃ more rest, tail = more ++ rest ∧
    (∀ d ∈ c :: more, isBlank d = isBlank c) ∧ ∀ d ∈ rest.head?, isBlank d = !isBlank c := by
  refine ⟨tail.takeWhile (isBlank · == isBlank c), tail.dropWhile (isBlank · == isBlank c),
    List.takeWhile_append_dropWhile.symm, List.forall_mem_cons.mpr ⟨rfl, fun d within => ?_⟩, fun d first => ?_⟩
  · exact eq_of_beq (@List.mem_takeWhile_imp _ (isBlank · == isBlank c) _ _ within)
  · have other := List.head?_dropWhile_not (isBlank · == isBlank c) tail
    rw [Option.mem_def.mp first] at other
    simpa [Bool.eq_not_iff] using other

-- A text is taken apart by its first stretch.
@[elab_as_elim]
theorem stretchInduction {motive : List Char → Prop} (nil : motive [])
    (append : ∀ kind stretch rest, stretch ≠ [] → (∀ c ∈ stretch, isBlank c = kind) →
      (∀ c ∈ rest.head?, isBlank c = !kind) → motive rest → motive (stretch ++ rest)) (text : List Char) :
    motive text := by
  match text with
  | [] => exact nil
  | c :: tail =>
      obtain ⟨more, rest, whole, uniform, turn⟩ := @exists_first_stretch c tail
      have shorter : rest.length < (c :: tail).length := by
        rw [whole, List.length_cons, List.length_append]
        omega
      rw [whole]
      exact append (isBlank c) (c :: more) rest (List.cons_ne_nil _ _) uniform turn
        (stretchInduction nil append rest)
termination_by text.length

end Stretches

section Words

-- What becomes of a stretch: of one that has a word, the first character of that goes to upper case, and every later
-- one to lower case by itself.
inductive Titled : List Char → List Char → Prop
  | blank {stretch : List Char} (blank : ∀ c ∈ stretch, isBlank c = true) : Titled stretch stretch
  | plain {stretch : List Char} (plain : ∀ c ∈ stretch, isBlank c = false ∧ isWordStart c = false) :
      Titled stretch stretch
  | word {before after : List Char} {first : Char} (plain : ∀ c ∈ before, isBlank c = false ∧ isWordStart c = false)
      (starts : isWordStart first = true) (solid : ∀ c ∈ after, isBlank c = false) :
      Titled (before ++ first :: after) (before ++ (upperChar first ++ after.flatMap lowerChar))

theorem ascii_of_isWordStart {c : Char} (starts : isWordStart c = true) : c.toNat < 128 := by
  delta isWordStart Char.isAlphanum Char.isAlpha Char.isUpper Char.isLower Char.isDigit at starts
  simp only [Bool.or_eq_true, Bool.and_eq_true, decide_eq_true_eq, beq_iff_eq, UInt32.le_iff_toNat_le,
    ge_iff_le] at starts
  have code : c.val.toNat = c.toNat := rfl
  have capital : 'Z'.val.toNat = 90 := rfl
  have small : 'z'.val.toNat = 122 := rfl
  have digit : '9'.val.toNat = 57 := rfl
  rcases starts with ((upper | lower) | number) | rfl
  · omega
  · omega
  · omega
  · decide

theorem toUpper_of_isWordStart {c : Char} (starts : isWordStart c = true) :
    isBlank c = false ∧ isWordStart c.toUpper = true ∧ c.toUpper.toUpper = c.toUpper := by
  have all : ∀ code < 128, isWordStart (Char.ofNat code) = true → isBlank (Char.ofNat code) = false ∧
      isWordStart (Char.ofNat code).toUpper = true ∧ (Char.ofNat code).toUpper.toUpper = (Char.ofNat code).toUpper := by
    decide +kernel
  have known := all c.toNat (ascii_of_isWordStart starts)
  rw [Char.ofNat_toNat] at known
  exact known starts

theorem solid_of_isWordStart {c : Char} (starts : isWordStart c = true) : isBlank c = false :=
  (toUpper_of_isWordStart starts).1

theorem not_isWordStart_of_isBlank {c : Char} (blank : isBlank c = true) : isWordStart c = false := by
  refine Bool.eq_false_iff.mpr fun starts => ?_
  rw [solid_of_isWordStart starts] at blank
  cases blank

-- The upper case of the start of a word starts a word and is its own upper case.
theorem upperChar_of_isWordStart {c : Char} (starts : isWordStart c = true) :
    ∃ d, upperChar c = [d] ∧ isWordStart d = true ∧ upperChar d = [d] := by
  obtain ⟨_, starts', settled⟩ := toUpper_of_isWordStart starts
  refine ⟨c.toUpper, upperChar_of_ascii (ascii_of_isWordStart starts), starts', ?_⟩
  rw [upperChar_of_ascii (ascii_of_isWordStart starts'), settled]

theorem solid_flatMap_lowerChar {text : List Char} (solid : ∀ c ∈ text, isBlank c = false) :
    ∀ c ∈ text.flatMap lowerChar, isBlank c = false := by
  intro d within
  obtain ⟨c, here, image⟩ := List.mem_flatMap.mp within
  exact (lowerChar_settled image).2 (solid c here)

theorem flatMap_lowerChar_settled (text : List Char) :
    (text.flatMap lowerChar).flatMap lowerChar = text.flatMap lowerChar := by
  have settled : ∀ c ∈ text.flatMap lowerChar, lowerChar c = [c] := by
    intro d within
    obtain ⟨c, _, image⟩ := List.mem_flatMap.mp within
    exact (lowerChar_settled image).1
  rw [List.flatMap_congr settled, List.flatMap_singleton']

theorem exists_word (text : List Char) : (∀ c ∈ text, isWordStart c = false) ∨
    ∃ before first after, text = before ++ first :: after ∧ (∀ c ∈ before, isWordStart c = false) ∧
      isWordStart first = true := by
  cases found : text.find? isWordStart with
  | none => exact .inl fun c within => Bool.eq_false_iff.mpr (List.find?_eq_none.mp found c within)
  | some first =>
      obtain ⟨starts, before, after, whole, plain⟩ := List.find?_eq_some_iff_append.mp found
      exact .inr ⟨before, first, after, whole, fun c within => by simpa using plain c within, starts⟩

section Stretch
variable {kind : Bool} {stretch changed : List Char}

theorem exists_titled (uniform : ∀ c ∈ stretch, isBlank c = kind) : ∃ changed, Titled stretch changed := by
  cases kind with
  | true => exact ⟨stretch, .blank uniform⟩
  | false =>
      rcases exists_word stretch with none | ⟨before, first, after, rfl, plain, starts⟩
      · exact ⟨stretch, .plain fun c within => ⟨uniform c within, none c within⟩⟩
      · refine ⟨_, .word (fun c within => ⟨uniform c ?_, plain c within⟩) starts fun c within => uniform c ?_⟩
        · exact List.mem_append_left _ within
        · exact List.mem_append_right _ (List.mem_cons_of_mem first within)

theorem Titled.ne_nil (titled : Titled stretch changed) (some : stretch ≠ []) : changed ≠ [] := by
  cases titled with
  | blank => exact some
  | plain => exact some
  | word _ starts _ =>
      obtain ⟨d, upper, _⟩ := upperChar_of_isWordStart starts
      simp [upper]

theorem Titled.uniform (titled : Titled stretch changed) (uniform : ∀ c ∈ stretch, isBlank c = kind) :
    ∀ c ∈ changed, isBlank c = kind := by
  cases titled with
  | blank => exact uniform
  | plain => exact uniform
  | @word before after first plain starts solid =>
      have same : isBlank first = kind := uniform first (List.mem_append_right _ (List.mem_cons_self ..))
      obtain ⟨d, upper, starts', _⟩ := upperChar_of_isWordStart starts
      rw [solid_of_isWordStart starts] at same
      subst same
      simp only [upper, List.forall_mem_append, List.forall_mem_singleton]
      exact ⟨fun c within => (plain c within).1, solid_of_isWordStart starts', solid_flatMap_lowerChar solid⟩

theorem Titled.again (titled : Titled stretch changed) : Titled changed changed := by
  cases titled with
  | blank blank => exact .blank blank
  | plain plain => exact .plain plain
  | @word before after first plain starts solid =>
      obtain ⟨d, upper, starts', settled⟩ := upperChar_of_isWordStart starts
      have titled := Titled.word plain starts' (solid_flatMap_lowerChar solid)
      rw [flatMap_lowerChar_settled, settled] at titled
      rw [upper]
      exact titled

end Stretch

end Words

section Scan

theorem title_plain {before : List Char} (plain : ∀ c ∈ before, isWordStart c = false) (rest : List Char) :
    title (before ++ rest) = before ++ title rest := by
  unfold title
  induction before with
  | nil => rfl
  | cons c before ih =>
      rw [List.forall_mem_cons] at plain
      rw [List.cons_append, titleFrom, if_neg (by decide), if_neg (by simp [plain.1]), ih plain.2, List.cons_append]

theorem titleFrom_solid {inner : List Char} (solid : ∀ c ∈ inner, isBlank c = false) (rest : List Char) :
    titleFrom true (inner ++ rest) = inner.flatMap lowerChar ++ titleFrom true rest := by
  induction inner with
  | nil => rfl
  | cons c inner ih =>
      rw [List.forall_mem_cons] at solid
      rw [List.cons_append, titleFrom, if_pos rfl, if_neg (by simp [solid.1]), ih solid.2, List.flatMap_cons,
        List.append_assoc]

-- At a blank it makes no difference whether a word was before it.
theorem titleFrom_turn {rest : List Char} (turn : ∀ c ∈ rest.head?, isBlank c = true) :
    titleFrom true rest = title rest := by
  cases rest with
  | nil => rfl
  | cons c rest =>
      have blank := turn c rfl
      rw [title, titleFrom, titleFrom, if_pos rfl, if_pos blank, if_neg (by decide),
        if_neg (by simp [not_isWordStart_of_isBlank blank])]

theorem title_word {before after rest : List Char} {first : Char} (plain : ∀ c ∈ before, isWordStart c = false)
    (starts : isWordStart first = true) (solid : ∀ c ∈ after, isBlank c = false)
    (turn : ∀ c ∈ rest.head?, isBlank c = true) :
    title (before ++ first :: (after ++ rest)) =
      before ++ (upperChar first ++ after.flatMap lowerChar) ++ title rest := by
  have word : title (first :: (after ++ rest)) = upperChar first ++ after.flatMap lowerChar ++ title rest := by
    rw [title, titleFrom, if_neg (by decide), if_pos starts, titleFrom_solid solid, titleFrom_turn turn,
      List.append_assoc]
  rw [title_plain plain, word, ← List.append_assoc]

theorem head_title {kind : Bool} {text : List Char} (head : ∀ c ∈ text.head?, isBlank c = kind) :
    ∀ c ∈ (title text).head?, isBlank c = kind := by
  cases text with
  | nil => exact head
  | cons c rest =>
      have same := head c rfl
      rw [title, titleFrom, if_neg (by decide)]
      split
      · rename_i starts
        obtain ⟨d, upper, starts', _⟩ := upperChar_of_isWordStart starts
        rw [solid_of_isWordStart starts] at same
        simp [upper, solid_of_isWordStart starts', same]
      · simp [same]

-- The scan changes a stretch by itself, and goes on after it as at the start of a text.
theorem Titled.title_append {kind : Bool} {stretch changed rest : List Char} (titled : Titled stretch changed)
    (uniform : ∀ c ∈ stretch, isBlank c = kind) (turn : ∀ c ∈ rest.head?, isBlank c = !kind) :
    title (stretch ++ rest) = changed ++ title rest := by
  cases titled with
  | blank blank =>
      exact title_plain (fun c within => not_isWordStart_of_isBlank (blank c within)) rest
  | plain plain => exact title_plain (fun c within => (plain c within).2) rest
  | @word before after first plain starts solid =>
      have same := uniform first (List.mem_append_right _ (List.mem_cons_self ..))
      rw [solid_of_isWordStart starts] at same
      subst same
      rw [List.append_assoc, List.cons_append]
      exact title_word (fun c within => (plain c within).2) starts solid turn

theorem title_by_stretches (text : List Char) : List.Forall₂ Titled (stretches text) (stretches (title text)) := by
  induction text using stretchInduction with
  | nil => exact .nil
  | append kind stretch rest some uniform turn ih =>
      obtain ⟨changed, titled⟩ := exists_titled uniform
      rw [titled.title_append uniform turn, stretches_append some uniform turn,
        stretches_append (titled.ne_nil some) (titled.uniform uniform) (head_title turn)]
      exact .cons titled ih

theorem title_title (text : List Char) : title (title text) = title text := by
  induction text using stretchInduction with
  | nil => rfl
  | append kind stretch rest some uniform turn ih =>
      obtain ⟨changed, titled⟩ := exists_titled uniform
      rw [titled.title_append uniform turn, titled.again.title_append (titled.uniform uniform) (head_title turn), ih]

-- The dotted capital I gets longer, and the Kelvin sign becomes a plain letter where a word was before it.
example : title "a\u0130-\u212A  é\u212A foo-BAR".toList = "Ai\u0307-k  é\u212A Foo-bar".toList := by decide +kernel

end Scan

section Replacement

-- An ASCII letter, digit or underscore with what follows it up to the next blank.
def words : Language Char := single isWordStart * atLeast 0 (single (!isBlank ·))

def titleWord : List Char → List Char
  | [] => []
  | first :: rest => upperChar first ++ rest.flatMap lowerChar

theorem mem_words {text : List Char} : text ∈ words ↔
    ∃ first after, text = first :: after ∧ isWordStart first = true ∧ ∀ c ∈ after, isBlank c = false := by
  simp only [words, Language.mem_mul, mem_single, mem_atLeast_single, Nat.zero_le, true_and, Bool.not_eq_true']
  constructor
  · rintro ⟨_, ⟨first, starts, rfl⟩, after, solid, rfl⟩
    exact ⟨first, after, rfl, starts, solid⟩
  · rintro ⟨first, after, rfl, starts, solid⟩
    exact ⟨[first], ⟨first, starts, rfl⟩, after, solid, rfl⟩

theorem not_mem_words {before found after : List Char}
    (plain : ∀ c ∈ before ++ (found ++ after), isWordStart c = false) : found ∉ words := by
  rw [mem_words]
  rintro ⟨first, inner, rfl, starts, _⟩
  rw [plain first (by simp)] at starts
  cases starts

-- The first word of a text starts at the first character that can start one, and ends before the next blank.
theorem firstMatch_words {before inner after : List Char} {first : Char} (plain : ∀ c ∈ before, isWordStart c = false)
    (starts : isWordStart first = true) (solid : ∀ c ∈ inner, isBlank c = false)
    (turn : ∀ c ∈ after.head?, isBlank c = true) : FirstMatch words before (first :: inner) after where
  matched := mem_words.mpr ⟨first, inner, rfl, starts, solid⟩
  leftmost := by
    intro earlier other later same found
    obtain ⟨second, more, rfl, starts', _⟩ := mem_words.mp found
    rcases List.append_eq_append_iff.mp same with ⟨between, rfl, _⟩ | ⟨between, rfl, whole⟩
    · simp
    · cases between with
      | nil => simp
      | cons d between =>
          obtain ⟨rfl, _⟩ := List.cons.inj whole
          rw [plain second (by simp)] at starts'
          cases starts'
  longest := by
    intro other later same found
    obtain ⟨second, more, rfl, _, solid'⟩ := mem_words.mp found
    rcases List.append_eq_append_iff.mp same with ⟨beyond, whole, rfl⟩ | ⟨beyond, whole, _⟩
    · cases beyond with
      | nil => simp [whole]
      | cons d beyond =>
          cases whole
          have blank := turn d rfl
          rw [solid' d (by simp)] at blank
          cases blank
    · simp [whole]

theorem replaced_title (text : List Char) : Replaced words titleWord text (title text) := by
  rcases exists_word text with none | ⟨before, first, tail, whole, plain, starts⟩
  · have same : title text = text := by simpa [title, titleFrom] using title_plain none []
    rw [same]
    exact .done fun before found after whole => not_mem_words (whole ▸ none)
  · obtain ⟨inner, after, parts, uniform, turn⟩ := @exists_first_stretch first tail
    rw [solid_of_isWordStart starts] at uniform turn
    have solid : ∀ c ∈ inner, isBlank c = false := (List.forall_mem_cons.mp uniform).2
    have shorter : after.length < text.length := by
      rw [whole, parts, List.length_append, List.length_cons, List.length_append]
      omega
    rw [whole, parts, title_word plain starts solid turn, List.append_assoc]
    exact .next (firstMatch_words plain starts solid turn) (replaced_title after)
termination_by text.length

end Replacement

end Conform.Text

namespace Conform.Registry
open Text

-- A call of it changes each stretch by itself, has changed all words in one pass from the left, and is done after that.
theorem str_title_by_stretches : ∃ titling : Transform,
    (∀ arguments raw, instantiate builtin.transforms ⟨"str_title", arguments, raw⟩ = .ok titling) ∧
    ∀ text : String, ∃ result : String,
      titling (.string text) = .ok (.string result) ∧
      List.Forall₂ Titled (stretches text.toList) (stretches result.toList) ∧
      (∀ other, Replaced words titleWord text.toList other ↔ other = result.toList) ∧
      titling (.string result) = .ok (.string result) := by
  refine ⟨onText "StrTitle" titled, fun arguments raw => rfl, fun text => ⟨titled text, rfl, ?_, fun other => ?_, ?_⟩⟩
  · rw [titled, String.toList_ofList]
    exact title_by_stretches text.toList
  · rw [titled, String.toList_ofList]
    constructor
    · exact fun replaced => replaced.unique (replaced_title text.toList)
    · rintro rfl
      exact replaced_title text.toList
  · rw [onText, titled, titled, String.toList_ofList, title_title]

end Conform.Registry
