import Conform.Text.Split
import Mathlib.Computability.Language

namespace Conform.Text
open scoped Computability

-- A single character of a kind.
def single (kind : Char → Bool) : Language Char := {text | ∃ c, kind c = true ∧ text = [c]}

theorem mem_single {kind : Char → Bool} {text : List Char} :
    text ∈ single kind ↔ ∃ c, kind c = true ∧ text = [c] := Iff.rfl

def atLeast (count : Nat) (pattern : Language Char) : Language Char := pattern ^ count * pattern∗

section Repetition
variable {α : Type} {pattern : Language Char} {good : α → Prop} {write : α → List Char}
  (each : ∀ text, text ∈ pattern ↔ ∃ entry, good entry ∧ text = write entry) {text : List Char}
include each

theorem mem_kstar_iff :
    text ∈ pattern∗ ↔ ∃ entries : List α, (∀ entry ∈ entries, good entry) ∧ text = entries.flatMap write := by
  rw [Language.mem_kstar]
  constructor
  · rintro ⟨pieces, rfl, within⟩
    induction pieces with
    | nil => exact ⟨[], by simp, rfl⟩
    | cons piece more ih =>
        rw [List.forall_mem_cons] at within
        obtain ⟨entry, fine, rfl⟩ := (each piece).mp within.1
        obtain ⟨entries, all, same⟩ := ih within.2
        exact ⟨entry :: entries, List.forall_mem_cons.mpr ⟨fine, all⟩, by simp [same]⟩
  · rintro ⟨entries, all, rfl⟩
    refine ⟨entries.map write, List.flatMap_def .., fun piece within => ?_⟩
    obtain ⟨entry, listed, rfl⟩ := List.mem_map.mp within
    exact (each _).mpr ⟨entry, all entry listed, rfl⟩

theorem mem_atLeast_iff {count : Nat} :
    text ∈ atLeast count pattern ↔
      ∃ entries : List α, count ≤ entries.length ∧ (∀ entry ∈ entries, good entry) ∧ text = entries.flatMap write := by
  induction count generalizing text with
  | zero => simp only [atLeast, pow_zero, one_mul, mem_kstar_iff each, Nat.zero_le, true_and]
  | succ count ih =>
      have step : atLeast (count + 1) pattern = pattern * atLeast count pattern := by
        rw [atLeast, atLeast, pow_succ', mul_assoc]
      rw [step, Language.mem_mul]
      constructor
      · rintro ⟨first, here, rest, later, rfl⟩
        obtain ⟨entry, fine, rfl⟩ := (each first).mp here
        obtain ⟨entries, many, all, rfl⟩ := ih.mp later
        exact ⟨entry :: entries, Nat.succ_le_succ many, List.forall_mem_cons.mpr ⟨fine, all⟩, rfl⟩
      · rintro ⟨entries, many, all, rfl⟩
        cases entries with
        | nil => cases many
        | cons entry entries =>
            rw [List.forall_mem_cons] at all
            exact ⟨write entry, (each _).mpr ⟨entry, all.1, rfl⟩, entries.flatMap write,
              ih.mpr ⟨entries, Nat.le_of_succ_le_succ many, all.2, rfl⟩, rfl⟩

end Repetition

theorem mem_atLeast_single {kind : Char → Bool} {count : Nat} {text : List Char} :
    text ∈ atLeast count (single kind) ↔ count ≤ text.length ∧ ∀ c ∈ text, kind c = true := by
  rw [mem_atLeast_iff fun _ => mem_single]
  constructor
  · rintro ⟨letters, many, all, rfl⟩
    rw [List.flatMap_singleton']
    exact ⟨many, all⟩
  · rintro ⟨many, all⟩
    exact ⟨text, many, all, (List.flatMap_singleton' text).symm⟩

section Replacement
variable {pattern : Language Char} {change : List Char → List Char}

-- A match in a text that no match begins before and of which no longer match goes on.
structure FirstMatch (pattern : Language Char) (before found after : List Char) : Prop where
  matched : found ∈ pattern
  leftmost : ∀ earlier other later, before ++ (found ++ after) = earlier ++ (other ++ later) → other ∈ pattern →
    before.length ≤ earlier.length
  longest : ∀ other later, found ++ after = other ++ later → other ∈ pattern → other.length ≤ found.length

-- What becomes of a text when every first match is changed, and then the text after it is gone on with.
inductive Replaced (pattern : Language Char) (change : List Char → List Char) : List Char → List Char → Prop
  | done {text : List Char} (clear : ∀ before found after, text = before ++ (found ++ after) → found ∉ pattern) :
      Replaced pattern change text text
  | next {before found after result : List Char} (first : FirstMatch pattern before found after)
      (rest : Replaced pattern change after result) :
      Replaced pattern change (before ++ (found ++ after)) (before ++ (change found ++ result))

theorem FirstMatch.unique {before found after before' found' after' : List Char}
    (first : FirstMatch pattern before found after) (other : FirstMatch pattern before' found' after')
    (same : before ++ (found ++ after) = before' ++ (found' ++ after')) :
    before = before' ∧ found = found' ∧ after = after' := by
  have start : before.length = before'.length :=
    Nat.le_antisymm (first.leftmost _ _ _ same other.matched) (other.leftmost _ _ _ same.symm first.matched)
  obtain ⟨front, tail⟩ := List.append_inj same start
  have stop : found.length = found'.length :=
    Nat.le_antisymm (other.longest _ _ tail.symm first.matched) (first.longest _ _ tail other.matched)
  exact ⟨front, List.append_inj tail stop⟩

theorem Replaced.unique {text result other : List Char} (replaced : Replaced pattern change text result)
    (again : Replaced pattern change text other) : result = other := by
  induction replaced generalizing other with
  | done clear =>
      cases again with
      | done => rfl
      | next first rest => exact absurd first.matched (clear _ _ _ rfl)
  | @next before found after result first rest ih =>
      generalize whole : before ++ (found ++ after) = text at again
      cases again with
      | done clear => exact absurd first.matched (clear _ _ _ whole.symm)
      | next first' rest' =>
          obtain ⟨rfl, rfl, rfl⟩ := first.unique first' whole
          rw [ih rest']

end Replacement

end Conform.Text
