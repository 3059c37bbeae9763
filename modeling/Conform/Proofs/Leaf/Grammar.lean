import Conform.Leaf.Reader

namespace Conform.Leaf
open Conform.Text

-- A call as it is written: a name, and arguments in parentheses, if there are any. At signs are text in an argument.
structure Phrase where
  name : List Char
  arguments : List (List Char)
  plain : ∀ c ∈ name, c ≠ '(' ∧ c ≠ ')' ∧ c ≠ '@'
  named : ∃ c ∈ name, isBlank c = false
  inside : ∀ argument ∈ arguments, ∀ c ∈ argument, c ≠ ',' ∧ c ≠ '(' ∧ c ≠ ')'

-- Without parentheses there are no arguments, and between empty ones there is one.
def Phrase.list : List (List Char) → List Char
  | [] => []
  | first :: more => '(' :: (join [','] (first :: more) ++ [')'])

def Phrase.text (phrase : Phrase) : List Char := phrase.name ++ list phrase.arguments

def Phrase.call (phrase : Phrase) : Call :=
  ⟨.ofList (trim phrase.name), phrase.arguments.map .ofList, .ofList phrase.text⟩

-- Names between bars, and then the calls.
structure Derivation where
  pieces : List (List Char)
  phrases : List Phrase
  some : pieces ≠ []
  plain : ∀ piece ∈ pieces, '|' ∉ piece ∧ '@' ∉ piece

namespace Derivation

def types (derivation : Derivation) : List Char := join ['|'] derivation.pieces

def calls (phrases : List Phrase) : List Char := phrases.flatMap fun phrase => '@' :: phrase.text

@[simp] theorem calls_nil : calls [] = [] := rfl

@[simp] theorem calls_cons (phrase : Phrase) (rest : List Phrase) :
    calls (phrase :: rest) = '@' :: (phrase.text ++ calls rest) := rfl

def text (derivation : Derivation) : List Char := derivation.types ++ calls derivation.phrases

def names (derivation : Derivation) : List String := derivation.pieces.map fun piece => .ofList (trim piece)

-- What a leaf holds whose text has the derivation; names stand in the order in which they come up first.
structure Denotes (derivation : Derivation) (leaf : Leaf) : Prop where
  nullable : leaf.nullable = true ↔ nullName ∈ derivation.names
  listed : ∀ name, name ∈ leaf.alternatives ↔ name ∈ derivation.names ∧ name ≠ "" ∧ name ≠ nullName
  ordered : leaf.alternatives.Pairwise fun first second =>
    derivation.names.idxOf first < derivation.names.idxOf second
  calls : leaf.calls = derivation.phrases.map Phrase.call

end Derivation

-- After a call the text ends or the next call begins.
def Ends (rest : List Char) : Prop := ∀ c, rest.head? = some c → c = '@'

theorem ends_nil : Ends [] := fun c first => by cases first

theorem endsName_eq_false {c : Char} : endsName c = false ↔ c ≠ '(' ∧ c ≠ ')' ∧ c ≠ '@' := by
  simp [endsName, and_assoc]

-- A name ends at a parenthesis or an at sign.
def NamePart (text : List Char) : Prop := ∀ c ∈ text, c ≠ '(' ∧ c ≠ ')' ∧ c ≠ '@'

namespace NamePart

theorem takeWhile (input : List Char) : NamePart (input.takeWhile (!endsName ·)) := by
  intro c within
  have kept := List.all_eq_true.mp (List.all_takeWhile (p := (!endsName ·)) (l := input)) c within
  exact endsName_eq_false.mp (by simpa using kept)

theorem continues {name : List Char} (front : NamePart name) : ∀ c ∈ name, (!endsName c) = true := by
  intro c within
  rw [endsName_eq_false.mpr (front c within)]
  rfl

end NamePart

namespace Phrase

theorem name_stops (phrase : Phrase) : ∀ c ∈ phrase.name, (!endsName c) = true := NamePart.continues phrase.plain

theorem list_stops (arguments : List (List Char)) {after : List Char} (ends : Ends after) :
    ∀ c, (list arguments ++ after).head? = some c → (!endsName c) = false := by
  intro c first
  cases arguments with
  | nil =>
      rw [ends c first]
      rfl
  | cons =>
      cases first
      rfl

theorem takeWhile_text (phrase : Phrase) {after : List Char} (ends : Ends after) :
    (phrase.text ++ after).takeWhile (!endsName ·) = phrase.name := by
  rw [text, List.append_assoc, takeWhile_stop phrase.name_stops (list_stops _ ends)]

theorem dropWhile_text (phrase : Phrase) {after : List Char} (ends : Ends after) :
    (phrase.text ++ after).dropWhile (!endsName ·) = list phrase.arguments ++ after := by
  rw [text, List.append_assoc, dropWhile_stop phrase.name_stops (list_stops _ ends)]

theorem list_injective {first second : List (List Char)} (firstInside : ∀ argument ∈ first, ',' ∉ argument)
    (secondInside : ∀ argument ∈ second, ',' ∉ argument) (same : list first = list second) : first = second := by
  cases first with
  | nil => cases second with
      | nil => rfl
      | cons => cases same
  | cons argument more =>
      cases second with
      | nil => cases same
      | cons other others =>
          have joined := List.append_cancel_right (List.cons.inj same).2
          rw [← split_join (List.cons_ne_nil argument more) firstInside, joined,
            split_join (List.cons_ne_nil other others) secondInside]

theorem comma_free (phrase : Phrase) : ∀ argument ∈ phrase.arguments, ',' ∉ argument :=
  fun argument within comma => (phrase.inside argument within _ comma).1 rfl

theorem text_injective {first second : Phrase} (same : first.text = second.text) : first = second := by
  have names : first.name = second.name := by
    rw [← first.takeWhile_text ends_nil, same, second.takeWhile_text ends_nil]
  have lists : list first.arguments = list second.arguments := by
    have dropped := first.dropWhile_text ends_nil
    rw [same, second.dropWhile_text ends_nil] at dropped
    exact (List.append_cancel_right dropped).symm
  have arguments := list_injective first.comma_free second.comma_free lists
  cases first
  cases second
  cases names
  cases arguments
  rfl

end Phrase

theorem ends_calls (phrases : List Phrase) : Ends (Derivation.calls phrases) := by
  intro c first
  cases phrases with
  | nil => cases first
  | cons =>
      cases first
      rfl

namespace Derivation

-- Phrases that are found one by one, by their texts, are found together.
theorem exists_calls {items : List α} {text : α → List Char} (denote : Call → β) {given : α → β}
    (each : ∀ item ∈ items, ∃ phrase : Phrase, phrase.text = text item ∧ denote phrase.call = given item) :
    ∃ phrases, calls phrases = items.flatMap (fun item => '@' :: text item) ∧
      phrases.map (fun phrase => denote phrase.call) = items.map given := by
  induction items with
  | nil => exact ⟨[], rfl, rfl⟩
  | cons item rest ih =>
      rw [List.forall_mem_cons] at each
      obtain ⟨⟨phrase, spelled, denoted⟩, later⟩ := each
      obtain ⟨phrases, texts, values⟩ := ih later
      refine ⟨phrase :: phrases, ?_, ?_⟩
      · rw [calls_cons, spelled, texts, List.flatMap_cons, List.cons_append]
      · rw [List.map_cons, List.map_cons, denoted, values]

theorem types_plain (derivation : Derivation) : ∀ c ∈ derivation.types, (c != '@') = true := by
  intro c within
  rw [bne_iff_ne]
  rintro rfl
  rcases mem_join within with same | ⟨piece, listed, there⟩
  · cases same
  · exact (derivation.plain piece listed).2 there

theorem calls_stop (phrases : List Phrase) : ∀ c, (calls phrases).head? = .some c → (c != '@') = false := by
  intro c first
  rw [ends_calls phrases c first]
  rfl

theorem takeWhile_text (derivation : Derivation) : derivation.text.takeWhile (· != '@') = derivation.types :=
  takeWhile_stop derivation.types_plain (calls_stop _)

theorem dropWhile_text (derivation : Derivation) : derivation.text.dropWhile (· != '@') = calls derivation.phrases :=
  dropWhile_stop derivation.types_plain (calls_stop _)

theorem split_types (derivation : Derivation) : split '|' derivation.types = derivation.pieces :=
  split_join derivation.some fun piece listed => (derivation.plain piece listed).1

def ofTypes (types : List Char) (free : '@' ∉ types) (phrases : List Phrase) : Derivation where
  pieces := split '|' types
  phrases := phrases
  some := split_ne_nil '|' types
  plain := fun _ listed => ⟨not_mem_of_mem_split listed, fun there => free (mem_of_mem_split listed there)⟩

theorem types_ofTypes {types : List Char} (free : '@' ∉ types) (phrases : List Phrase) :
    (ofTypes types free phrases).types = types := join_split '|' types

def leaf (derivation : Derivation) : Leaf :=
  ⟨(derivation.names.filter fun name => name != "" && name != nullName).eraseDups, derivation.names.contains nullName,
    derivation.phrases.map Phrase.call⟩

end Derivation

section FirstPlaces
variable {α : Type} [BEq α] [LawfulBEq α]

theorem idxOf_filter_lt (keep : α → Bool) {items : List α} {first second : α} (firstKept : keep first = true)
    (secondKept : keep second = true) (before : (items.filter keep).idxOf first < (items.filter keep).idxOf second) :
    items.idxOf first < items.idxOf second := by
  induction items with
  | nil => exact before
  | cons item rest ih =>
      cases kept : keep item with
      | true =>
          rw [List.filter_cons_of_pos kept] at before
          simp only [List.idxOf_cons] at before ⊢
          cases second : item == second with
          | true => simp [second] at before
          | false => cases first : item == first <;> simp_all
      | false =>
          have notFirst : (item == first) = false :=
            beq_eq_false_iff_ne.mpr fun same => Bool.noConfusion (kept.symm.trans (same ▸ firstKept))
          have notSecond : (item == second) = false :=
            beq_eq_false_iff_ne.mpr fun same => Bool.noConfusion (kept.symm.trans (same ▸ secondKept))
          rw [List.filter_cons_of_neg (by simp [kept])] at before
          simpa [List.idxOf_cons, notFirst, notSecond] using ih before

theorem eraseDups_of_nodup {items : List α} (distinct : items.Nodup) :
    items.eraseDups = items := by
  induction items with
  | nil => rfl
  | cons item rest ih =>
      rw [List.nodup_cons] at distinct
      have others : rest.filter (!· == item) = rest := by
        refine List.filter_eq_self.mpr fun other within => ?_
        rw [Bool.not_eq_true', beq_eq_false_iff_ne]
        rintro rfl
        exact distinct.1 within
      rw [List.eraseDups_cons, others, ih distinct.2]

theorem pairwise_idxOf_eraseDups (items : List α) :
    items.eraseDups.Pairwise fun first second => items.idxOf first < items.idxOf second := by
  match items with
  | [] => exact .nil
  | item :: rest =>
      have kept : ∀ other ∈ (rest.filter (!· == item)).eraseDups, (!other == item) = true := fun other within =>
        (List.mem_filter.mp (List.mem_eraseDups.mp within)).2
      have apart : ∀ other ∈ (rest.filter (!· == item)).eraseDups, (item == other) = false := by
        intro other within
        have different := kept other within
        rwa [Bool.not_eq_true', BEq.comm] at different
      rw [List.eraseDups_cons]
      refine .cons ?_ ((pairwise_idxOf_eraseDups (rest.filter (!· == item))).imp_of_mem ?_)
      · intro other within
        simp [List.idxOf_cons, apart other within]
      · intro first second firstIn secondIn before
        have lifted := idxOf_filter_lt (!· == item) (kept first firstIn) (kept second secondIn) before
        simpa [List.idxOf_cons, apart first firstIn, apart second secondIn] using lifted
termination_by items.length
decreasing_by exact Nat.lt_succ_of_le (List.length_filter_le _ _)

end FirstPlaces

namespace Derivation

theorem denotes_leaf (derivation : Derivation) : derivation.Denotes derivation.leaf where
  nullable := List.contains_iff_mem
  listed := by
    intro name
    rw [leaf, List.mem_eraseDups, List.mem_filter, Bool.and_eq_true, bne_iff_ne, bne_iff_ne]
  ordered := by
    refine (pairwise_idxOf_eraseDups _).imp_of_mem fun firstIn secondIn before => ?_
    have firstKept := (List.mem_filter.mp (List.mem_eraseDups.mp firstIn)).2
    have secondKept := (List.mem_filter.mp (List.mem_eraseDups.mp secondIn)).2
    exact idxOf_filter_lt _ firstKept secondKept before
  calls := rfl

theorem Denotes.nodup {derivation : Derivation} {leaf : Leaf} (denotes : derivation.Denotes leaf) :
    leaf.alternatives.Nodup := by
  refine denotes.ordered.imp fun before => ?_
  rintro rfl
  exact Nat.lt_irrefl _ before

theorem Denotes.rebuilds {derivation : Derivation} {leaf : Leaf} (denotes : derivation.Denotes leaf) :
    derivation.types ++ leaf.calls.flatMap (fun call => '@' :: call.raw.toList) = derivation.text := by
  rw [denotes.calls, List.flatMap_map, text, Derivation.calls]
  simp only [Phrase.call, String.toList_ofList]

theorem Denotes.unique {derivation : Derivation} {first second : Leaf} (one : derivation.Denotes first)
    (other : derivation.Denotes second) : first = second := by
  have nullable : first.nullable = second.nullable := by
    rw [Bool.eq_iff_iff, one.nullable, other.nullable]
  have alternatives : first.alternatives = second.alternatives := by
    have members := (List.perm_ext_iff_of_nodup one.nodup other.nodup).mpr fun name => by
      rw [one.listed, other.listed]
    exact members.eq_of_pairwise (fun _ _ _ _ before after => absurd after (Nat.lt_asymm before)) one.ordered
      other.ordered
  have calls := one.calls.trans other.calls.symm
  cases first
  cases second
  cases nullable
  cases alternatives
  cases calls
  rfl

end Derivation

end Conform.Leaf
