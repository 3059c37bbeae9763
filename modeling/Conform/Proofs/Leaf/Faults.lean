import Conform.Proofs.Leaf.Reading
import Mathlib.Data.List.TakeWhile

namespace Conform.Leaf
open Conform.Text

-- Arguments end at a parenthesis.
def ArgumentPart (text : List Char) : Prop := ∀ c ∈ text, c ≠ '(' ∧ c ≠ ')'

-- How a call goes wrong: its text before the place of the fault, and its text from there on.
inductive Malformed : Fault.Kind → List Char → List Char → Prop
  | missingName {call : List Char} (blank : ∀ c ∈ call.takeWhile (!endsName ·), isBlank c = true) :
      Malformed .missingName [] call
  | unterminated {name inside : List Char} (front : NamePart name) (opened : ArgumentPart inside) :
      Malformed .unterminated name ('(' :: inside)
  | nested {name inside rest : List Char} (front : NamePart name) (opened : ArgumentPart inside) :
      Malformed .nested (name ++ '(' :: inside) ('(' :: rest)
  | unopened {name rest : List Char} (front : NamePart name) : Malformed .unopened name (')' :: rest)
  | trailing {name inside rest : List Char} {found : Char} (front : NamePart name) (opened : ArgumentPart inside)
      (other : found ≠ '@') : Malformed (.trailing found) (name ++ '(' :: (inside ++ [')'])) (found :: rest)

namespace NamePart

theorem dropWhile_append {name rest : List Char} {c : Char} (front : NamePart name) (stop : endsName c = true) :
    (name ++ c :: rest).dropWhile (!endsName ·) = c :: rest := by
  refine dropWhile_stop front.continues fun d first => ?_
  cases first
  rw [stop]
  rfl

theorem takeWhile_append {name rest : List Char} {c : Char} (front : NamePart name) (stop : endsName c = true) :
    (name ++ c :: rest).takeWhile (!endsName ·) = name := by
  refine takeWhile_stop front.continues fun d first => ?_
  cases first
  rw [stop]
  rfl

end NamePart

section Arguments

-- Arguments that nothing closes: the text ends in them, or others begin.
def Unclosed (input stopped : List Char) : Prop :=
  ∃ inside, ArgumentPart inside ∧ input = inside ++ stopped ∧ ∀ c, stopped.head? = some c → c = '('

theorem Unclosed.cons {c : Char} {rest stopped : List Char} (here : c ≠ '(' ∧ c ≠ ')')
    (later : Unclosed rest stopped) : Unclosed (c :: rest) stopped := by
  obtain ⟨inside, opened, rfl, first⟩ := later
  exact ⟨c :: inside, List.forall_mem_cons.mpr ⟨here, opened⟩, rfl, first⟩

theorem readArguments_of_unclosed {current input stopped : List Char} (unclosed : Unclosed input stopped) :
    readArguments current input = .error stopped := by
  obtain ⟨inside, opened, rfl, first⟩ := unclosed
  induction inside generalizing current with
  | nil =>
      cases stopped with
      | nil => rfl
      | cons c rest =>
          cases first c rfl
          rfl
  | cons c inside ih =>
      obtain ⟨here, later⟩ := List.forall_mem_cons.mp opened
      rw [List.cons_append, readArguments, if_neg here.2]
      split
      · rw [ih later]
        rfl
      · rw [if_neg here.1, ih later]

theorem unclosed_of_readArguments {current input stopped : List Char}
    (read : readArguments current input = .error stopped) : Unclosed input stopped := by
  induction input generalizing current with
  | nil =>
      cases read
      exact ⟨[], nofun, rfl, nofun⟩
  | cons c rest ih =>
      unfold readArguments at read
      split at read
      · cases read
      · rename_i notClosed
        split at read
        · rename_i comma
          cases later : readArguments [] rest with
          | ok result => rw [later] at read; cases read
          | error left =>
              rw [later] at read
              cases read
              exact .cons ⟨by rw [comma]; decide, notClosed⟩ (ih later)
        · split at read
          · rename_i opened
            cases read
            exact ⟨[], nofun, rfl, by simp [opened]⟩
          · rename_i notOpened
            exact .cons ⟨notOpened, notClosed⟩ (ih read)

theorem readArguments_closed {inside : List Char} (opened : ArgumentPart inside) (current after : List Char) :
    ∃ values, readArguments current (inside ++ ')' :: after) = .ok (values, after) := by
  obtain ⟨first, more, pieces⟩ := List.exists_cons_of_ne_nil (split_ne_nil ',' inside)
  have plain : ∀ piece ∈ first :: more, ∀ c ∈ piece, c ≠ ',' ∧ c ≠ '(' ∧ c ≠ ')' := by
    intro piece listed c within
    rw [← pieces] at listed
    refine ⟨?_, opened c (mem_of_mem_split listed within)⟩
    rintro rfl
    exact not_mem_of_mem_split listed within
  have read := readArguments_join plain current after
  rw [← pieces, join_split] at read
  exact ⟨_, read⟩

theorem closed_of_readArguments {current input after : List Char} {values : List String}
    (read : readArguments current input = .ok (values, after)) :
    ∃ inside, ArgumentPart inside ∧ input = inside ++ ')' :: after := by
  obtain ⟨first, more, plain, spelled, _⟩ := join_of_readArguments read
  refine ⟨_, fun c within => ?_, spelled⟩
  rcases mem_join within with rfl | ⟨piece, listed, there⟩
  · decide
  · exact (plain piece listed c there).2

end Arguments

section Calls

theorem blank_of_nameCall {whole input after : List Char} {arguments : List String} {fault : Fault}
    (wrong : nameCall whole input after arguments = .error fault) :
    (∀ c ∈ input.takeWhile (!endsName ·), isBlank c = true) ∧ fault = faultAt whole input input .missingName := by
  unfold nameCall at wrong
  dsimp only at wrong
  split at wrong
  · rename_i empty
    cases wrong
    exact ⟨trim_eq_nil.mp (List.isEmpty_iff.mp empty), rfl⟩
  · cases wrong

theorem malformed_of_readCall {whole input : List Char} {fault : Fault} (read : readCall whole input = .error fault) :
    ∃ before after, input = before ++ after ∧ Malformed fault.kind before after ∧
      fault = faultAt whole input after fault.kind := by
  have cut := (List.takeWhile_append_dropWhile (p := (!endsName ·)) (l := input)).symm
  have front := NamePart.takeWhile input
  have unnamed : ∀ {after arguments}, nameCall whole input after arguments = .error fault →
      ∃ before after, input = before ++ after ∧ Malformed fault.kind before after ∧
        fault = faultAt whole input after fault.kind := by
    intro after arguments wrong
    obtain ⟨blank, rfl⟩ := blank_of_nameCall wrong
    exact ⟨[], input, rfl, .missingName blank, rfl⟩
  unfold readCall at read
  split at read
  · rename_i rest left
    cases read
    rw [left] at cut
    exact ⟨_, _, cut, .unopened front, rfl⟩
  · rename_i inside left
    rw [left] at cut
    split at read
    · rename_i stuck
      obtain ⟨inside, opened, rfl, _⟩ := unclosed_of_readArguments stuck
      cases read
      exact ⟨_, _, cut, .unterminated front (by rwa [List.append_nil]), rfl⟩
    · rename_i stopped notEnd stuck
      obtain ⟨inside, opened, rfl, first⟩ := unclosed_of_readArguments stuck
      cases read
      obtain ⟨c, rest, rfl⟩ := List.exists_cons_of_ne_nil notEnd
      cases first c rfl
      exact ⟨_, _, by rw [List.append_assoc, List.cons_append]; exact cut, .nested front opened, rfl⟩
    · exact unnamed read
    · rename_i found after closed
      obtain ⟨inside, opened, rfl⟩ := closed_of_readArguments closed
      split at read
      · exact unnamed read
      · rename_i other
        cases read
        refine ⟨_, _, ?_, .trailing front opened other, rfl⟩
        rw [List.append_assoc, List.cons_append, List.append_assoc, List.singleton_append]
        exact cut
  · exact unnamed read

-- A name that is missing is told last, and then the rest of the call matters too.
theorem readCall_malformed {kind : Fault.Kind} {before after : List Char} (wrong : Malformed kind before after)
    (other : kind ≠ .missingName) (whole : List Char) :
    readCall whole (before ++ after) = .error (faultAt whole (before ++ after) after kind) := by
  have opening : endsName '(' = true := rfl
  cases wrong with
  | missingName blank => exact absurd rfl other
  | @unterminated name inside front opened =>
      have unclosed : Unclosed inside [] := ⟨inside, opened, (List.append_nil _).symm, nofun⟩
      rw [readCall, front.dropWhile_append opening]
      simp only [readArguments_of_unclosed unclosed]
  | @nested name inside rest front opened =>
      have unclosed : Unclosed (inside ++ '(' :: rest) ('(' :: rest) := ⟨inside, opened, rfl, by simp⟩
      rw [readCall, List.append_assoc, List.cons_append, front.dropWhile_append opening]
      simp only [readArguments_of_unclosed unclosed]
  | unopened front =>
      rw [readCall, front.dropWhile_append rfl]
      rfl
  | @trailing name inside rest found front opened apart =>
      obtain ⟨values, closed⟩ := readArguments_closed opened [] (found :: rest)
      rw [readCall, List.append_assoc, List.cons_append, List.append_assoc, List.singleton_append,
        front.dropWhile_append opening]
      simp only [closed, if_neg apart]

theorem readCalls_fault {whole call : List Char} {fault : Fault} (wrong : readCall whole call = .error fault)
    (phrases : List Phrase) :
    readCalls whole (Derivation.calls phrases ++ '@' :: call) = (phrases.map Phrase.call, some fault) := by
  induction phrases with
  | nil =>
      rw [Derivation.calls_nil, List.nil_append, readCalls]
      split
      · rename_i same
        cases wrong.symm.trans same
      · rename_i same
        cases wrong.symm.trans same
        rfl
  | cons phrase rest ih =>
      have ends : Ends (Derivation.calls rest ++ '@' :: call) := by
        intro c first
        cases rest <;> cases first <;> rfl
      rw [Derivation.calls_cons, List.cons_append, List.append_assoc, readCalls_of_ok (phrase.readCall_text ends whole),
        ih, List.map_cons]

theorem fault_of_readCalls {whole input : List Char} {fault : Fault} (ends : Ends input)
    (wrong : (readCalls whole input).2 = some fault) :
    ∃ phrases call, input = Derivation.calls phrases ++ '@' :: call ∧
      (readCalls whole input).1 = phrases.map Phrase.call ∧ readCall whole call = .error fault := by
  fun_induction readCalls whole input with
  | case1 rest call after read calls later rec ih =>
      obtain ⟨ends, phrase, spelled, named⟩ := phrase_of_readCall read
      rw [rec] at ih
      obtain ⟨phrases, malformed, left, calls, wrong⟩ := ih ends wrong
      refine ⟨phrase :: phrases, malformed, ?_, ?_, wrong⟩
      · rw [Derivation.calls_cons, List.cons_append, List.append_assoc, ← left, spelled]
      · rw [List.map_cons, named, ← calls]
  | case2 rest fault read =>
      cases wrong
      exact ⟨[], rest, rfl, rfl, read⟩
  | case3 input other => cases wrong

end Calls

section Leaves

theorem cut_at_call (derivation : Derivation) (call : List Char) :
    (derivation.text ++ '@' :: call).takeWhile (· != '@') = derivation.types ∧
    (derivation.text ++ '@' :: call).dropWhile (· != '@') = Derivation.calls derivation.phrases ++ '@' :: call := by
  have stop : ∀ c, (Derivation.calls derivation.phrases ++ '@' :: call).head? = some c → (c != '@') = false := by
    intro c first
    cases phrases : derivation.phrases <;> rw [phrases] at first <;> cases first <;> rfl
  rw [Derivation.text, List.append_assoc]
  exact ⟨takeWhile_stop derivation.types_plain stop, dropWhile_stop derivation.types_plain stop⟩

theorem readPartial_cut {text : String} {derivation : Derivation} {call : List Char} {fault : Fault}
    (cut : text.toList = derivation.text ++ '@' :: call) (wrong : readCall text.toList call = .error fault) :
    readPartial text = (derivation.leaf, some fault) := by
  obtain ⟨types, calls⟩ := cut_at_call derivation call
  rw [← cut] at types calls
  have names : readNames derivation.types = derivation.names := by
    rw [readNames, Derivation.split_types, Derivation.names]
  rw [readPartial, calls, readCalls_fault wrong, types, names]
  rfl

-- Everything before the first malformed call has a derivation.
theorem readPartial_eq_fault {text : String} {leaf : Leaf} {fault : Fault} :
    readPartial text = (leaf, some fault) ↔ ∃ (derivation : Derivation) (call : List Char),
      text.toList = derivation.text ++ '@' :: call ∧ derivation.leaf = leaf ∧
      readCall text.toList call = .error fault := by
  constructor
  · intro read
    have wrong : (readCalls text.toList (text.toList.dropWhile (· != '@'))).2 = some fault := congrArg Prod.snd read
    obtain ⟨phrases, call, left, _, wrong⟩ := fault_of_readCalls (ends_rest text.toList) wrong
    have cut : text.toList = (Derivation.ofTypes _ (not_mem_types text.toList) phrases).text ++ '@' :: call := by
      rw [Derivation.text, Derivation.types_ofTypes, List.append_assoc]
      show _ = _ ++ (Derivation.calls phrases ++ _)
      rw [← left, List.takeWhile_append_dropWhile]
    exact ⟨_, call, cut, congrArg Prod.fst ((readPartial_cut cut wrong).symm.trans read), wrong⟩
  · intro given
    obtain ⟨derivation, call, cut, rfl, wrong⟩ := given
    exact readPartial_cut cut wrong

end Leaves

section Positions

theorem byteLength_toList (text : String) : byteLength text.toList = text.utf8ByteSize := by
  have each : ∀ letters : List Char, byteLength letters = (String.ofList letters).utf8ByteSize := by
    intro letters
    induction letters with
    | nil => rfl
    | cons c rest ih =>
        have front : (String.ofList [c]).utf8ByteSize = c.utf8Size := String.utf8ByteSize_singleton
        rw [byteLength, ih, ← List.singleton_append, String.ofList_append, String.utf8ByteSize_append, front]
  rw [each, String.ofList_toList]

theorem position_faultAt {whole before after : List Char} (input : List Char) (kind : Fault.Kind)
    (cut : whole = before ++ after) : (faultAt whole input after kind).position = byteLength before := by
  rw [cut, faultAt, offset, byteLength_append, Nat.add_sub_cancel]

end Positions

-- One cut of a text, before a call: a whole leaf, and the call with the fault in it.
structure Cut (text : String) (leaf : Leaf) (fault : Fault) (front before after : String) : Prop where
  whole : text = front ++ "@" ++ before ++ after
  read : Leaf.read front = .ok leaf
  segment : fault.segment.toList = (before ++ after).toList.takeWhile (· != '@')
  position : fault.position = (front ++ "@" ++ before).utf8ByteSize
  malformed : Malformed fault.kind before.toList after.toList

theorem exists_cut {text : String} {leaf : Leaf} {fault : Fault} (read : readPartial text = (leaf, some fault)) :
    ∃ front before after, Cut text leaf fault front before after := by
  obtain ⟨derivation, call, cut, rfl, wrong⟩ := readPartial_eq_fault.mp read
  obtain ⟨before, after, rfl, malformed, place⟩ := malformed_of_readCall wrong
  refine ⟨.ofList derivation.text, .ofList before, .ofList after, ?_, ?_, ?_, ?_, ?_⟩
  · rw [← String.toList_inj, cut]
    simp
  · exact read_eq_ok.mpr (Derivation.readPartial_text (String.toList_ofList).symm)
  · rw [place, ← String.ofList_append, String.toList_ofList]
    exact String.toList_ofList
  · have position : fault.position = byteLength (derivation.text ++ '@' :: before) := by
      rw [place]
      exact position_faultAt _ _ (by rw [cut]; simp)
    rw [position, ← byteLength_toList]
    simp
  · rwa [String.toList_ofList, String.toList_ofList]

namespace Cut
variable {text front before after : String} {leaf : Leaf} {fault : Fault} (cut : Cut text leaf fault front before after)
include cut

theorem boundary : (⟨fault.position⟩ : String.Pos.Raw).IsValid text := by
  rw [String.Pos.Raw.isValid_iff_exists_append]
  exact ⟨_, _, cut.whole, congrArg String.Pos.Raw.mk cut.position⟩

theorem within : (front ++ "@").utf8ByteSize ≤ fault.position ∧ fault.position ≤ text.utf8ByteSize := by
  rw [cut.position, cut.whole, String.utf8ByteSize_append (s := front ++ "@" ++ before),
    String.utf8ByteSize_append (s := front ++ "@")]
  omega

end Cut

-- What is read before a fault and what the fault tells come from one cut of the text.
theorem fault_agrees_with_partial {text : String} {leaf : Leaf} {fault : Fault}
    (read : readPartial text = (leaf, some fault)) :
    ∃ front before after, Cut text leaf fault front before after ∧
      (⟨fault.position⟩ : String.Pos.Raw).IsValid text ∧
      (front ++ "@").utf8ByteSize ≤ fault.position ∧ fault.position ≤ text.utf8ByteSize := by
  obtain ⟨front, before, after, cut⟩ := exists_cut read
  exact ⟨front, before, after, cut, cut.boundary, cut.within⟩

-- An at sign inside arguments is text, but it ends the segment.
theorem unterminated_cut :
    let leaf : Leaf := ⟨["é", "int"], false, [⟨"f", [], "f"⟩]⟩
    let fault : Fault := ⟨.unterminated, "g(ü", 10⟩
    readPartial "é|int@f@g(ü@h" = (leaf, some fault) ∧
      ∃ front before after, Cut "é|int@f@g(ü@h" leaf fault front before after ∧
        (⟨10⟩ : String.Pos.Raw).IsValid "é|int@f@g(ü@h" ∧ (front ++ "@").utf8ByteSize ≤ 10 ∧
        10 ≤ "é|int@f@g(ü@h".utf8ByteSize := by
  have read : readPartial "é|int@f@g(ü@h" =
      (⟨["é", "int"], false, [⟨"f", [], "f"⟩]⟩, some ⟨.unterminated, "g(ü", 10⟩) := by decide +kernel
  exact ⟨read, fault_agrees_with_partial read⟩

-- What can still become the text of a leaf.
def Extendable (text : String) : Prop := ∃ rest leaf, Leaf.read (text ++ rest) = .ok leaf

-- The name of a malformed call, with which its segment begins.
def Fault.name (fault : Fault) : List Char := fault.segment.toList.takeWhile (!endsName ·)

-- A fault stands at a character up to which all could still be mended, and after which nothing can.
structure Leftmost (text : String) (fault : Fault) (before after : String) (c : Char) : Prop where
  whole : text = before.push c ++ after
  position : before.utf8ByteSize = fault.position
  mended : Extendable before
  lost : ¬ Extendable (before.push c)

def Phrase.closed {name inside : List Char} (front : NamePart name) (named : ∃ c ∈ name, isBlank c = false)
    (opened : ArgumentPart inside) : Phrase where
  name := name
  arguments := split ',' inside
  plain := front
  named := named
  inside := fun _ listed _ within =>
    ⟨fun comma => not_mem_of_mem_split listed (comma ▸ within), opened _ (mem_of_mem_split listed within)⟩

theorem Phrase.text_closed {name inside : List Char} (front : NamePart name) (named : ∃ c ∈ name, isBlank c = false)
    (opened : ArgumentPart inside) : (closed front named opened).text = name ++ '(' :: (inside ++ [')']) := by
  obtain ⟨first, more, pieces⟩ := List.exists_cons_of_ne_nil (split_ne_nil ',' inside)
  have listed : list (split ',' inside) = '(' :: (inside ++ [')']) := by
    rw [pieces, list, ← pieces, join_split]
  exact congrArg (name ++ ·) listed

theorem read_eq_error {text : String} {fault : Fault} :
    Leaf.read text = .error fault ↔ ∃ leaf, readPartial text = (leaf, some fault) := by
  unfold Leaf.read
  cases readPartial text with
  | mk leaf found => cases found <;> simp

theorem extendable_of_phrase {front : String} {leaf : Leaf} (read : Leaf.read front = .ok leaf) (phrase : Phrase)
    {before : String} {rest : List Char} (spelled : phrase.text = before.toList ++ rest) :
    Extendable (front ++ "@" ++ before) := by
  obtain ⟨derivation, written, _⟩ := Derivation.exists_of_readPartial (read_eq_ok.mp read)
  let longer : Derivation := { derivation with phrases := derivation.phrases ++ [phrase] }
  refine ⟨.ofList rest, longer.leaf, read_eq_ok.mpr (Derivation.readPartial_text ?_)⟩
  have calls : Derivation.calls (derivation.phrases ++ [phrase]) =
      Derivation.calls derivation.phrases ++ '@' :: phrase.text := by
    simp [Derivation.calls]
  have text : longer.text = derivation.text ++ '@' :: phrase.text := by
    rw [Derivation.text, Derivation.text, List.append_assoc, ← calls]
    rfl
  rw [text, written, spelled]
  simp

namespace Cut
variable {text front before after : String} {leaf : Leaf} {fault : Fault} (cut : Cut text leaf fault front before after)
include cut

theorem name : fault.name = (before ++ after).toList.takeWhile (!endsName ·) := by
  rw [Fault.name, cut.segment, List.takeWhile_takeWhile]
  congr 1
  funext c
  by_cases sign : c = '@' <;> simp [sign, endsName, beq_eq_decide]

theorem lost {c : Char} (stuck : ∀ rest whole, ∃ fault, readCall whole (before.toList ++ c :: rest) = .error fault) :
    ¬ Extendable ((front ++ "@" ++ before).push c) := by
  intro extended
  obtain ⟨rest, leaf', accepted⟩ := extended
  obtain ⟨derivation, written, _⟩ := Derivation.exists_of_readPartial (read_eq_ok.mp cut.read)
  obtain ⟨fault, wrong⟩ := stuck rest.toList ((front ++ "@" ++ before).push c ++ rest).toList
  have whole : ((front ++ "@" ++ before).push c ++ rest).toList =
      derivation.text ++ '@' :: (before.toList ++ c :: rest.toList) := by
    rw [written]
    simp
  have partly := readPartial_cut whole wrong
  rw [read_eq_ok, partly] at accepted
  cases accepted

theorem leftmost {c : Char} {rest : List Char} (first : after.toList = c :: rest) (phrase : Phrase) {closing : List Char}
    (spelled : phrase.text = before.toList ++ closing) (other : fault.kind ≠ .missingName)
    (malformed : ∀ rest, Malformed fault.kind before.toList (c :: rest)) :
    ∃ before after c, Leftmost text fault before after c := by
  refine ⟨front ++ "@" ++ before, .ofList rest, c, ?_, cut.position.symm, extendable_of_phrase cut.read phrase spelled,
    cut.lost fun rest whole => ⟨_, readCall_malformed (malformed rest) other whole⟩⟩
  rw [← String.toList_inj, cut.whole]
  simp [first]

end Cut

theorem fault_is_leftmost {text : String} {fault : Fault} (read : Leaf.read text = .error fault)
    (named : ∃ c ∈ fault.name, isBlank c = false) :
    match fault.kind with
    | .missingName => False
    | .unterminated => Extendable text
    | .nested | .unopened | .trailing _ => ∃ before after c, Leftmost text fault before after c := by
  obtain ⟨leaf, partly⟩ := read_eq_error.mp read
  obtain ⟨front, before, after, cut⟩ := exists_cut partly
  have malformed := cut.malformed
  have name := cut.name
  have leftmost := @cut.leftmost
  rw [String.toList_append] at name
  generalize fault.kind = kind at malformed leftmost ⊢
  generalize written : before.toList = letters at malformed leftmost name
  generalize left : after.toList = others at malformed leftmost name
  rw [name] at named
  cases malformed with
  | missingName blank =>
      obtain ⟨c, within, solid⟩ := named
      exact absurd (blank c within) (by simp [solid])
  | @unterminated word inside part opened =>
      rw [part.takeWhile_append rfl] at named
      have spelled : (Phrase.closed part named opened).text = (before ++ after).toList ++ [')'] := by
        rw [Phrase.text_closed, String.toList_append, written, left]
        simp
      have extendable := extendable_of_phrase cut.read _ spelled
      rwa [← String.append_assoc, ← cut.whole] at extendable
  | @nested word inside rest part opened =>
      rw [List.append_assoc, List.cons_append, part.takeWhile_append rfl] at named
      have spelled : (Phrase.closed part named opened).text = word ++ '(' :: inside ++ [')'] := by
        rw [Phrase.text_closed, List.append_assoc, List.cons_append]
      exact leftmost rfl _ spelled nofun fun rest => .nested part opened
  | @unopened _ rest part =>
      rw [part.takeWhile_append rfl] at named
      have spelled : (⟨letters, [], part, named, nofun⟩ : Phrase).text = letters ++ [] := rfl
      exact leftmost rfl _ spelled nofun fun rest => .unopened part
  | @trailing word inside rest found part opened apart =>
      rw [List.append_assoc, List.cons_append, part.takeWhile_append rfl] at named
      have spelled : (Phrase.closed part named opened).text = word ++ '(' :: (inside ++ [')']) ++ [] := by
        rw [Phrase.text_closed, List.append_nil]
      exact leftmost rfl _ spelled nofun fun rest => .trailing part opened apart

-- The parenthesis stands behind an at sign in the arguments, beyond the segment of its fault.
theorem nested_leftmost :
    let fault : Fault := ⟨.nested, "f( ü", 9⟩
    Leaf.read "é@f( ü@(b" = .error fault ∧ (∃ c ∈ fault.name, isBlank c = false) ∧
      ∃ before after c, Leftmost "é@f( ü@(b" fault before after c := by
  have read : Leaf.read "é@f( ü@(b" = .error ⟨.nested, "f( ü", 9⟩ := by decide +kernel
  have named : ∃ c ∈ Fault.name ⟨.nested, "f( ü", 9⟩, isBlank c = false := ⟨'f', by decide +kernel, rfl⟩
  exact ⟨read, named, fault_is_leftmost read named⟩

end Conform.Leaf
