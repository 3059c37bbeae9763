import Conform.Proofs.Leaf.Grammar

namespace Conform.Leaf
open Conform.Text

theorem readArguments_append {piece : List Char} (inside : ∀ c ∈ piece, c ≠ ',' ∧ c ≠ '(' ∧ c ≠ ')')
    (current rest : List Char) : readArguments current (piece ++ rest) = readArguments (piece.reverse ++ current) rest := by
  induction piece generalizing current with
  | nil => rfl
  | cons c piece ih =>
      rw [List.forall_mem_cons] at inside
      obtain ⟨⟨comma, opened, closed⟩, later⟩ := inside
      rw [List.cons_append, readArguments, if_neg closed, if_neg comma, if_neg opened, ih later, List.reverse_cons,
        List.append_assoc, List.singleton_append]

theorem readArguments_join {first : List Char} {more : List (List Char)}
    (inside : ∀ argument ∈ first :: more, ∀ c ∈ argument, c ≠ ',' ∧ c ≠ '(' ∧ c ≠ ')') (current after : List Char) :
    readArguments current (join [','] (first :: more) ++ ')' :: after) =
      .ok (.ofList (current.reverse ++ first) :: more.map .ofList, after) := by
  induction more generalizing first current with
  | nil =>
      rw [join, readArguments_append (inside first (List.mem_singleton_self _)), readArguments, if_pos rfl,
        List.reverse_append, List.reverse_reverse, List.map_nil]
  | cons next more ih =>
      rw [List.forall_mem_cons] at inside
      rw [join, List.append_assoc, List.append_assoc, readArguments_append inside.1, List.singleton_append,
        readArguments, if_neg (by decide), if_pos rfl, ih inside.2, List.reverse_append, List.reverse_reverse]
      rfl

theorem join_of_readArguments {current input after : List Char} {values : List String}
    (read : readArguments current input = .ok (values, after)) :
    ∃ first more, (∀ argument ∈ first :: more, ∀ c ∈ argument, c ≠ ',' ∧ c ≠ '(' ∧ c ≠ ')') ∧
      input = join [','] (first :: more) ++ ')' :: after ∧
      values = .ofList (current.reverse ++ first) :: more.map .ofList := by
  induction input generalizing current values with
  | nil => cases read
  | cons c rest ih =>
      unfold readArguments at read
      split at read
      · rename_i closed
        cases read
        exact ⟨[], [], by simp, by rw [closed]; rfl, by simp⟩
      · rename_i notClosed
        split at read
        · rename_i comma
          cases later : readArguments [] rest with
          | error stopped => rw [later] at read; cases read
          | ok result =>
              rw [later] at read
              cases read
              obtain ⟨first, more, inside, spelled, values⟩ := ih later
              refine ⟨[], first :: more, ?_, ?_, ?_⟩
              · exact List.forall_mem_cons.mpr ⟨by simp, inside⟩
              · rw [spelled, comma]
                rfl
              · rw [values]
                simp
        · rename_i notComma
          split at read
          · cases read
          · rename_i notOpened
            obtain ⟨first, more, inside, spelled, values⟩ := ih read
            rw [List.forall_mem_cons] at inside
            refine ⟨c :: first, more, ?_, ?_, ?_⟩
            · exact List.forall_mem_cons.mpr
                ⟨List.forall_mem_cons.mpr ⟨⟨notComma, notOpened, notClosed⟩, inside.1⟩, inside.2⟩
            · rw [spelled, join_cons_cons]
              rfl
            · rw [values, List.reverse_cons, List.append_assoc, List.singleton_append]

theorem nameCall_eq_ok {whole input after rest : List Char} {arguments : List String} {call : Call} :
    nameCall whole input after arguments = .ok (call, rest) ↔
      (∃ c ∈ input.takeWhile (!endsName ·), isBlank c = false) ∧ rest = after ∧
      call = ⟨.ofList (trim (input.takeWhile (!endsName ·))), arguments,
        .ofList (input.take (input.length - after.length))⟩ := by
  rw [← trim_ne_nil, nameCall]
  by_cases blank : trim (input.takeWhile (!endsName ·)) = []
  · rw [if_pos (List.isEmpty_iff.mpr blank)]
    refine ⟨fun same => ?_, fun given => absurd blank given.1⟩
    cases same
  · rw [if_neg fun empty => blank (List.isEmpty_iff.mp empty)]
    constructor
    · intro same
      cases same
      exact ⟨blank, rfl, rfl⟩
    · intro given
      obtain ⟨_, rfl, rfl⟩ := given
      rfl

namespace Phrase

theorem nameCall_text (phrase : Phrase) {after : List Char} (ends : Ends after) (whole : List Char) :
    nameCall whole (phrase.text ++ after) after (phrase.arguments.map .ofList) = .ok (phrase.call, after) := by
  refine nameCall_eq_ok.mpr ⟨?_, rfl, ?_⟩
  · rw [phrase.takeWhile_text ends]
    exact phrase.named
  · rw [phrase.takeWhile_text ends, List.length_append, Nat.add_sub_cancel, List.take_left]
    rfl

theorem readCall_text (phrase : Phrase) {after : List Char} (ends : Ends after) (whole : List Char) :
    readCall whole (phrase.text ++ after) = .ok (phrase.call, after) := by
  have named := phrase.nameCall_text ends whole
  have inside := phrase.inside
  rw [readCall, phrase.dropWhile_text ends]
  cases arguments : phrase.arguments with
  | nil =>
      rw [arguments] at named
      cases after with
      | nil => exact named
      | cons c rest =>
          cases ends c rfl
          exact named
  | cons first more =>
      rw [arguments] at named inside
      have read := readArguments_join inside [] after
      simp only [list, List.cons_append, List.append_assoc, List.nil_append, read]
      cases after with
      | nil => exact named
      | cons c rest =>
          cases ends c rfl
          exact named

end Phrase

theorem phrase_of_nameCall {whole input rest after : List Char} {arguments : List (List Char)} {call : Call}
    (inside : ∀ argument ∈ arguments, ∀ c ∈ argument, c ≠ ',' ∧ c ≠ '(' ∧ c ≠ ')')
    (left : input.dropWhile (!endsName ·) = Phrase.list arguments ++ rest)
    (named : nameCall whole input rest (arguments.map .ofList) = .ok (call, after)) :
    after = rest ∧ ∃ phrase : Phrase, phrase.text ++ rest = input ∧ phrase.call = call := by
  obtain ⟨name, same, rfl⟩ := nameCall_eq_ok.mp named
  let phrase : Phrase := ⟨input.takeWhile (!endsName ·), arguments, NamePart.takeWhile input, name, inside⟩
  have spelled : phrase.text ++ rest = input := by
    rw [Phrase.text, List.append_assoc, ← left]
    exact List.takeWhile_append_dropWhile
  have raw : input.take (input.length - rest.length) = phrase.text := by
    rw [← spelled, List.length_append, Nat.add_sub_cancel, List.take_left]
  refine ⟨same, phrase, spelled, ?_⟩
  rw [raw]
  rfl

theorem phrase_of_readCall {whole input after : List Char} {call : Call}
    (read : readCall whole input = .ok (call, after)) :
    Ends after ∧ ∃ phrase : Phrase, phrase.text ++ after = input ∧ phrase.call = call := by
  unfold readCall at read
  split at read
  · cases read
  · rename_i opened left
    split at read
    · cases read
    · cases read
    · rename_i values arguments
      obtain ⟨first, more, inside, spelled, rfl⟩ := join_of_readArguments arguments
      obtain ⟨rfl, phrase⟩ := phrase_of_nameCall inside (by rw [left, spelled]; simp [Phrase.list]) read
      exact ⟨by simp [Ends], phrase⟩
    · rename_i values found rest arguments
      obtain ⟨first, more, inside, spelled, rfl⟩ := join_of_readArguments arguments
      split at read
      · rename_i next
        obtain ⟨rfl, phrase⟩ := phrase_of_nameCall inside (by rw [left, spelled]; simp [Phrase.list]) read
        exact ⟨by simp [Ends, next], phrase⟩
      · cases read
  · rename_i notClosed notOpened
    have none : ∀ argument ∈ ([] : List (List Char)), ∀ c ∈ argument, c ≠ ',' ∧ c ≠ '(' ∧ c ≠ ')' := by simp
    obtain ⟨rfl, phrase⟩ := phrase_of_nameCall none (by simp [Phrase.list]) read
    refine ⟨fun c first => ?_, phrase⟩
    -- the name has ended here, and neither parenthesis has ended it
    have ending := List.head?_dropWhile_not (!endsName ·) input
    rw [first] at ending
    cases left : input.dropWhile (!endsName ·) with
    | nil => rw [left] at first; cases first
    | cons d rest =>
        rw [left] at first
        cases first
        have stops : endsName c = true := by simpa using ending
        have closed : c ≠ ')' := fun same => notClosed rest (by rw [left, same])
        have opened : c ≠ '(' := fun same => notOpened rest (by rw [left, same])
        simpa [endsName, closed, opened] using stops

theorem readCalls_of_ok {whole rest after : List Char} {call : Call} (read : readCall whole rest = .ok (call, after)) :
    readCalls whole ('@' :: rest) = (call :: (readCalls whole after).1, (readCalls whole after).2) := by
  rw [readCalls]
  split
  · rename_i same
    cases read.symm.trans same
    rfl
  · rename_i same
    cases read.symm.trans same

theorem readCalls_phrases (phrases : List Phrase) (whole : List Char) :
    readCalls whole (Derivation.calls phrases) = (phrases.map Phrase.call, none) := by
  induction phrases with
  | nil =>
      rw [Derivation.calls_nil, readCalls]
      · rfl
      · intro rest same
        cases same
  | cons phrase rest ih =>
      have read := phrase.readCall_text (ends_calls rest) whole
      rw [Derivation.calls_cons, readCalls_of_ok read, ih, List.map_cons]

-- What is left after one call is the input of the next, so that the phrases are found one by one.
theorem phrases_of_readCalls {whole input : List Char} (ends : Ends input) (fine : (readCalls whole input).2 = none) :
    ∃ phrases, Derivation.calls phrases = input ∧ phrases.map Phrase.call = (readCalls whole input).1 := by
  fun_induction readCalls whole input with
  | case1 rest call after read calls fault later ih =>
      obtain ⟨ends, phrase, spelled, named⟩ := phrase_of_readCall read
      rw [later] at ih
      obtain ⟨phrases, left, calls⟩ := ih ends fine
      refine ⟨phrase :: phrases, ?_, ?_⟩
      · rw [Derivation.calls_cons, left, spelled]
      · rw [List.map_cons, named, calls]
  | case2 rest fault read => cases fine
  | case3 input other =>
      cases input with
      | nil => exact ⟨[], rfl, rfl⟩
      | cons c rest =>
          cases ends c rfl
          exact absurd rfl (other rest)

-- The types end where the first call begins.
theorem not_mem_types (text : List Char) : '@' ∉ text.takeWhile (· != '@') := by
  intro within
  have kept := List.all_eq_true.mp (List.all_takeWhile (p := (· != '@')) (l := text)) _ within
  cases kept

theorem ends_rest (text : List Char) : Ends (text.dropWhile (· != '@')) := by
  intro c first
  have stopped := List.head?_dropWhile_not (· != '@') text
  rw [first] at stopped
  simpa using stopped

namespace Derivation

theorem calls_injective {first second : List Phrase} (same : calls first = calls second) : first = second := by
  induction first generalizing second with
  | nil => cases second with
      | nil => rfl
      | cons => cases same
  | cons phrase rest ih =>
      cases second with
      | nil => cases same
      | cons other others =>
          rw [calls_cons, calls_cons, List.cons.injEq] at same
          -- both are what one reader finds
          have read := phrase.readCall_text (ends_calls rest) []
          rw [same.2, other.readCall_text (ends_calls others)] at read
          have later : calls others = calls rest := congrArg Prod.snd (Except.ok.inj read)
          have here := same.2
          rw [later] at here
          rw [Phrase.text_injective (List.append_cancel_right here), ih later.symm]

theorem text_injective {first second : Derivation} (same : first.text = second.text) : first = second := by
  have types : first.types = second.types := by rw [← first.takeWhile_text, same, second.takeWhile_text]
  have pieces : first.pieces = second.pieces := by rw [← first.split_types, types, second.split_types]
  have phrases : first.phrases = second.phrases :=
    calls_injective (by rw [← first.dropWhile_text, same, second.dropWhile_text])
  cases first
  cases second
  cases pieces
  cases phrases
  rfl

theorem readPartial_text {text : String} {derivation : Derivation} (spelled : derivation.text = text.toList) :
    readPartial text = (derivation.leaf, none) := by
  have names : readNames derivation.types = derivation.names := by rw [readNames, split_types, Derivation.names]
  rw [readPartial, ← spelled, takeWhile_text, dropWhile_text, names, readCalls_phrases]
  rfl

theorem exists_of_readPartial {text : String} {leaf : Leaf} (read : readPartial text = (leaf, none)) :
    ∃ derivation : Derivation, derivation.text = text.toList ∧ derivation.leaf = leaf := by
  have fine : (readCalls text.toList (text.toList.dropWhile (· != '@'))).2 = none := congrArg Prod.snd read
  obtain ⟨phrases, left, calls⟩ := phrases_of_readCalls (ends_rest text.toList) fine
  have spelled : (ofTypes _ (not_mem_types text.toList) phrases).text = text.toList := by
    rw [Derivation.text, types_ofTypes]
    show _ ++ Derivation.calls phrases = _
    rw [left, List.takeWhile_append_dropWhile]
  have again := readPartial_text spelled
  exact ⟨_, spelled, congrArg Prod.fst (again.symm.trans read)⟩

end Derivation

theorem read_eq_ok {text : String} {leaf : Leaf} : read text = .ok leaf ↔ readPartial text = (leaf, none) := by
  unfold read
  cases readPartial text with
  | mk whole fault => cases fault <;> simp

theorem Call.read_eq_ok {text : String} {call : Call} :
    Call.read text = .ok call ↔ ∃ phrase : Phrase, phrase.text = text.toList ∧ phrase.call = call := by
  constructor
  · intro read
    unfold Call.read at read
    split at read
    · cases read
    · rename_i call found
      cases read
      obtain ⟨_, phrase, spelled, named⟩ := phrase_of_readCall found
      exact ⟨phrase, by rw [← spelled, List.append_nil], named⟩
    · cases read
  · intro given
    obtain ⟨phrase, spelled, rfl⟩ := given
    have read := phrase.readCall_text ends_nil text.toList
    rw [List.append_nil, spelled] at read
    rw [Call.read, read]

theorem read_exactly_derived (text : String) :
    (∀ leaf, read text = .ok leaf ↔
      ∃ derivation : Derivation, derivation.text = text.toList ∧ derivation.Denotes leaf) ∧
    (∀ first second : Derivation, first.text = text.toList → second.text = text.toList → first = second) ∧
    (∀ (derivation : Derivation) (leaf : Leaf), derivation.text = text.toList → derivation.Denotes leaf →
      derivation.types ++ leaf.calls.flatMap (fun call => '@' :: call.raw.toList) = text.toList) ∧
    (∀ call, Call.read text = .ok call ↔ ∃ phrase : Phrase, phrase.text = text.toList ∧ phrase.call = call) := by
  refine ⟨fun leaf => ?_, fun first second one other => Derivation.text_injective (one.trans other.symm),
    fun derivation leaf spelled denotes => denotes.rebuilds.trans spelled, fun call => Call.read_eq_ok⟩
  rw [read_eq_ok]
  constructor
  · intro found
    obtain ⟨derivation, spelled, rfl⟩ := Derivation.exists_of_readPartial found
    exact ⟨derivation, spelled, derivation.denotes_leaf⟩
  · intro given
    obtain ⟨derivation, spelled, denotes⟩ := given
    rw [Derivation.readPartial_text spelled, derivation.denotes_leaf.unique denotes]

-- A name twice, null among the names, an at sign in an argument, and blanks that matter there and nowhere else.
def busyPhrase : Phrase where
  name := " f ".toList
  arguments := [" a@b".toList, []]
  plain := by simp
  named := ⟨'f', by simp, by decide⟩
  inside := by simp

def busyDerivation : Derivation where
  pieces := [" int ".toList, "null".toList, [], "int".toList, "text ".toList]
  phrases := [busyPhrase]
  some := by decide
  plain := by decide

theorem busyText_read : read " int |null||int|text @ f ( a@b,)" =
    .ok ⟨["int", "text"], true, [⟨"f", [" a@b", ""], " f ( a@b,)"⟩]⟩ := by
  have spelled : busyDerivation.text = " int |null||int|text @ f ( a@b,)".toList := by decide
  refine ((read_exactly_derived _).1 _).mpr ⟨busyDerivation, spelled, ?_⟩
  have names : busyDerivation.names = ["int", "null", "", "int", "text"] := by decide
  refine ⟨?_, fun name => ?_, ?_, by decide⟩
  · rw [names]
    decide
  · rw [names]
    grind [nullName]
  · rw [names]
    decide

end Conform.Leaf
