import Conform.Proofs.Leaf.Reading
import Conform.Proofs.Schema.Leaf
import Conform.Registry.Builtin

namespace Conform.Schema
open Conform.Leaf Registry
open Report (recorded recorded_result recorded_eq_nil explained_result)

-- Transforms one after another; the first that fails is the last that runs.
inductive Runs : List Transform → Json → Except String Json → Prop
  | done : Runs [] value (.ok value)
  | next {transform : Transform} (gave : transform value = .ok result) (later : Runs rest result outcome) :
      Runs (transform :: rest) value outcome
  | stop {transform : Transform} (failed : transform value = .error message) :
      Runs (transform :: rest) value (.error message)

theorem runs_iff {transforms : List Transform} {value : Json} {outcome : Except String Json} :
    Runs transforms value outcome ↔
      transforms.foldlM (fun (current : Json) (transform : Transform) => transform current) value = outcome := by
  induction transforms generalizing value with
  | nil =>
      constructor
      · rintro ⟨⟩
        rfl
      · rintro rfl
        exact .done
  | cons transform rest ih =>
      rw [List.foldlM_cons]
      constructor
      · rintro (_ | ⟨gave, later⟩ | failed)
        · rw [gave]
          exact ih.mp later
        · rw [failed]
          rfl
      · intro folded
        cases ran : transform value with
        | error message =>
            rw [ran] at folded
            exact folded ▸ .stop ran
        | ok result =>
            rw [ran] at folded
            exact .next ran (ih.mpr folded)

def chain (types : String) (calls : List String) : String :=
  .ofList (types.toList ++ calls.flatMap fun call => '@' :: call.toList)

section Reading

theorem phrases_of_read {calls : List String} (read : ∀ text ∈ calls, ∃ call, Call.read text = .ok call)
    (transforms : Table Transform.Factory) :
    ∃ phrases : List Phrase, Derivation.calls phrases = calls.flatMap (fun call => '@' :: call.toList) ∧
      phrases.map (fun phrase => instantiate transforms phrase.call) = calls.map (Registry.transform transforms) := by
  refine Derivation.exists_calls (instantiate transforms) fun text within => ?_
  obtain ⟨call, here⟩ := read text within
  obtain ⟨phrase, spelled, named⟩ := Call.read_eq_ok.mp here
  refine ⟨phrase, spelled, ?_⟩
  rw [named, Registry.transform, here]

theorem readPartial_types {types : String} (free : '@' ∉ types.toList) :
    readPartial types = ((Derivation.ofTypes types.toList free []).leaf, none) := by
  refine Derivation.readPartial_text ?_
  rw [Derivation.text, Derivation.types_ofTypes]
  exact List.append_nil _

theorem readPartial_chain {types : String} (free : '@' ∉ types.toList) {calls : List String} {phrases : List Phrase}
    (texts : Derivation.calls phrases = calls.flatMap fun call => '@' :: call.toList) :
    readPartial (chain types calls) =
      ({ (readPartial types).1 with calls := phrases.map Phrase.call }, none) := by
  have spelled : (Derivation.ofTypes types.toList free phrases).text = (chain types calls).toList := by
    rw [Derivation.text, Derivation.types_ofTypes, chain, String.toList_ofList, ← texts]
    rfl
  rw [Derivation.readPartial_text spelled, readPartial_types free]
  rfl

end Reading

namespace Rule

-- The leaf without calls, what is wrong with it, and what calls add to both.
theorem compile_chain (registry : Registry) {types : String} (free : '@' ∉ types.toList) {calls : List String}
    (named : (readPartial types).1.candidates ≠ []) (read : ∀ text ∈ calls, ∃ call, Call.read text = .ok call) :
    ∃ (plain : Rule) (faults : List String), plain.transforms = [] ∧ plain.nullEntry = Registry.nullEntry registry.types ∧
      compile registry types = Report.result ⟨faults.map .here⟩ plain ∧
      compile registry (chain types calls) =
        Report.result ⟨(failures (calls.map (Registry.transform registry.transforms)) ++ faults).map .here⟩
          { plain with transforms := successes (calls.map (Registry.transform registry.transforms)) } := by
  obtain ⟨phrases, texts, each⟩ := phrases_of_read read registry.transforms
  have base := readPartial_types free
  have chained := readPartial_chain free texts
  rw [base] at chained named
  have plain := compile_of_read base named registry
  have whole := compile_of_read chained named registry
  rw [List.map_map, Function.comp_def, each] at whole
  exact ⟨_, _, rfl, rfl, plain, whole⟩

variable {plain : Rule} {transforms : List Transform} {value : Json}

theorem matchTypes_withTransforms (plain : Rule) (transforms : List Transform) (value : Json)
    (types : List (String × TypeEntry)) :
    { plain with transforms := transforms }.matchTypes value types = plain.matchTypes value types := by
  induction types with
  | nil => rfl
  | cons first rest ih =>
      obtain ⟨name, entry⟩ := first
      rw [matchTypes, matchTypes, ih]
      rfl

theorem apply_of_coerced {canonical : Json} (coerced : plain.matchTypes value plain.types = .coerced canonical) :
    ∃ outcome, Runs plain.transforms canonical outcome ∧ plain.apply value = outcome.mapError .ofMessage := by
  refine ⟨_, runs_iff.mpr rfl, ?_⟩
  rw [apply, coerced]

-- Null is looked for before the type that comes first.
def NullFirst (rule : Rule) : Prop := ∃ first rest, rule.types = first :: rest ∧ first.2.nullAfter = false

theorem apply_chain (none : plain.transforms = []) (transforms : List Transform) (value : Json) :
    (∀ report, plain.apply value = .error report → { plain with transforms := transforms }.apply value = .error report) ∧
    (plain.isNull value = true ∧ plain.NullFirst → { plain with transforms := transforms }.apply value = .ok .null) ∧
    (¬ (plain.isNull value = true ∧ plain.NullFirst) → ∀ canonical, plain.apply value = .ok canonical →
      ∃ outcome, Runs transforms canonical outcome ∧
        { plain with transforms := transforms }.apply value = outcome.mapError .ofMessage) := by
  have null : plain.matchTypes value plain.types = .null ↔ plain.isNull value = true ∧ plain.NullFirst :=
    matchTypes_eq_null
  have same := matchTypes_withTransforms plain transforms value plain.types
  rw [← null]
  cases matched : plain.matchTypes value plain.types with
  | null =>
      refine ⟨fun report refused => ?_, fun _ => ?_, fun other => absurd rfl other⟩
      · rw [apply, matched] at refused
        cases refused
      · rw [apply]
        simp only [same, matched]
  | refused =>
      refine ⟨fun report refused => ?_, fun other => (by cases other), fun _ canonical accepted => ?_⟩
      · rw [apply, matched] at refused
        rw [apply]
        simp only [same, matched]
        exact refused
      · rw [apply, matched] at accepted
        cases accepted
  | coerced result =>
      refine ⟨fun report refused => ?_, fun other => (by cases other), fun _ canonical accepted => ?_⟩
      · rw [apply, matched, none] at refused
        cases refused
      · rw [apply, matched, none] at accepted
        cases accepted
        have chained : { plain with transforms := transforms }.matchTypes value plain.types = .coerced result :=
          same.trans matched
        exact apply_of_coerced chained

end Rule

theorem chain_runs_after_types (registry : Registry) {types : String} (free : '@' ∉ types.toList)
    (named : (readPartial types).1.candidates ≠ []) {calls : List String}
    (read : ∀ text ∈ calls, ∃ call, Call.read text = .ok call) :
    ((∃ rule, Rule.compile registry (chain types calls) = .ok rule) ↔
      (∃ plain, Rule.compile registry types = .ok plain) ∧
      ∀ text ∈ calls, ∃ transform, Registry.transform registry.transforms text = .ok transform) ∧
    (∀ report, Rule.compile registry (chain types calls) = .error report →
      report.records = (Rule.failures (calls.map (Registry.transform registry.transforms))).map .here ++
        recorded (Rule.compile registry types)) ∧
    (∀ rule, Rule.compile registry (chain types calls) = .ok rule → ∃ plain transforms,
      Rule.compile registry types = .ok plain ∧
      calls.map (Registry.transform registry.transforms) = transforms.map .ok ∧
      ∀ value,
        (∀ report, plain.apply value = .error report → rule.apply value = .error report) ∧
        (plain.nullable = true ∧ isNull registry.types value = true ∧ plain.NullFirst → rule.apply value = .ok .null) ∧
        (¬ (plain.nullable = true ∧ isNull registry.types value = true ∧ plain.NullFirst) →
          ∀ canonical, plain.apply value = .ok canonical →
            ∃ outcome, Runs transforms canonical outcome ∧ rule.apply value = outcome.mapError .ofMessage)) := by
  obtain ⟨plain, faults, none, nullEntry, base, whole⟩ := Rule.compile_chain registry free named read
  rw [base, whole]
  have generated : Rule.failures (calls.map (Registry.transform registry.transforms)) = [] ↔
      ∀ text ∈ calls, ∃ transform, Registry.transform registry.transforms text = .ok transform := by
    rw [Rule.failures_eq_nil, List.forall_mem_map]
  refine ⟨?_, fun report refused => ?_, fun rule compiled => ?_⟩
  · rw [← recorded_eq_nil (explained_result _ _), ← recorded_eq_nil (explained_result _ _), recorded_result,
      recorded_result, ← generated, List.map_eq_nil_iff, List.map_eq_nil_iff, List.append_eq_nil_iff, and_comm]
  · have held := congrArg recorded refused
    rw [recorded_result, Report.recorded_error] at held
    rw [← held, recorded_result, List.map_append]
  · have fine : (Rule.failures (calls.map (Registry.transform registry.transforms)) ++ faults).map Record.here = [] := by
      have held := congrArg recorded compiled
      rwa [recorded_result] at held
    rw [List.map_eq_nil_iff, List.append_eq_nil_iff] at fine
    obtain ⟨all, rfl⟩ := fine
    rw [all] at compiled
    cases compiled
    refine ⟨plain, _, rfl, Rule.eq_map_ok_of_failures all, fun value => ?_⟩
    have agree := Rule.apply_chain none (Rule.successes (calls.map (Registry.transform registry.transforms))) value
    have null : plain.isNull value = true ∧ plain.NullFirst ↔
        plain.nullable = true ∧ isNull registry.types value = true ∧ plain.NullFirst := by
      rw [Rule.isNull, nullEntry, Bool.and_eq_true, and_assoc]
      rfl
    rwa [null] at agree

def toStr : Phrase := ⟨"to_str".toList, [], by simp, ⟨'t', by simp, by decide⟩, by simp⟩

def strUpper : Phrase := ⟨"str_upper".toList, [], by simp, ⟨'s', by simp, by decide⟩, by simp⟩

-- A leaf of null alone finds null as its type, which comes before null itself: the transforms run on it.
theorem nullChain_runs : chain "null" ["to_str", "str_upper"] = "null@to_str@str_upper" ∧
    ∃ rule, Rule.compile builtin "null@to_str@str_upper" = .ok rule ∧ rule.apply (.string "") = .ok (.string "NULL") := by
  have text : chain "null" ["to_str", "str_upper"] = "null@to_str@str_upper" := by decide
  have bare : readPartial "null" = (⟨[], true, []⟩, none) := by decide +kernel
  have first : Call.read "to_str" = .ok ⟨"to_str", [], "to_str"⟩ := Call.read_eq_ok.mpr ⟨toStr, by decide, by decide⟩
  have second : Call.read "str_upper" = .ok ⟨"str_upper", [], "str_upper"⟩ :=
    Call.read_eq_ok.mpr ⟨strUpper, by decide, by decide⟩
  have stringify : Registry.transform builtin.transforms "to_str" = .ok fun value => .ok (.string (Loose.text value)) := by
    rw [Registry.transform, first]
    rfl
  have upper : Registry.transform builtin.transforms "str_upper" = .ok (onText "StrUpper" Text.uppered) := by
    rw [Registry.transform, second]
    rfl
  have plain : Rule.compile builtin "null" =
      .ok ⟨[("null", ⟨Coercion.null, true⟩)], true, ⟨Coercion.null, true⟩, [], "null"⟩ := by
    rw [Rule.compile_of_read bare (by decide)]
    rfl
  have free : '@' ∉ "null".toList := by decide
  have named : (readPartial "null").1.candidates ≠ [] := by
    rw [bare]
    decide
  have read : ∀ text ∈ ["to_str", "str_upper"], ∃ call, Call.read text = .ok call := by simp [first, second]
  obtain ⟨succeeds, _, runs⟩ := chain_runs_after_types builtin free named read
  rw [text] at succeeds runs
  obtain ⟨rule, compiled⟩ := succeeds.mpr ⟨⟨_, plain⟩, by simp [stringify, upper]⟩
  obtain ⟨_, transforms, same, called, agree⟩ := runs rule compiled
  cases plain.symm.trans same
  have late : ¬ Rule.NullFirst ⟨[("null", ⟨Coercion.null, true⟩)], true, ⟨Coercion.null, true⟩, [], "null"⟩ := by
    rintro ⟨_, _, listed, early⟩
    cases listed
    cases early
  obtain ⟨outcome, ran, applied⟩ := (agree (.string "")).2.2 (fun null => late null.2.2) .null rfl
  have listed : transforms = [fun value => .ok (.string (Loose.text value)), onText "StrUpper" Text.uppered] := by
    rw [← Rule.successes_map_ok transforms, ← called, List.map_cons, List.map_cons, List.map_nil, stringify, upper]
    rfl
  have shouted : Text.uppered (Loose.text .null) = "NULL" := by decide +kernel
  rw [listed, runs_iff] at ran
  have gave : outcome = .ok (.string "NULL") := by
    rw [← ran, ← shouted]
    rfl
  exact ⟨text, rule, compiled, applied.trans (congrArg (Except.mapError Report.ofMessage) gave)⟩

end Conform.Schema
