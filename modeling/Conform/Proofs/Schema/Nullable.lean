import Conform.Proofs.Coercion.Tower
import Conform.Proofs.Registry.Builtin
import Conform.Proofs.Schema.Matching

namespace Conform.Schema
open Conform.Leaf Registry Coercion

namespace Rule

theorem exists_coerced {rule : Rule} {value canonical : Json} {types : List (String × TypeEntry)}
    (matched : rule.matchTypes value types = .coerced canonical) :
    ∃ row ∈ types, row.2.coerce value = some canonical := by
  induction types with
  | nil => cases matched
  | cons first rest ih =>
      obtain ⟨name, entry⟩ := first
      rw [matchTypes] at matched
      split at matched
      · cases matched
      · cases coerced : entry.coerce value with
        | some found =>
            rw [coerced] at matched
            cases matched
            exact ⟨_, List.mem_cons_self .., coerced⟩
        | none =>
            rw [coerced] at matched
            dsimp only at matched
            split at matched
            · cases matched
            · obtain ⟨row, within, accepted⟩ := ih matched
              exact ⟨row, List.mem_cons_of_mem _ within, accepted⟩

-- A rule without transforms that takes null, and whose types are builtin ones.
structure Nulling (rule : Rule) : Prop where
  plain : rule.transforms = []
  nullable : rule.nullable = true
  null : rule.nullEntry.coerce = Coercion.null
  typed : rule.types ≠ []
  builtin : ∀ row ∈ rule.types, KeepsNull row.2.coerce ∧ (row.2.nullAfter = false ∨ row.2.coerce = Coercion.null)

namespace Nulling
variable {rule : Rule} (nulling : rule.Nulling) (value : Json)
include nulling

theorem isNull_iff : rule.isNull value = true ↔ StandsForNull value := by
  rw [isNull, nulling.nullable, nulling.null, Bool.true_and, null_isSome_iff]

-- The first type finds null before itself, unless it is null: then it takes the value.
theorem matchTypes_of_standsForNull (stands : StandsForNull value) :
    rule.matchTypes value rule.types = .null ∨ rule.matchTypes value rule.types = .coerced .null := by
  have nulled := (nulling.isNull_iff value).mpr stands
  cases types : rule.types with
  | nil => exact absurd types nulling.typed
  | cons first rest =>
      obtain ⟨name, entry⟩ := first
      have own := (nulling.builtin (name, entry) (types ▸ List.mem_cons_self ..)).2
      cases after : entry.nullAfter with
      | false => exact .inl (matchTypes_eq_null.mpr ⟨nulled, _, _, rfl, after⟩)
      | true =>
          have same : entry.coerce = Coercion.null := own.resolve_left (by simp [after])
          refine .inr ?_
          rw [matchTypes, after, same, null_eq_some_iff.mpr ⟨stands, rfl⟩]
          rfl

theorem apply_eq_null_iff : rule.apply value = .ok .null ↔ StandsForNull value := by
  rw [apply_of_plain nulling.plain]
  constructor
  · intro applied
    cases matched : rule.matchTypes value rule.types with
    | null => exact (nulling.isNull_iff value).mp (matchTypes_eq_null.mp matched).1
    | coerced canonical =>
        rw [matched] at applied
        cases applied
        obtain ⟨row, within, accepted⟩ := exists_coerced matched
        exact (nulling.builtin row within).1 value accepted
    | refused =>
        rw [matched] at applied
        cases applied
  · intro stands
    rcases nulling.matchTypes_of_standsForNull value stands with matched | matched <;> rw [matched]

end Nulling

end Rule

-- A leaf without transforms that takes null, and whose types are all builtin ones.
structure NullableLeaf (registry : Registry) (leaf : Leaf) : Prop where
  plain : leaf.calls = []
  nullable : leaf.nullable = true
  builtin : ∀ name, name = nullName ∨ name ∈ leaf.alternatives →
    ∃ entry, builtinTypes.get? name = some entry ∧ registry.types.get? name = some entry

namespace NullableLeaf
variable {registry : Registry} {leaf : Leaf} (takes : NullableLeaf registry leaf)
include takes

theorem candidates_ne_nil : leaf.candidates ≠ [] := by
  unfold candidates
  rw [takes.nullable, Bool.and_true]
  split
  · exact List.cons_ne_nil _ _
  · rename_i named
    exact fun none => named (List.isEmpty_iff.mpr none)

theorem builtin_candidate {name : String} (within : name ∈ leaf.candidates) :
    ∃ entry, builtinTypes.get? name = some entry ∧ registry.types.get? name = some entry := by
  unfold candidates at within
  split at within
  · exact takes.builtin name (.inl (List.mem_singleton.mp within))
  · exact takes.builtin name (.inr within)

theorem nullEntry_eq : nullEntry registry.types = ⟨Coercion.null, true⟩ := by
  obtain ⟨entry, known, same⟩ := takes.builtin nullName (.inl rfl)
  rw [nullEntry, same, ← known, get?_null]
  rfl

theorem exists_rule {text : String} (read : Leaf.readPartial text = (leaf, none)) :
    ∃ rule, Rule.compile registry text = .ok rule ∧ rule.Nulling := by
  have found : Rule.failures (leaf.candidates.map (Rule.lookUp registry.types)) = [] := by
    refine Rule.failures_eq_nil.mpr fun result within => ?_
    obtain ⟨name, listed, rfl⟩ := List.mem_map.mp within
    obtain ⟨entry, _, same⟩ := takes.builtin_candidate listed
    exact ⟨_, Rule.lookUp_eq_ok.mpr ⟨entry, same, rfl⟩⟩
  have rows := Rule.eq_map_ok_of_failures found
  rw [Rule.compile_of_read read takes.candidates_ne_nil, found, takes.plain, takes.nullable, takes.nullEntry_eq]
  refine ⟨_, Report.result_of_nil rfl _, rfl, rfl, rfl, fun none => ?_, fun row within => ?_⟩
  · rw [show Rule.successes _ = [] from none, List.map_nil, List.map_eq_nil_iff] at rows
    exact takes.candidates_ne_nil rows
  · obtain ⟨name, listed, looked⟩ := List.mem_map.mp (Rule.mem_successes.mp within)
    obtain ⟨entry, known, same⟩ := takes.builtin_candidate listed
    obtain ⟨found, there, rfl⟩ := Rule.lookUp_eq_ok.mp looked
    cases same.symm.trans there
    exact builtin_keepsNull known

end NullableLeaf

-- What stands for null is seen from the structure of a value, however deep its lists go.
theorem null_by_structure :
    (∀ value canonical,
      check builtinTypes nullName value = .ok canonical ↔ StandsForNull value ∧ canonical = .null) ∧
    (∀ value, StandsForNull value → (∀ number, value ≠ .number number) ∧ (∀ truth, value ≠ .bool truth) ∧
      (∀ members, value ≠ .object members) ∧ ∀ first second rest, value ≠ .array (first :: second :: rest)) ∧
    ∀ registry text leaf, Leaf.read text = .ok leaf → NullableLeaf registry leaf →
      ∃ rule, Rule.compile registry text = .ok rule ∧
        ∀ value, rule.apply value = .ok .null ↔ StandsForNull value := by
  refine ⟨fun value canonical => ?_, fun value stands => ?_, fun registry text leaf read takes => ?_⟩
  · rw [check_eq_ok get?_null, null_eq_some_iff]
  · cases stands <;> simp
  · obtain ⟨rule, compiled, nulling⟩ := takes.exists_rule (Leaf.read_eq_ok.mp read)
    exact ⟨rule, compiled, nulling.apply_eq_null_iff⟩

theorem nullableLeaf_containers : NullableLeaf builtin ⟨["object", "int"], true, []⟩ := by
  refine ⟨rfl, rfl, fun name listed => ?_⟩
  simp only [List.mem_cons, List.not_mem_nil, or_false] at listed
  rcases listed with rfl | rfl | rfl
  · exact ⟨_, get?_null, get?_null⟩
  · exact ⟨_, get?_object, get?_object⟩
  · exact ⟨⟨int, false⟩, rfl, rfl⟩

-- The word at any depth is null; a text of brackets is an empty list, and two blanks are a list of two.
theorem deep_word_nulled :
    Leaf.read "object| null|int" = .ok ⟨["object", "int"], true, []⟩ ∧
    StandsForNull (.array [.array [.string "NuLL"]]) ∧ ¬ StandsForNull (.string "[]") ∧
    ¬ StandsForNull (.array [.string "", .string ""]) ∧
    ∃ rule, Rule.compile builtin "object| null|int" = .ok rule ∧
      rule.apply (.array [.array [.string "NuLL"]]) = .ok .null ∧ rule.apply (.string "[]") ≠ .ok .null ∧
      rule.apply (.array [.string "", .string ""]) ≠ .ok .null := by
  have read : Leaf.read "object| null|int" = .ok ⟨["object", "int"], true, []⟩ :=
    Leaf.read_eq_ok.mpr (by decide +kernel)
  obtain ⟨_, shape, leaves⟩ := null_by_structure
  obtain ⟨rule, compiled, nulls⟩ := leaves builtin _ _ read nullableLeaf_containers
  have word : StandsForNull (.array [.array [.string "NuLL"]]) := .single (.single (.string (.inr (by decide +kernel))))
  have brackets : ¬ StandsForNull (.string "[]") := by
    rintro (_ | word)
    revert word
    decide +kernel
  have blanks : ¬ StandsForNull (.array [.string "", .string ""]) := fun stands =>
    (shape _ stands).2.2.2 _ _ _ rfl
  exact ⟨read, word, brackets, blanks, rule, compiled, (nulls _).mpr word, mt (nulls _).mp brackets,
    mt (nulls _).mp blanks⟩

end Conform.Schema
