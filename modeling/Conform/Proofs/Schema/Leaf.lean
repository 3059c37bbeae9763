import Conform.Proofs.Schema.Outcomes

namespace Conform.Report

theorem result_of_nil {report : Report} (nothing : report.records = []) (value : α) : report.result value = .ok value :=
  if_pos (List.isEmpty_iff.mpr nothing)

theorem result_of_ne_nil {report : Report} (held : report.records ≠ []) (value : α) :
    report.result value = .error report :=
  if_neg fun nothing => held (List.isEmpty_iff.mp nothing)

end Conform.Report

namespace Conform.Schema.Rule

@[simp] theorem failures_map_ok (values : List α) : failures (values.map Except.ok) = [] := by
  induction values with
  | nil => rfl
  | cons value rest ih => exact ih

@[simp] theorem successes_map_ok (values : List α) : successes (values.map Except.ok) = values := by
  induction values with
  | nil => rfl
  | cons value rest ih => exact congrArg (value :: ·) ih

theorem mem_successes {results : List (Except String α)} {value : α} :
    value ∈ successes results ↔ .ok value ∈ results := by
  simp only [successes, List.mem_filterMap]
  constructor
  · intro found
    obtain ⟨result, within, same⟩ := found
    cases result with
    | error message => cases same
    | ok other => cases same; exact within
  · exact fun within => ⟨.ok value, within, rfl⟩

theorem failures_eq_nil {results : List (Except String α)} :
    failures results = [] ↔ ∀ result ∈ results, ∃ value, result = .ok value := by
  induction results with
  | nil => simp [failures]
  | cons result rest ih =>
      rw [List.forall_mem_cons, ← ih]
      cases result with
      | error message => exact ⟨fun none => (by cases none), fun given => by obtain ⟨⟨_, same⟩, _⟩ := given; cases same⟩
      | ok value => exact ⟨fun none => ⟨⟨value, rfl⟩, none⟩, And.right⟩

theorem eq_map_ok_of_failures {results : List (Except String α)} (none : failures results = []) :
    results = (successes results).map Except.ok := by
  induction results with
  | nil => rfl
  | cons result rest ih =>
      cases result with
      | error message => cases none
      | ok value => exact congrArg (.ok value :: ·) (ih none)

theorem compile_of_read {text : String} {leaf : Leaf} (read : Leaf.readPartial text = (leaf, none))
    (some : leaf.candidates ≠ []) (registry : Registry) :
    compile registry text =
      Report.result ⟨(failures (leaf.calls.map (Registry.instantiate registry.transforms)) ++
          failures (leaf.candidates.map (lookUp registry.types))).map .here⟩
        { types := successes (leaf.candidates.map (lookUp registry.types))
          nullable := leaf.nullable
          nullEntry := Registry.nullEntry registry.types
          transforms := successes (leaf.calls.map (Registry.instantiate registry.transforms))
          expected := leaf.expected } := by
  rw [compile, read]
  dsimp only
  rw [if_neg fun empty => some (List.isEmpty_iff.mp empty), Option.toList_none, List.map_nil, List.append_nil]

-- A leaf that compiles was read to the end, and all that it names was found.
theorem parts_of_compile {registry : Registry} {text : String} {rule : Rule} (compiled : compile registry text = .ok rule) :
    ∃ leaf, Leaf.readPartial text = (leaf, none) ∧ leaf.candidates ≠ [] ∧
      failures (leaf.candidates.map (lookUp registry.types)) = [] ∧
      rule.types = successes (leaf.candidates.map (lookUp registry.types)) ∧ rule.nullable = leaf.nullable ∧
      rule.nullEntry = Registry.nullEntry registry.types ∧
      rule.transforms = successes (leaf.calls.map (Registry.instantiate registry.transforms)) := by
  unfold compile at compiled
  rcases read : Leaf.readPartial text with ⟨leaf, fault⟩
  rw [read] at compiled
  dsimp only at compiled
  split at compiled
  · cases compiled
  · rename_i named
    have candidates : leaf.candidates ≠ [] := fun none => named (List.isEmpty_iff.mpr none)
    unfold Report.result at compiled
    split at compiled
    · rename_i silent
      cases compiled
      simp only [Report.isEmpty, List.isEmpty_iff, List.map_eq_nil_iff, List.append_eq_nil_iff] at silent
      obtain ⟨⟨_, unfaulted⟩, found⟩ := silent
      cases fault with
      | none => exact ⟨leaf, rfl, candidates, found, rfl, rfl, rfl, rfl⟩
      | some fault => cases unfaulted
    · cases compiled

-- The first type decides about a value that stands for null, and any other value is none.
theorem matchTypes_of_not_null {rule : Rule} {value : Json} (other : rule.isNull value = false)
    (types : List (String × TypeEntry)) : rule.matchTypes value types ≠ .null := by
  induction types with
  | nil => exact Match.noConfusion
  | cons first rest ih =>
      obtain ⟨name, entry⟩ := first
      rw [matchTypes, other]
      cases entry.coerce value with
      | some canonical => simp
      | none => simpa using ih

theorem matchTypes_eq_null {rule : Rule} {value : Json} {types : List (String × TypeEntry)} :
    rule.matchTypes value types = .null ↔
      rule.isNull value = true ∧ ∃ first rest, types = first :: rest ∧ first.2.nullAfter = false := by
  cases null : rule.isNull value with
  | false => simp [matchTypes_of_not_null null]
  | true =>
      cases types with
      | nil => simp [matchTypes]
      | cons first rest =>
          obtain ⟨name, entry⟩ := first
          rw [matchTypes, null]
          cases after : entry.nullAfter with
          | false => simp [after]
          | true => cases entry.coerce value <;> simp [after]

end Conform.Schema.Rule
