import Conform.Proofs.Schema.Walk
import Conform.Registry.Builtin

namespace Conform.Schema
open Report

namespace Node

theorem mem_recorded_message {message : String} {record : Record} :
    record ∈ recorded (.error (.ofMessage message) : Except Report α) ↔ record = ⟨[], message⟩ :=
  List.mem_singleton

theorem mem_recorded_object {fields : List (Key × Node)} {members : Members} {record : Record} :
    record ∈ recorded ((Node.object fields).validate (.object members)) ↔
      (∃ field ∈ fields, ∃ item, members.get? field.1.name = some item ∧
        ∃ inner ∈ recorded (field.2.validate item), record = inner.under [.key field.1.name]) ∨
      (∃ field ∈ fields, field.1.name ∉ members.keys ∧ field.1.optional = false ∧
        record = ⟨[.key field.1.name], "Missing"⟩) ∨
      (∃ name ∈ members.keys, (∀ field ∈ fields, field.1.name ≠ name) ∧ record = ⟨[.key name], "Out of bound"⟩) := by
  rw [validate_object, recorded_map, Outcomes.mem_recorded_gather]
  constructor
  · intro given
    obtain ⟨outcome, within, inner, held, rfl⟩ := given
    rcases List.mem_append.mp within with declared | stranger
    · obtain ⟨field, there, happened⟩ := List.mem_filterMap.mp declared
      rcases fieldOutcome?_eq_some.mp happened with ⟨item, found, rfl⟩ | ⟨absent, required, rfl⟩
      · rw [recorded_map] at held
        exact .inl ⟨field, there, item, found, inner, held, rfl⟩
      · cases mem_recorded_message.mp held
        exact .inr (.inl ⟨field, there, Members.get?_eq_none.mp absent, required, rfl⟩)
    · obtain ⟨name, present, undeclared, rfl⟩ := mem_strangers.mp stranger
      cases mem_recorded_message.mp held
      exact .inr (.inr ⟨name, present, undeclared, rfl⟩)
  · intro given
    rcases given with ⟨field, there, item, found, inner, held, rfl⟩ | ⟨field, there, absent, required, rfl⟩ |
      ⟨name, present, undeclared, rfl⟩
    · refine ⟨_, List.mem_append_left _ (List.mem_filterMap.mpr ⟨field, there,
        fieldOutcome?_eq_some.mpr (.inl ⟨item, found, rfl⟩)⟩), inner, ?_, rfl⟩
      rwa [recorded_map]
    · exact ⟨_, List.mem_append_left _ (List.mem_filterMap.mpr ⟨field, there,
        fieldOutcome?_eq_some.mpr (.inr ⟨Members.get?_eq_none.mpr absent, required, rfl⟩)⟩), ⟨[], "Missing"⟩,
        mem_recorded_message.mpr rfl, rfl⟩
    · exact ⟨_, List.mem_append_right _ (mem_strangers.mpr ⟨name, present, undeclared, rfl⟩), ⟨[], "Out of bound"⟩,
        mem_recorded_message.mpr rfl, rfl⟩

theorem mem_recorded_items {nodes : List Node} {values : List Json} {record : Record} :
    record ∈ recorded ((ofItems nodes).validate (.array values)) ↔
      (∃ position node value, itemAt? nodes position = some node ∧ values[position]? = some value ∧
        ∃ inner ∈ recorded (node.validate value), record = inner.under [.index position]) ∨
      (∃ position, itemAt? nodes position = none ∧ position < values.length ∧
        record = ⟨[.index position], "Out of bound"⟩) := by
  rw [validate_ofItems, recorded_map, Outcomes.mem_recorded_indexed]
  constructor
  · intro given
    obtain ⟨position, value, present, inner, held, rfl⟩ := given
    cases there : itemAt? nodes position with
    | some node =>
        rw [there] at held
        exact .inl ⟨position, node, value, there, present, inner, held, rfl⟩
    | none =>
        rw [there] at held
        cases mem_recorded_message.mp held
        exact .inr ⟨position, there, (List.getElem?_eq_some_iff.mp present).1, rfl⟩
  · intro given
    rcases given with ⟨position, node, value, there, present, inner, held, rfl⟩ | ⟨position, there, present, rfl⟩
    · refine ⟨position, value, present, inner, ?_, rfl⟩
      rwa [there]
    · refine ⟨position, values[position], List.getElem?_eq_getElem present, ⟨[], "Out of bound"⟩, ?_, rfl⟩
      rw [there]
      exact mem_recorded_message.mpr rfl

end Node

section Levels
variable {registry : Registry} {value : Json} {record : Record}

theorem faulty_string {text : String} {rule : Rule} (compiled : Rule.compile registry text = .ok rule) :
    record ∈ recorded (rule.apply value) ↔ Faulty registry (.string text) value record.path record.message := by
  rw [faulty_iff]
  constructor
  · intro held
    cases refused : rule.apply value with
    | ok result => rw [refused] at held; cases held
    | error report =>
        obtain ⟨message, rfl⟩ := Rule.apply_error refused
        rw [refused] at held
        cases Node.mem_recorded_message.mp held
        exact .inl (.leaf compiled refused)
  · intro given
    rcases given with flaw | ⟨_, _, _, _, below, _⟩
    · obtain ⟨path, message⟩ := record
      cases flaw with
      | leaf other refused =>
          cases compiled.symm.trans other
          rw [refused]
          exact Node.mem_recorded_message.mpr rfl
    · cases below

theorem faulty_object_other {fields : Members} (other : ∀ members, value ≠ .object members) :
    record = ⟨[], "Expected: object; Received: " ++ value.toText⟩ ↔
      Faulty registry (.object fields) value record.path record.message := by
  obtain ⟨path, message⟩ := record
  rw [faulty_iff]
  constructor
  · intro same
    cases same
    exact .inl (.notObject other)
  · intro given
    rcases given with flaw | ⟨_, _, _, _, below, _⟩
    · cases flaw with
      | notObject => rfl
      | missing => exact absurd rfl (other _)
      | stranger => exact absurd rfl (other _)
    · cases below
      exact absurd rfl (other _)

theorem faulty_array_other {items : List Json} (other : ∀ values, value ≠ .array values) :
    record = ⟨[], "Expected: array; Received: " ++ value.toText⟩ ↔
      Faulty registry (.array items) value record.path record.message := by
  obtain ⟨path, message⟩ := record
  rw [faulty_iff]
  constructor
  · intro same
    cases same
    exact .inl (.notArray other)
  · intro given
    rcases given with flaw | ⟨_, _, _, _, below, _⟩
    · cases flaw with
      | notArray => rfl
      | pastEnd => exact absurd rfl (other _)
    · cases below
      exact absurd rfl (other _)

-- The records of a node are the faults of its schema, whatever the value.
def Exact (registry : Registry) (schema : Json) : Prop :=
  ∀ node, Node.compile registry schema = .ok node → ∀ value record,
    record ∈ recorded (node.validate value) ↔ Faulty registry schema value record.path record.message

theorem exact_object {fields members : Members} {nodes : List (Key × Node)}
    (compiled : fields.map (Node.compileMember registry) = nodes.map Except.ok)
    (below : ∀ field ∈ fields, Exact registry field.2) :
    record ∈ recorded ((Node.object nodes).validate (.object members)) ↔
      Faulty registry (.object fields) (.object members) record.path record.message := by
  rw [Node.mem_recorded_object, faulty_iff]
  constructor
  · intro given
    rcases given with ⟨field, there, item, found, inner, held, rfl⟩ | ⟨field, there, absent, required, rfl⟩ |
      ⟨name, present, undeclared, rfl⟩
    · obtain ⟨⟨text, part⟩, within, key, child⟩ := Node.mem_fields compiled there
      rw [key] at found ⊢
      have deeper := (below _ within _ child item inner).mp held
      exact .inr ⟨_, part, item, inner.path, .key within found, deeper, rfl⟩
    · obtain ⟨⟨text, part⟩, within, key, _⟩ := Node.mem_fields compiled there
      rw [key] at absent required ⊢
      exact .inl (.missing within required absent)
    · refine .inl (.stranger present fun field within => ?_)
      obtain ⟨node, _, there⟩ := Node.exists_field compiled within
      exact undeclared _ there
  · obtain ⟨path, message⟩ := record
    intro given
    rcases given with flaw | ⟨_, _, item, rest, step, deeper, same⟩
    · cases flaw with
      | notObject other => exact absurd rfl (other _)
      | missing within required absent =>
          obtain ⟨node, _, there⟩ := Node.exists_field compiled within
          exact .inr (.inl ⟨_, there, absent, required, rfl⟩)
      | stranger present undeclared =>
          refine .inr (.inr ⟨_, present, fun field there => ?_, rfl⟩)
          obtain ⟨member, within, key, _⟩ := Node.mem_fields compiled there
          rw [key]
          exact undeclared member within
    · cases same
      cases step with
      | key within found =>
          obtain ⟨node, child, there⟩ := Node.exists_field compiled within
          have held := (below _ within node child item ⟨rest, message⟩).mpr deeper
          exact .inl ⟨_, there, item, found, ⟨rest, message⟩, held, rfl⟩

theorem exact_items {items values : List Json} {nodes : List Node}
    (compiled : (itemSchemas items).map (Node.compile registry) = nodes.map Except.ok)
    (below : ∀ item ∈ itemSchemas items, Exact registry item) :
    record ∈ recorded ((Node.ofItems nodes).validate (.array values)) ↔
      Faulty registry (.array items) (.array values) record.path record.message := by
  rw [Node.mem_recorded_items, faulty_iff]
  constructor
  · intro given
    rcases given with ⟨position, node, value, there, present, inner, held, rfl⟩ | ⟨position, there, present, rfl⟩
    · obtain ⟨part, inside, child⟩ := Node.exists_part compiled there
      have deeper := (below part (mem_of_itemAt? inside) node child value inner).mp held
      exact .inr ⟨_, part, value, inner.path, .index inside present, deeper, rfl⟩
    · obtain ⟨several, past⟩ := itemAt?_itemSchemas_eq_none.mp ((Node.itemAt?_nodes_eq_none compiled).mp there)
      exact .inl (.pastEnd several past present)
  · obtain ⟨path, message⟩ := record
    intro given
    rcases given with flaw | ⟨_, part, value, rest, step, deeper, same⟩
    · cases flaw with
      | notArray other => exact absurd rfl (other _)
      | pastEnd several past present =>
          have there := (Node.itemAt?_nodes_eq_none compiled).mpr (itemAt?_itemSchemas_eq_none.mpr ⟨several, past⟩)
          exact .inr ⟨_, there, present, rfl⟩
    · cases same
      cases step with
      | index inside present =>
          obtain ⟨node, child, there⟩ := Node.exists_node compiled inside
          have held := (below part (mem_of_itemAt? inside) node child value ⟨rest, message⟩).mpr deeper
          exact .inl ⟨_, node, value, there, present, ⟨rest, message⟩, held, rfl⟩

theorem exact_schema (registry : Registry) (schema : Json) : Exact registry schema := by
  induction schema using schemaInduction with
  | null | bool | number =>
      intro node compiled
      simp [Node.compile, Node.invalid] at compiled
  | string text =>
      intro node compiled value record
      rw [Node.compile] at compiled
      obtain ⟨rule, leaf, rfl⟩ := map_eq_ok.mp compiled
      rw [Node.validate]
      exact faulty_string leaf
  | array items below =>
      intro node compiled value record
      obtain ⟨nodes, all, rfl⟩ := Node.compile_array_eq_ok.mp compiled
      cases value with
      | array values => exact exact_items all below
      | _ =>
          rw [Node.validate_ofItems_other _ (by simp), Node.mismatch, Node.mem_recorded_message]
          exact faulty_array_other (by simp)
  | object fields below =>
      intro node compiled value record
      obtain ⟨nodes, _, all, rfl⟩ := Node.compile_object_eq_ok.mp compiled
      cases value with
      | object members => exact exact_object all below
      | _ =>
          rw [Node.validate_object_other _ (by simp), Node.mismatch, Node.mem_recorded_message]
          exact faulty_object_other (by simp)

end Levels

namespace Node

end Node

end Conform.Schema
