import Conform.Proofs.Json.Structure
import Conform.Proofs.Schema.Outcomes

namespace Conform.Schema
open Report

-- A single item stands for every position.
def itemAt? : List α → Nat → Option α
  | [item], _ => some item
  | items, position => items[position]?

-- The items of a list schema; a list without any is one of anything.
def itemSchemas : List Json → List Json
  | [] => [.string "any"]
  | items => items

theorem itemAt?_map (change : α → β) (items : List α) (position : Nat) :
    itemAt? (items.map change) position = (itemAt? items position).map change := by
  match items with
  | [] => simp [itemAt?]
  | [item] => rfl
  | first :: second :: rest =>
      show ((first :: second :: rest).map change)[position]? = (first :: second :: rest)[position]?.map change
      exact List.getElem?_map

theorem mem_of_itemAt? {items : List α} {position : Nat} {item : α} (found : itemAt? items position = some item) :
    item ∈ items := by
  unfold itemAt? at found
  split at found
  · cases found; exact List.mem_singleton_self _
  · exact List.mem_of_getElem? found

theorem itemAt?_eq_none {items : List α} {position : Nat} :
    itemAt? items position = none ↔ items.length ≠ 1 ∧ items.length ≤ position := by
  match items with
  | [] => simp [itemAt?]
  | [item] => simp [itemAt?]
  | first :: second :: rest =>
      show (first :: second :: rest)[position]? = none ↔ _
      simp

-- A list with a single item has no end.
theorem itemAt?_itemSchemas_eq_none {items : List Json} {position : Nat} :
    itemAt? (itemSchemas items) position = none ↔ 2 ≤ items.length ∧ items.length ≤ position := by
  rw [itemAt?_eq_none]
  cases items with
  | nil => simp [itemSchemas]
  | cons item rest =>
      simp only [itemSchemas, List.length_cons]
      omega

-- Induction over schemas, where a list without items has the item that it stands for.
@[elab_as_elim]
theorem schemaInduction {motive : Json → Prop} (null : motive .null) (bool : ∀ value, motive (.bool value))
    (number : ∀ value, motive (.number value)) (string : ∀ text, motive (.string text))
    (array : ∀ items, (∀ item ∈ itemSchemas items, motive item) → motive (.array items))
    (object : ∀ members : Members, (∀ member ∈ members, motive member.2) → motive (.object members))
    (schema : Json) : motive schema := by
  induction schema using Json.induction with
  | null => exact null
  | bool value => exact bool value
  | number value => exact number value
  | string text => exact string text
  | object members ih => exact object members ih
  | array items ih =>
      refine array items fun item within => ?_
      cases items with
      | nil => cases List.mem_singleton.mp within; exact string _
      | cons => exact ih item within

namespace Rule

theorem explained_compile (registry : Registry) (text : String) : Explained (compile registry text) := by
  unfold compile
  dsimp only
  split
  · exact explained_message _
  · exact explained_result _ _

-- Whatever a leaf has against a value is one message, at the leaf itself.
theorem apply_error {rule : Rule} {value : Json} {report : Report} (refused : rule.apply value = .error report) :
    ∃ message, report = .ofMessage message := by
  unfold apply at refused
  split at refused
  · cases refused
  · cases refused; exact ⟨_, rfl⟩
  · rename_i canonical _
    cases run : rule.transforms.foldlM (fun (current : Json) (transform : Transform) => transform current)
        canonical with
    | error message => rw [run] at refused; cases refused; exact ⟨message, rfl⟩
    | ok result => rw [run] at refused; cases refused

end Rule

namespace Node

theorem compileItems_eq (registry : Registry) (position : Nat) (schemas : List Json) :
    compileItems registry position schemas =
      schemas.mapIdx fun index schema => (.index (position + index), compile registry schema) := by
  induction schemas generalizing position with
  | nil => rfl
  | cons schema rest ih =>
      rw [compileItems, ih, List.mapIdx_cons]
      simp only [Nat.add_zero, Nat.add_assoc, Nat.add_comm 1]

theorem compile_array (registry : Registry) (items : List Json) :
    compile registry (.array items) =
      (Outcomes.indexed (fun _ => compile registry) (itemSchemas items)).gather.map ofItems := by
  cases items with
  | nil => simp [compile, itemSchemas, Outcomes.indexed]
  | cons item rest => simp [compile, compileItems_eq, itemSchemas, Outcomes.indexed]

theorem explained_compile (registry : Registry) (schema : Json) : Explained (compile registry schema) := by
  cases schema with
  | null | bool | number => exact explained_message _
  | string text => exact explained_map (Rule.explained_compile registry text)
  | array items => rw [compile_array]; exact explained_map (Outcomes.explained_gather _)
  | object members => exact explained_map (Outcomes.explained_gather _)

theorem compile_array_eq_ok {registry : Registry} {items : List Json} {node : Node} :
    compile registry (.array items) = .ok node ↔
      ∃ nodes, (itemSchemas items).map (compile registry) = nodes.map Except.ok ∧ node = ofItems nodes := by
  have explained (_ : Nat) (schema : Json) := explained_compile registry schema
  have positions : (itemSchemas items).mapIdx (fun _ => compile registry) =
      (itemSchemas items).map (compile registry) := by
    apply List.ext_getElem?
    intro position
    rw [List.getElem?_mapIdx, List.getElem?_map]
  simp only [compile_array, map_eq_ok, Outcomes.indexed_gather_eq_ok explained, positions]

def compileMember (registry : Registry) (member : String × Json) : Except Report (Key × Node) :=
  (compile registry member.2).map ((Key.ofText member.1, ·))

theorem compileMembers_eq_ok {registry : Registry} {declared : List String} {members : Members}
    {fields : List (Key × Node)} :
    (compileMembers registry declared members).map Prod.snd = fields.map Except.ok ↔
      (∀ member ∈ members, (Key.ofText member.1).name ∉ declared) ∧
      (members.map fun member => (Key.ofText member.1).name).Nodup ∧
      members.map (compileMember registry) = fields.map Except.ok := by
  induction members generalizing declared fields with
  | nil => simp [compileMembers]
  | cons member rest ih =>
      obtain ⟨text, schema⟩ := member
      unfold compileMembers
      dsimp only
      split
      · rename_i taken
        refine ⟨fun all => ?_, fun ⟨fresh, _⟩ => ?_⟩
        · cases fields <;> cases all
        · exact absurd (List.contains_iff_mem.mp taken) (fresh _ (List.mem_cons_self ..))
      · rename_i fresh
        simp only [List.contains_iff_mem] at fresh
        cases fields with
        | nil => simp
        | cons field fields =>
            simp only [List.map_cons, List.cons.injEq, ih, List.nodup_cons, List.mem_map, List.mem_cons, not_or]
            constructor
            · intro given
              obtain ⟨first, apart, distinct, later⟩ := given
              refine ⟨?_, ⟨?_, distinct⟩, first, later⟩
              · intro member either
                rcases either with rfl | within
                · exact fresh
                · exact (apart member within).2
              · intro given
                obtain ⟨member, within, same⟩ := given
                exact (apart member within).1 same
            · intro given
              obtain ⟨new, ⟨other, distinct⟩, first, later⟩ := given
              refine ⟨first, fun member within => ⟨?_, new member (.inr within)⟩, distinct, later⟩
              exact fun same => other ⟨member, within, same⟩

theorem explained_compileMembers (registry : Registry) (declared : List String) (members : Members) :
    ∀ outcome ∈ compileMembers registry declared members, Explained outcome.2 := by
  induction members generalizing declared with
  | nil => intro outcome within; cases within
  | cons member rest ih =>
      obtain ⟨text, schema⟩ := member
      unfold compileMembers
      dsimp only
      split
      · intro outcome within
        rcases List.mem_cons.mp within with rfl | later
        · exact explained_message _
        · exact ih _ outcome later
      · intro outcome within
        rcases List.mem_cons.mp within with rfl | later
        · exact explained_map (explained_compile registry schema)
        · exact ih _ outcome later

theorem compile_object_eq_ok {registry : Registry} {members : Members} {node : Node} :
    compile registry (.object members) = .ok node ↔
      ∃ fields, (members.map fun member => (Key.ofText member.1).name).Nodup ∧
        members.map (compileMember registry) = fields.map Except.ok ∧ node = .object fields := by
  have explained := explained_compileMembers registry [] members
  simp only [compile, map_eq_ok, Outcomes.gather_eq_ok explained, compileMembers_eq_ok, List.not_mem_nil,
    not_false_eq_true, implies_true, true_and, and_assoc]

section Fields
variable {registry : Registry} {members : Members} {fields : List (Key × Node)}

theorem mem_fields (compiled : members.map (compileMember registry) = fields.map Except.ok) {field : Key × Node}
    (within : field ∈ fields) :
    ∃ member ∈ members, field.1 = Key.ofText member.1 ∧ compile registry member.2 = .ok field.2 := by
  have result : Except.ok field ∈ members.map (compileMember registry) := compiled ▸ List.mem_map_of_mem within
  obtain ⟨member, found, same⟩ := List.mem_map.mp result
  obtain ⟨node, child, rfl⟩ := map_eq_ok.mp same
  exact ⟨member, found, rfl, child⟩

theorem exists_field (compiled : members.map (compileMember registry) = fields.map Except.ok)
    {member : String × Json} (within : member ∈ members) :
    ∃ node, compile registry member.2 = .ok node ∧ (Key.ofText member.1, node) ∈ fields := by
  have result : compileMember registry member ∈ fields.map Except.ok := compiled ▸ List.mem_map_of_mem within
  obtain ⟨field, found, same⟩ := List.mem_map.mp result
  obtain ⟨node, child, rfl⟩ := map_eq_ok.mp same.symm
  exact ⟨node, child, found⟩

theorem names_fields (compiled : members.map (compileMember registry) = fields.map Except.ok) :
    (fields.map fun field => field.1.name) = members.map fun member => (Key.ofText member.1).name := by
  induction members generalizing fields with
  | nil => cases fields with
      | nil => rfl
      | cons => cases compiled
  | cons member rest ih =>
      cases fields with
      | nil => cases compiled
      | cons field fields =>
          simp only [List.map_cons, List.cons.injEq] at compiled ⊢
          obtain ⟨first, later⟩ := compiled
          obtain ⟨node, _, rfl⟩ := map_eq_ok.mp first
          exact ⟨rfl, ih later⟩

end Fields

theorem itemAt?_compiled {registry : Registry} {schemas : List Json} {nodes : List Node}
    (compiled : schemas.map (compile registry) = nodes.map Except.ok) (position : Nat) :
    (itemAt? schemas position).map (compile registry) = (itemAt? nodes position).map Except.ok := by
  rw [← itemAt?_map, compiled, itemAt?_map]

theorem exists_node {registry : Registry} {schemas : List Json} {nodes : List Node}
    (compiled : schemas.map (compile registry) = nodes.map Except.ok) {position : Nat} {part : Json}
    (inside : itemAt? schemas position = some part) :
    ∃ node, compile registry part = .ok node ∧ itemAt? nodes position = some node := by
  have agree := itemAt?_compiled compiled position
  rw [inside, Option.map_some] at agree
  obtain ⟨node, there, same⟩ := Option.map_eq_some_iff.mp agree.symm
  exact ⟨node, same.symm, there⟩

theorem exists_part {registry : Registry} {schemas : List Json} {nodes : List Node}
    (compiled : schemas.map (compile registry) = nodes.map Except.ok) {position : Nat} {node : Node}
    (there : itemAt? nodes position = some node) :
    ∃ part, itemAt? schemas position = some part ∧ compile registry part = .ok node := by
  have agree := itemAt?_compiled compiled position
  rw [there, Option.map_some] at agree
  exact Option.map_eq_some_iff.mp agree

theorem itemAt?_nodes_eq_none {registry : Registry} {schemas : List Json} {nodes : List Node}
    (compiled : schemas.map (compile registry) = nodes.map Except.ok) {position : Nat} :
    itemAt? nodes position = none ↔ itemAt? schemas position = none := by
  have agree := itemAt?_compiled compiled position
  rw [← Option.map_eq_none_iff (f := Except.ok (ε := Report)), ← agree, Option.map_eq_none_iff]

-- What becomes of the value of a field; nothing does where an optional key is absent.
def fieldOutcome? (members : Members) (field : Key × Node) : Option (Segment × Except Report (String × Json)) :=
  match members.get? field.1.name with
  | some item => some (.key field.1.name, (field.2.validate item).map ((field.1.name, ·)))
  | none => if field.1.optional then none else some (.key field.1.name, .error (.ofMessage "Missing"))

theorem validateFields_eq (fields : List (Key × Node)) (members : Members) :
    validateFields fields members = fields.filterMap (fieldOutcome? members) := by
  induction fields with
  | nil => rfl
  | cons field rest ih =>
      obtain ⟨key, node⟩ := field
      rw [validateFields, List.filterMap_cons, fieldOutcome?, ih]
      cases members.get? key.name with
      | some item => rfl
      | none => cases key.optional <;> rfl

theorem validate_object (fields : List (Key × Node)) (members : Members) :
    (Node.object fields).validate (.object members) =
      (Outcomes.gather (fields.filterMap (fieldOutcome? members) ++ strangers fields members)).map .object := by
  rw [validate, validateFields_eq]

theorem fieldOutcome?_eq_some {members : Members} {field : Key × Node}
    {outcome : Segment × Except Report (String × Json)} :
    fieldOutcome? members field = some outcome ↔
      (∃ item, members.get? field.1.name = some item ∧
        outcome = (.key field.1.name, (field.2.validate item).map ((field.1.name, ·)))) ∨
      (members.get? field.1.name = none ∧ field.1.optional = false ∧
        outcome = (.key field.1.name, .error (.ofMessage "Missing"))) := by
  unfold fieldOutcome?
  cases found : members.get? field.1.name with
  | some item =>
      constructor
      · intro same; cases same; exact .inl ⟨item, rfl, rfl⟩
      · intro given
        rcases given with ⟨_, same, rfl⟩ | ⟨absent, _⟩
        · cases same; rfl
        · cases absent
  | none =>
      cases required : field.1.optional with
      | true => simp
      | false =>
          constructor
          · intro happened; cases happened; exact .inr ⟨rfl, rfl, rfl⟩
          · intro given
            rcases given with ⟨_, same, _⟩ | ⟨_, _, rfl⟩
            · cases same
            · rfl

theorem mem_strangers {fields : List (Key × Node)} {members : Members}
    {outcome : Segment × Except Report (String × Json)} :
    outcome ∈ strangers fields members ↔
      ∃ name ∈ members.keys, (∀ field ∈ fields, field.1.name ≠ name) ∧ outcome = (.key name, .error outOfBound) := by
  simp only [strangers, List.mem_map, List.mem_filter, Bool.not_eq_true', List.any_eq_false, beq_iff_eq, ne_eq]
  constructor
  · intro given
    obtain ⟨name, ⟨present, undeclared⟩, rfl⟩ := given
    exact ⟨name, present, undeclared, rfl⟩
  · intro given
    obtain ⟨name, present, undeclared, rfl⟩ := given
    exact ⟨name, ⟨present, undeclared⟩, rfl⟩

theorem validate_object_other (fields : List (Key × Node)) {value : Json}
    (other : ∀ members, value ≠ .object members) :
    (Node.object fields).validate value = .error (mismatch "object" value) := by
  cases value with
  | object members => exact absurd rfl (other members)
  | _ => simp only [validate]

-- What becomes of a value where the schema has a node, and where it has none.
def resultOf : Option Node → Json → Except Report Json
  | some node, value => node.validate value
  | none, _ => .error outOfBound

theorem validateItems_eq (nodes : List Node) (position : Nat) (values : List Json) :
    validateItems nodes position values =
      values.mapIdx fun index value => (.index (position + index), resultOf nodes[index]? value) := by
  induction values generalizing nodes position with
  | nil => cases nodes <;> simp [validateItems]
  | cons value rest ih =>
      cases nodes with
      | nil => simp [validateItems, resultOf]
      | cons node nodes =>
          rw [validateItems, ih, List.mapIdx_cons]
          simp only [Nat.add_zero, Nat.add_assoc, Nat.add_comm 1, List.getElem?_cons_zero, List.getElem?_cons_succ,
            resultOf]

theorem validate_ofItems (nodes : List Node) (values : List Json) :
    (ofItems nodes).validate (.array values) =
      (Outcomes.indexed (fun position => resultOf (itemAt? nodes position)) values).gather.map .array := by
  match nodes with
  | [] => simp [ofItems, validate, validateItems_eq, Outcomes.indexed, itemAt?]
  | [node] => simp [ofItems, validate, Outcomes.indexed, itemAt?, resultOf]
  | first :: second :: rest => simp [ofItems, validate, validateItems_eq, Outcomes.indexed, itemAt?]

theorem validate_ofItems_other (nodes : List Node) {value : Json} (other : ∀ values, value ≠ .array values) :
    (ofItems nodes).validate value = .error (mismatch "array" value) := by
  unfold ofItems
  split <;> cases value with
    | array values => exact absurd rfl (other values)
    | _ => simp only [validate]

theorem explained_validate (node : Node) (value : Json) : Explained (node.validate value) := by
  cases node with
  | leaf rule =>
      intro report refused
      rw [validate] at refused
      obtain ⟨message, rfl⟩ := Rule.apply_error refused
      rfl
  | object fields =>
      cases value with
      | object members => rw [validate_object]; exact explained_map (Outcomes.explained_gather _)
      | _ => simp only [validate]; exact explained_message _
  | list item =>
      cases value with
      | array values => simp only [validate]; exact explained_map (Outcomes.explained_gather _)
      | _ => simp only [validate]; exact explained_message _
  | tuple items =>
      cases value with
      | array values => simp only [validate]; exact explained_map (Outcomes.explained_gather _)
      | _ => simp only [validate]; exact explained_message _

theorem explained_fields (fields : List (Key × Node)) (members : Members) :
    ∀ outcome ∈ fields.filterMap (fieldOutcome? members) ++ strangers fields members,
      Explained outcome.2 := by
  intro outcome within
  rcases List.mem_append.mp within with declared | stranger
  · obtain ⟨field, _, happened⟩ := List.mem_filterMap.mp declared
    rcases fieldOutcome?_eq_some.mp happened with ⟨_, _, rfl⟩ | ⟨_, _, rfl⟩
    · exact explained_map (explained_validate _ _)
    · exact explained_message _
  · obtain ⟨_, _, _, rfl⟩ := mem_strangers.mp stranger
    exact explained_message _

theorem explained_resultOf (node : Option Node) (value : Json) : Explained (resultOf node value) := by
  cases node with
  | some node => exact explained_validate node value
  | none => exact explained_message _

theorem exists_validated {registry : Registry} {schema value : Json} {text : String}
    (run : ((compile registry schema).bind (·.validate value)).toOption.map Json.toText = some text) :
    ∃ node result, compile registry schema = .ok node ∧ node.validate value = .ok result ∧ result.toText = text := by
  cases compiled : compile registry schema with
  | error report => rw [compiled] at run; cases run
  | ok node =>
      rw [compiled] at run
      change (node.validate value).toOption.map Json.toText = some text at run
      cases validated : node.validate value with
      | error report => rw [validated] at run; cases run
      | ok result =>
          rw [validated] at run
          exact ⟨node, result, rfl, validated, Option.some.inj run⟩

end Node
end Conform.Schema
