import Conform.Proofs.Schema.Level
import Conform.Registry.Builtin

namespace Conform.Schema
open Report (map_eq_ok)

-- What a document may be whose schema and value are given, said without the code that makes it.
inductive Canonical (registry : Registry) : Json → Json → Json → Prop
  | leaf (compiled : Rule.compile registry text = .ok rule) (applied : rule.apply value = .ok result) :
      Canonical registry (.string text) value result
  | object {fields members results : Members}
      (keys : results.keys = (fields.map fun field => (Key.ofText field.1).name).filter members.has)
      (required : ∀ field ∈ fields, (Key.ofText field.1).optional = false →
        (Key.ofText field.1).name ∈ members.keys)
      (known : ∀ name ∈ members.keys, ∃ field ∈ fields, (Key.ofText field.1).name = name)
      (below : ∀ field ∈ fields, ∀ item result, members.get? (Key.ofText field.1).name = some item →
        results.get? (Key.ofText field.1).name = some result → Canonical registry field.2 item result) :
      Canonical registry (.object fields) (.object members) (.object results)
  | array {items values results : List Json} (length : results.length = values.length)
      (bounded : 2 ≤ items.length → values.length ≤ items.length)
      (below : ∀ position part value result, itemAt? (itemSchemas items) position = some part →
        values[position]? = some value → results[position]? = some result → Canonical registry part value result) :
      Canonical registry (.array items) (.array values) (.array results)

namespace Node

-- The members that the fields of an object make of those of a value.
structure Filled (fields : List (Key × Node)) (members results : Members) : Prop where
  keys : results.keys = (fields.map fun field => field.1.name).filter members.has
  required : ∀ field ∈ fields, field.1.optional = false → field.1.name ∈ members.keys
  below : ∀ field ∈ fields, ∀ item result, members.get? field.1.name = some item →
    results.get? field.1.name = some result → field.2.validate item = .ok result

theorem Filled.of_cons {field : Key × Node} {fields : List (Key × Node)} {members results : Members}
    (apart : field.1.name ∉ fields.map fun field => field.1.name) {canonical : Json}
    (filled : Filled (field :: fields) members ((field.1.name, canonical) :: results))
    (present : field.1.name ∈ members.keys) : Filled fields members results := by
  have here := Members.has_eq_true.mpr present
  refine ⟨?_, fun next within => filled.required next (List.mem_cons_of_mem _ within), ?_⟩
  · have keys := filled.keys
    rw [List.map_cons, List.filter_cons_of_pos here, Members.keys_cons] at keys
    exact (List.cons.inj keys).2
  · intro next within item result found stored
    refine filled.below next (List.mem_cons_of_mem _ within) item result found ?_
    rw [Members.get?_cons_of_ne _ fun same => apart (by
      rw [show field.1.name = next.1.name from same]
      exact List.mem_map_of_mem within)]
    exact stored

theorem Filled.cons {field : Key × Node} {fields : List (Key × Node)} {members results : Members}
    {item canonical : Json} (apart : field.1.name ∉ fields.map fun field => field.1.name)
    (found : members.get? field.1.name = some item)
    (validated : field.2.validate item = .ok canonical) (filled : Filled fields members results) :
    Filled (field :: fields) members ((field.1.name, canonical) :: results) := by
  have present := Members.mem_keys_of_get? found
  have here := Members.has_eq_true.mpr present
  refine ⟨?_, ?_, ?_⟩
  · rw [List.map_cons, List.filter_cons_of_pos here, Members.keys_cons, filled.keys]
  · intro next within required
    rcases List.mem_cons.mp within with rfl | later
    · exact present
    · exact filled.required next later required
  · intro next within other result has stored
    rcases List.mem_cons.mp within with rfl | later
    · rw [Members.get?_cons, if_pos rfl] at stored
      cases stored
      cases found.symm.trans has
      exact validated
    · refine filled.below next later other result has ?_
      rwa [Members.get?_cons_of_ne _ fun same => apart (by
        rw [show field.1.name = next.1.name from same]
        exact List.mem_map_of_mem later)] at stored

theorem filled_cons_absent {field : Key × Node} {fields : List (Key × Node)} {members results : Members}
    (absent : members.get? field.1.name = none) (optional : field.1.optional = true) :
    Filled (field :: fields) members results ↔ Filled fields members results := by
  have missing : ¬ members.has field.1.name = true := fun here =>
    Members.get?_eq_none.mp absent (Members.has_eq_true.mp here)
  constructor
  · intro filled
    refine ⟨?_, fun next within => filled.required next (List.mem_cons_of_mem _ within),
      fun next within => filled.below next (List.mem_cons_of_mem _ within)⟩
    rw [filled.keys, List.map_cons, List.filter_cons_of_neg missing]
  · intro filled
    refine ⟨?_, ?_, ?_⟩
    · rw [List.map_cons, List.filter_cons_of_neg missing, filled.keys]
    · intro next within required
      rcases List.mem_cons.mp within with rfl | later
      · cases optional.symm.trans required
      · exact filled.required next later required
    · intro next within item result found
      rcases List.mem_cons.mp within with rfl | later
      · cases absent.symm.trans found
      · exact filled.below next later item result found

theorem fields_eq_ok {fields : List (Key × Node)} {members results : Members}
    (distinct : (fields.map fun field => field.1.name).Nodup) :
    (fields.filterMap (fieldOutcome? members)).map Prod.snd = results.map Except.ok ↔
      Filled fields members results := by
  induction fields generalizing results with
  | nil =>
      constructor
      · intro all
        have none : results = [] := List.map_eq_nil_iff.mp all.symm
        exact ⟨by rw [none]; rfl, (by simp), (by simp)⟩
      · intro filled
        have none : results = [] := List.map_eq_nil_iff.mp filled.keys
        rw [none]
        rfl
  | cons field fields ih =>
      rw [List.map_cons, List.nodup_cons] at distinct
      rw [List.filterMap_cons, fieldOutcome?]
      cases found : members.get? field.1.name with
      | some item =>
          have present := Members.mem_keys_of_get? found
          dsimp only
          rw [List.map_cons]
          constructor
          · intro all
            cases results with
            | nil => cases all
            | cons entry results =>
                rw [List.map_cons, List.cons.injEq] at all
                obtain ⟨canonical, validated, rfl⟩ := map_eq_ok.mp all.1
                exact ((ih distinct.2).mp all.2).cons distinct.1 found validated
          · intro filled
            have keys := filled.keys
            rw [List.map_cons, List.filter_cons_of_pos (Members.has_eq_true.mpr present)] at keys
            cases results with
            | nil => cases keys
            | cons entry results =>
                obtain ⟨name, canonical⟩ := entry
                cases (List.cons.inj keys).1
                have validated := filled.below field (List.mem_cons_self ..) item canonical found
                  (by rw [Members.get?_cons, if_pos rfl])
                rw [List.map_cons, (ih distinct.2).mpr (filled.of_cons distinct.1 present), validated]
                rfl
      | none =>
          cases optional : field.1.optional with
          | true => exact (ih distinct.2).trans (filled_cons_absent found optional).symm
          | false =>
              constructor
              · intro all
                cases results <;> cases all
              · intro filled
                have present := filled.required field (List.mem_cons_self ..) optional
                exact absurd present (Members.get?_eq_none.mp found)

theorem strangers_eq_nil {fields : List (Key × Node)} {members : Members} :
    strangers fields members = [] ↔ ∀ name ∈ members.keys, ∃ field ∈ fields, field.1.name = name := by
  simp [strangers, List.filter_eq_nil_iff]

theorem validate_object_eq_ok {fields : List (Key × Node)} {members : Members} {result : Json}
    (distinct : (fields.map fun field => field.1.name).Nodup) :
    (Node.object fields).validate (.object members) = .ok result ↔
      ∃ results, Filled fields members results ∧ (∀ name ∈ members.keys, ∃ field ∈ fields, field.1.name = name) ∧
        result = .object results := by
  simp only [validate_object, map_eq_ok, Outcomes.gather_eq_ok (explained_fields fields members), List.map_append,
    ← strangers_eq_nil, ← fields_eq_ok distinct]
  constructor
  · intro accepted
    obtain ⟨results, all, rfl⟩ := accepted
    have none : strangers fields members = [] := by
      refine List.eq_nil_iff_forall_not_mem.mpr fun outcome stranger => ?_
      have refused : outcome.2 ∈ results.map Except.ok :=
        all ▸ List.mem_append_right _ (List.mem_map_of_mem stranger)
      obtain ⟨_, _, _, rfl⟩ := mem_strangers.mp stranger
      obtain ⟨_, _, same⟩ := List.mem_map.mp refused
      cases same
    rw [none, List.map_nil, List.append_nil] at all
    exact ⟨results, all, none, rfl⟩
  · intro filled
    obtain ⟨results, all, none, rfl⟩ := filled
    exact ⟨results, by rw [none, List.map_nil, List.append_nil, all], rfl⟩

theorem mapIdx_eq_ok {values : List α} {results : List β} {each : Nat → α → Except Report β} :
    values.mapIdx each = results.map Except.ok ↔ results.length = values.length ∧
      ∀ position value, values[position]? = some value →
        ∃ result, results[position]? = some result ∧ each position value = .ok result := by
  constructor
  · intro all
    refine ⟨by simpa using (congrArg List.length all).symm, fun position value present => ?_⟩
    have here := congrArg (·[position]?) all
    simp only [List.getElem?_mapIdx, List.getElem?_map, present, Option.map_some] at here
    obtain ⟨result, stored, same⟩ := Option.map_eq_some_iff.mp here.symm
    exact ⟨result, stored, same.symm⟩
  · intro each
    obtain ⟨length, each⟩ := each
    apply List.ext_getElem?
    intro position
    rw [List.getElem?_mapIdx, List.getElem?_map]
    cases present : values[position]? with
    | none =>
        have past := List.getElem?_eq_none_iff.mp present
        rw [List.getElem?_eq_none (by omega)]
        rfl
    | some value =>
        obtain ⟨result, stored, same⟩ := each position value present
        rw [stored, Option.map_some, Option.map_some, same]

theorem validate_items_eq_ok {nodes : List Node} {values : List Json} {result : Json} :
    (ofItems nodes).validate (.array values) = .ok result ↔
      ∃ results, (results.length = values.length ∧ ∀ position value, values[position]? = some value →
        ∃ result, results[position]? = some result ∧ resultOf (itemAt? nodes position) value = .ok result) ∧
        result = .array results := by
  simp only [validate_ofItems, map_eq_ok, mapIdx_eq_ok,
    Outcomes.indexed_gather_eq_ok fun position => explained_resultOf (itemAt? nodes position)]

end Node

theorem canonical_of_validate {registry : Registry} {schema : Json} {node : Node} {value result : Json}
    (compiled : Node.compile registry schema = .ok node) (validated : node.validate value = .ok result) :
    Canonical registry schema value result := by
  induction schema using schemaInduction generalizing node value result with
  | null | bool | number => simp [Node.compile, Node.invalid] at compiled
  | string text =>
      rw [Node.compile] at compiled
      obtain ⟨rule, leaf, rfl⟩ := map_eq_ok.mp compiled
      rw [Node.validate] at validated
      exact .leaf leaf validated
  | array items ih =>
      obtain ⟨nodes, all, rfl⟩ := Node.compile_array_eq_ok.mp compiled
      cases value with
      | array values =>
          obtain ⟨results, ⟨length, each⟩, rfl⟩ := Node.validate_items_eq_ok.mp validated
          refine .array length (fun several => ?_) fun position part value result inside present stored => ?_
          · refine Decidable.byContradiction fun longer => ?_
            have past : items.length < values.length := by omega
            obtain ⟨_, _, accepted⟩ := each items.length _ (List.getElem?_eq_getElem past)
            rw [(Node.itemAt?_nodes_eq_none all).mpr
              (itemAt?_itemSchemas_eq_none.mpr ⟨several, Nat.le_refl _⟩)] at accepted
            cases accepted
          · obtain ⟨node, child, there⟩ := Node.exists_node all inside
            obtain ⟨_, same, accepted⟩ := each position value present
            cases stored.symm.trans same
            rw [there] at accepted
            exact ih part (mem_of_itemAt? inside) child accepted
      | _ =>
          rw [Node.validate_ofItems_other _ (by simp)] at validated
          cases validated
  | object fields ih =>
      obtain ⟨nodes, names, all, rfl⟩ := Node.compile_object_eq_ok.mp compiled
      rw [← Node.names_fields all] at names
      cases value with
      | object members =>
          obtain ⟨results, filled, known, rfl⟩ := (Node.validate_object_eq_ok names).mp validated
          refine .object ?_ (fun field within required => ?_) (fun name present => ?_)
            fun field within item result found stored => ?_
          · rw [← Node.names_fields all]
            exact filled.keys
          · obtain ⟨_, _, there⟩ := Node.exists_field all within
            exact filled.required _ there required
          · obtain ⟨_, there, named⟩ := known name present
            obtain ⟨field, within, key, _⟩ := Node.mem_fields all there
            exact ⟨field, within, key ▸ named⟩
          · obtain ⟨_, child, there⟩ := Node.exists_field all within
            exact ih field within child (filled.below _ there item result found stored)
      | _ =>
          rw [Node.validate_object_other _ (by simp)] at validated
          cases validated

theorem validate_of_canonical {registry : Registry} {schema : Json} {node : Node} {value result : Json}
    (compiled : Node.compile registry schema = .ok node) (canonical : Canonical registry schema value result) :
    node.validate value = .ok result := by
  induction canonical generalizing node with
  | leaf leaf applied =>
      rw [Node.compile] at compiled
      obtain ⟨rule, same, rfl⟩ := map_eq_ok.mp compiled
      cases same.symm.trans leaf
      rwa [Node.validate]
  | @object fields members results keys required known _ ih =>
      obtain ⟨nodes, names, all, rfl⟩ := Node.compile_object_eq_ok.mp compiled
      rw [← Node.names_fields all] at names
      refine (Node.validate_object_eq_ok names).mpr ⟨results, ⟨?_, ?_, ?_⟩, ?_, rfl⟩
      · rw [keys, Node.names_fields all]
      · intro field there needed
        obtain ⟨member, within, key, _⟩ := Node.mem_fields all there
        rw [key] at needed ⊢
        exact required member within needed
      · intro field there item result found stored
        obtain ⟨member, within, key, child⟩ := Node.mem_fields all there
        rw [key] at found stored
        exact ih member within item result found stored child
      · intro name present
        obtain ⟨member, within, named⟩ := known name present
        obtain ⟨node, _, there⟩ := Node.exists_field all within
        exact ⟨_, there, named⟩
  | @array items values results length bounded _ ih =>
      obtain ⟨nodes, all, rfl⟩ := Node.compile_array_eq_ok.mp compiled
      refine Node.validate_items_eq_ok.mpr ⟨results, ⟨length, fun position value present => ?_⟩, rfl⟩
      have inside := (List.getElem?_eq_some_iff.mp present).1
      have stored := List.getElem?_eq_getElem (show position < results.length by omega)
      refine ⟨_, stored, ?_⟩
      cases there : itemAt? nodes position with
      | none =>
          obtain ⟨several, past⟩ := itemAt?_itemSchemas_eq_none.mp ((Node.itemAt?_nodes_eq_none all).mp there)
          have fits := bounded several
          omega
      | some node =>
          obtain ⟨part, spoken, child⟩ := Node.exists_part all there
          exact ih position part value _ spoken present stored child

theorem validate_eq_ok_iff_canonical {registry : Registry} {schema : Json} {node : Node}
    (compiled : Node.compile registry schema = .ok node) (value result : Json) :
    node.validate value = .ok result ↔ Canonical registry schema value result :=
  ⟨canonical_of_validate compiled, validate_of_canonical compiled⟩

-- Keys come in the order of the schema, and an optional key without a value does not come at all.
def boxSchema : Json :=
  .object [("name", .string "string"), ("?note", .string "any"), ("sizes", .array [.string "int"])]

def boxValue : Json := .object [("sizes", .array [.string "2", .bool true]), ("name", .bool false)]

theorem boxValue_canonical : ∃ node result, Node.compile Registry.builtin boxSchema = .ok node ∧
    Canonical Registry.builtin boxSchema boxValue result ∧
    result.toText = "\x7b\"name\":\"false\",\"sizes\":[2,1]\x7d" := by
  have run : ((Node.compile Registry.builtin boxSchema).bind (·.validate boxValue)).toOption.map Json.toText =
      some "\x7b\"name\":\"false\",\"sizes\":[2,1]\x7d" := by decide +kernel
  obtain ⟨node, result, compiled, validated, text⟩ := Node.exists_validated run
  exact ⟨node, result, compiled, (validate_eq_ok_iff_canonical compiled boxValue result).mp validated, text⟩

end Conform.Schema
