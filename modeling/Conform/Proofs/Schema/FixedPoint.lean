import Conform.Proofs.Registry.Builtin
import Conform.Proofs.Schema.Canonical
import Conform.Proofs.Schema.Leaf

namespace Conform.Schema

namespace Rule
open Coercion

-- A single type that takes its own results, and transforms that change nothing.
structure Steady (rule : Rule) : Prop where
  type : ∃ name entry, rule.types = [(name, entry)] ∧ Idempotent entry.coerce ∧
    (entry.nullAfter = false → rule.nullable = true → SparesNull entry.coerce)
  null : rule.nullEntry.coerce = Coercion.null
  transforms : ∀ transform ∈ rule.transforms, transform.ChecksOnly

theorem foldlM_checksOnly {transforms : List Transform} (all : ∀ transform ∈ transforms, transform.ChecksOnly)
    {value result : Json} (passed : transforms.foldlM (fun (current : Json) (transform : Transform) =>
      transform current) value = .ok result) : result = value := by
  induction transforms generalizing value with
  | nil => cases passed; rfl
  | cons transform rest ih =>
      rw [List.forall_mem_cons] at all
      rw [List.foldlM_cons] at passed
      cases first : transform value with
      | error message => rw [first] at passed; cases passed
      | ok next =>
          rw [first] at passed
          rw [ih all.2 passed, all.1 value next first]

theorem matchTypes_single (rule : Rule) (value : Json) (name : String) (entry : TypeEntry) :
    rule.matchTypes value [(name, entry)] =
      if !entry.nullAfter && rule.isNull value then .null
      else match entry.coerce value with
        | some canonical => .coerced canonical
        | none => .refused := by
  rw [matchTypes]
  split
  · rfl
  · cases entry.coerce value with
    | some canonical => rfl
    | none => dsimp only [matchTypes]; split <;> rfl

theorem isNull_null {rule : Rule} (steady : rule.Steady) {value : Json} (nulled : rule.isNull value = true) :
    rule.isNull .null = true := by
  rw [isNull, Bool.and_eq_true] at nulled ⊢
  rw [steady.null]
  exact ⟨nulled.1, rfl⟩

theorem isNull_canonical {rule : Rule} (steady : rule.Steady) {coerce : Coercion}
    (spares : rule.nullable = true → SparesNull coerce) {value canonical : Json} (other : ¬ rule.isNull value = true)
    (accepted : coerce value = some canonical) : ¬ rule.isNull canonical = true := by
  intro nulled
  rw [isNull, Bool.and_eq_true, steady.null] at nulled
  have absent : Coercion.null value = none := by
    simpa [isNull, nulled.1, steady.null] using other
  rw [spares nulled.1 value canonical absent accepted] at nulled
  cases nulled.2

theorem apply_again {rule : Rule} (steady : rule.Steady) {value result : Json}
    (applied : rule.apply value = .ok result) : rule.apply result = .ok result := by
  obtain ⟨name, entry, types, idempotent, spares⟩ := steady.type
  rw [apply, types, matchTypes_single] at applied
  by_cases nulled : (!entry.nullAfter && rule.isNull value) = true
  · rw [if_pos nulled] at applied
    cases applied
    rw [Bool.and_eq_true] at nulled
    rw [apply, types, matchTypes_single, nulled.1, isNull_null steady nulled.2]
    rfl
  · rw [if_neg nulled] at applied
    cases accepted : entry.coerce value with
    | none => rw [accepted] at applied; cases applied
    | some canonical =>
        simp only [accepted] at applied
        cases run : rule.transforms.foldlM (fun (current : Json) (transform : Transform) => transform current)
            canonical with
        | error message => rw [run] at applied; cases applied
        | ok last =>
            rw [run] at applied
            cases applied
            cases foldlM_checksOnly steady.transforms run
            -- the null of the leaf was passed by on the way here, and must be again
            have apart : ¬ (!entry.nullAfter && rule.isNull result) = true := by
              intro null
              rw [Bool.and_eq_true] at null nulled
              refine isNull_canonical steady (spares (by simpa using null.1)) ?_ accepted null.2
              exact fun other => nulled ⟨null.1, other⟩
            rw [apply, types, matchTypes_single, if_neg apart, idempotent value result accepted]
            dsimp only
            rw [run]
            rfl

end Rule

-- A leaf of a single type that takes its own results, and of ranges alone.
structure SteadyLeaf (leaf : Leaf) : Prop where
  type : (∃ name ∈ Registry.steadyTypes, leaf.alternatives = [name]) ∨
    (leaf.alternatives = ["object"] ∧ leaf.nullable = false) ∨ (leaf.alternatives = [] ∧ leaf.nullable = true)
  calls : ∀ call ∈ leaf.calls, call.name ∈ Registry.rangeNames

-- Schemas all of whose leaves are steady.
inductive Steady : Json → Prop
  | leaf (read : Leaf.readPartial text = (leaf, none)) (steady : SteadyLeaf leaf) : Steady (.string text)
  | array (below : ∀ item ∈ items, Steady item) : Steady (.array items)
  | object {members : Members} (below : ∀ member ∈ members, Steady member.2) : Steady (.object members)

theorem SteadyLeaf.rule {text : String} {leaf : Leaf} {rule : Rule} (steady : SteadyLeaf leaf)
    (read : Leaf.readPartial text = (leaf, none)) (compiled : Rule.compile Registry.builtin text = .ok rule) :
    rule.Steady := by
  obtain ⟨_, same, _, _, types, nullable, nullEntry, transforms⟩ := Rule.parts_of_compile compiled
  cases read.symm.trans same
  refine ⟨?_, ?_, ?_⟩
  · rw [types, nullable, Leaf.candidates]
    rcases steady.type with ⟨name, listed, single⟩ | ⟨single, plain⟩ | ⟨none, null⟩
    · obtain ⟨coerce, found, idempotent, spares⟩ := Registry.get?_steady listed
      refine ⟨name, ⟨coerce, false⟩, ?_, idempotent, fun _ _ => spares⟩
      simp [single, Rule.lookUp, Registry.builtin, found, Rule.successes]
    · refine ⟨"object", ⟨Coercion.object, false⟩, ?_, Coercion.object_idempotent, fun _ null => ?_⟩
      · simp [single, Rule.lookUp, Registry.builtin, Registry.get?_object, Rule.successes]
      · cases plain.symm.trans null
    · refine ⟨Leaf.nullName, ⟨Coercion.null, true⟩, ?_, Coercion.null_idempotent, fun before => ?_⟩
      · simp [none, null, Rule.lookUp, Registry.builtin, Registry.get?_null, Rule.successes]
      · cases before
  · rw [nullEntry, Registry.nullEntry_builtin]
  · intro transform within
    rw [transforms, Rule.mem_successes] at within
    obtain ⟨call, listed, built⟩ := List.mem_map.mp within
    exact Registry.instantiate_checksOnly (steady.calls call listed) built

theorem steady_any : Steady (.string "any") := by
  have read : Leaf.readPartial "any" = (⟨["any"], false, []⟩, none) := by decide +kernel
  refine .leaf read ⟨.inl ⟨"any", by decide, rfl⟩, ?_⟩
  intro call within
  cases within

theorem steady_itemSchemas {items : List Json} (steady : ∀ item ∈ items, Steady item) :
    ∀ item ∈ itemSchemas items, Steady item := by
  intro item within
  cases items with
  | nil => cases List.mem_singleton.mp within; exact steady_any
  | cons => exact steady item within

theorem canonical_again {schema value result : Json} (steady : Steady schema)
    (canonical : Canonical Registry.builtin schema value result) :
    Canonical Registry.builtin schema result result := by
  induction canonical with
  | leaf compiled applied =>
      cases steady with
      | leaf read steady => exact .leaf compiled (Rule.apply_again (steady.rule read compiled) applied)
  | @object fields members results keys required known _ ih =>
      cases steady with
      | object steady =>
          have kept (name : String) : name ∈ results.keys ↔
              name ∈ fields.map (fun field => (Key.ofText field.1).name) ∧ name ∈ members.keys := by
            rw [keys, List.mem_filter, Members.has_eq_true]
          refine .object ?_ (fun field within needed => ?_) (fun name present => ?_)
            fun field within item result found stored => ?_
          · refine keys.trans (List.filter_congr fun name declared => ?_)
            rw [Bool.eq_iff_iff, Members.has_eq_true, Members.has_eq_true, kept]
            exact ⟨fun present => ⟨declared, present⟩, And.right⟩
          · exact (kept _).mpr ⟨List.mem_map_of_mem within, required field within needed⟩
          · obtain ⟨field, within, named⟩ := List.mem_map.mp ((kept name).mp present).1
            exact ⟨field, within, named⟩
          · cases found.symm.trans stored
            have present := ((kept _).mp (Members.mem_keys_of_get? found)).2
            obtain ⟨value, given⟩ := Members.exists_get? present
            exact ih field within value item given found (steady field within)
  | @array items values results length bounded _ ih =>
      cases steady with
      | array steady =>
          refine .array rfl (fun several => length ▸ bounded several) ?_
          intro position part value result inside found stored
          cases found.symm.trans stored
          have past := (List.getElem?_eq_some_iff.mp found).1
          have given := List.getElem?_eq_getElem (show position < values.length by omega)
          exact ih position part _ value inside given found (steady_itemSchemas steady part (mem_of_itemAt? inside))

theorem validate_result_of_steady {schema value result : Json} {node : Node} (steady : Steady schema)
    (compiled : Node.compile Registry.builtin schema = .ok node) (validated : node.validate value = .ok result) :
    node.validate result = .ok result :=
  validate_of_canonical compiled (canonical_again steady (canonical_of_validate compiled validated))

-- Null instead of an empty text, points in time as numbers, and a whole number out of a text with a fraction.
def cardSchema : Json := .object [("name", .string "string|null@str_range(1,9)"),
  ("?seen", .array [.string "timestamp"]), ("age", .string "int@num_range(0,150)")]

def cardValue : Json := .object [("age", .string "42.0"), ("name", .string ""),
  ("seen", .array [.string "1970-01-02", .string "1970-01-01T00:00:01.5Z"])]

theorem cardSchema_steady : Steady cardSchema := by
  have name : Leaf.readPartial "string|null@str_range(1,9)" =
      (⟨["string"], true, [⟨"str_range", ["1", "9"], "str_range(1,9)"⟩]⟩, none) := by decide +kernel
  have seen : Leaf.readPartial "timestamp" = (⟨["timestamp"], false, []⟩, none) := by decide +kernel
  have age : Leaf.readPartial "int@num_range(0,150)" =
      (⟨["int"], false, [⟨"num_range", ["0", "150"], "num_range(0,150)"⟩]⟩, none) := by decide +kernel
  refine .object fun member within => ?_
  simp only [List.mem_cons, List.not_mem_nil, or_false] at within
  rcases within with rfl | rfl | rfl
  · exact .leaf name ⟨.inl ⟨"string", by decide, rfl⟩, by decide⟩
  · refine .array fun item inside => ?_
    cases List.mem_singleton.mp inside
    exact .leaf seen ⟨.inl ⟨"timestamp", by decide, rfl⟩, by decide⟩
  · exact .leaf age ⟨.inl ⟨"int", by decide, rfl⟩, by decide⟩

theorem cardValue_fixed : ∃ node result, Node.compile Registry.builtin cardSchema = .ok node ∧
    node.validate cardValue = .ok result ∧ node.validate result = .ok result ∧
    result.toText = "\x7b\"name\":null,\"seen\":[86400000,1500],\"age\":42\x7d" := by
  have run : ((Node.compile Registry.builtin cardSchema).bind (·.validate cardValue)).toOption.map Json.toText =
      some "\x7b\"name\":null,\"seen\":[86400000,1500],\"age\":42\x7d" := by decide +kernel
  obtain ⟨node, result, compiled, validated, text⟩ := Node.exists_validated run
  exact ⟨node, result, compiled, validated, validate_result_of_steady cardSchema_steady compiled validated, text⟩

end Conform.Schema
