import Conform.Proofs.Schema.Reports
import Mathlib.Data.List.Forall2
import Mathlib.Data.List.Nodup

namespace Conform

namespace Members

theorem get?_eq_none_of_perm {members others : Members} (keys : members.keys.Perm others.keys) {name : String} :
    members.get? name = none ↔ others.get? name = none := by
  rw [get?_eq_none, get?_eq_none, keys.mem_iff]

theorem get?_perm {members others : Members} (distinct : members.keys.Nodup) (moved : members.Perm others)
    (name : String) : members.get? name = others.get? name := by
  induction moved with
  | nil => rfl
  | cons member _ ih => rw [get?_cons, get?_cons, ih distinct.of_cons]
  | swap first second rest =>
      have apart : second.1 ≠ first.1 := fun same => by simp [same] at distinct
      by_cases here : first.1 = name
      · have other : second.1 ≠ name := here ▸ apart
        simp [get?_cons, here, other]
      · simp [get?_cons, here]
  | trans first _ ih ih' => exact (ih distinct).trans (ih' ((first.map _).nodup_iff.mp distinct))

theorem rel_get? {related : String → Json → Json → Prop} {entries others : Members}
    (each : List.Forall₂ (fun entry other => entry.1 = other.1 ∧ related entry.1 entry.2 other.2) entries others)
    (name : String) : Option.Rel (related name) (entries.get? name) (others.get? name) := by
  induction each with
  | nil => exact .none
  | cons here _ ih =>
      obtain ⟨same, here⟩ := here
      rw [get?_cons, get?_cons, ← same]
      split
      · rename_i found
        exact .some (found ▸ here)
      · exact ih

end Members

namespace Schema
open Report

-- Values that differ in the order of members, only in objects that meet an object of the schema.
inductive Rearranged : Node → Json → Json → Prop
  | same : Rearranged node value value
  | object {members others : Members} (keys : members.keys.Perm others.keys)
      (declared : ∀ field ∈ fields, ∀ item other, members.get? field.1.name = some item →
        others.get? field.1.name = some other → Rearranged field.2 item other)
      (undeclared : ∀ name, (∀ field ∈ fields, field.1.name ≠ name) → members.get? name = others.get? name) :
      Rearranged (.object fields) (.object members) (.object others)
  | list {node : Node} {values others : List Json} (length : values.length = others.length)
      (each : ∀ (position : Nat) item other, values[position]? = some item → others[position]? = some other →
        Rearranged node item other) :
      Rearranged (.list node) (.array values) (.array others)
  | tuple {nodes : List Node} {values others : List Json} (length : values.length = others.length)
      (each : ∀ (position : Nat) node item other, nodes[position]? = some node → values[position]? = some item →
        others[position]? = some other → Rearranged node item other)
      (past : ∀ position : Nat, nodes.length ≤ position → values[position]? = others[position]?) :
      Rearranged (.tuple nodes) (.array values) (.array others)

namespace Rearranged

-- What is held under a name, rearranged where the name is declared and else the same.
def Held (fields : List (Key × Node)) (name : String) (item other : Json) : Prop :=
  (∀ field ∈ fields, field.1.name = name → Rearranged field.2 item other) ∧
  ((∀ field ∈ fields, field.1.name ≠ name) → item = other)

theorem of_perm {fields : List (Key × Node)} {members entries others : Members} (distinct : members.keys.Nodup)
    (moved : members.Perm entries)
    (each : List.Forall₂ (fun entry other => entry.1 = other.1 ∧ Held fields entry.1 entry.2 other.2) entries others) :
    Rearranged (.object fields) (.object members) (.object others) := by
  have names : entries.keys = others.keys := by
    clear moved
    induction each with
    | nil => rfl
    | cons here _ ih => rw [Members.keys_cons, Members.keys_cons, here.1, ih]
  have found (name : String) : Option.Rel (Held fields name) (members.get? name) (others.get? name) := by
    rw [Members.get?_perm distinct moved]
    exact Members.rel_get? each name
  refine .object (names ▸ moved.map _) (fun field within item other first second => ?_) fun name undeclared => ?_
  · have both := found field.1.name
    rw [first, second] at both
    cases both with
    | some held => exact held.1 field within rfl
  · have both := found name
    generalize members.get? name = item, others.get? name = other at both ⊢
    cases both with
    | some held => rw [held.2 undeclared]
    | none => rfl

end Rearranged

namespace Node

-- The places of keys that the schema does not know, in an object that it does.
def isStranger : Node → Path → Bool
  | .object fields, .key name :: rest =>
      if fields.any (·.1.name == name) then fields.any fun field => field.1.name == name && isStranger field.2 rest
      else rest.isEmpty
  | .list item, .index _ :: rest => isStranger item rest
  | .tuple items, .index position :: rest => items[position]?.any (isStranger · rest)
  | _, _ => false

end Node

-- Results that differ in the order of their records, and there only in where the loose ones stand.
structure Alike (loose : Path → Bool) (first second : Except Report α) : Prop where
  value : ∀ value, first = .ok value ↔ second = .ok value
  perm : (recorded first).Perm (recorded second)
  order : (recorded first).filter (fun record => !loose record.path) =
    (recorded second).filter fun record => !loose record.path

namespace Alike
variable {loose : Path → Bool}

theorem refl (result : Except Report α) : Alike loose result result :=
  ⟨fun _ => .rfl, .refl _, rfl⟩

theorem map {first second : Except Report α} (alike : Alike loose first second) (change : α → β) :
    Alike loose (first.map change) (second.map change) := by
  refine ⟨fun value => ?_, ?_, ?_⟩
  · simp only [map_eq_ok, alike.value]
  · simpa only [recorded_map] using alike.perm
  · simpa only [recorded_map] using alike.order

theorem mono {wider : Path → Bool} (within : ∀ path, loose path = true → wider path = true)
    {first second : Except Report α} (alike : Alike loose first second) : Alike wider first second := by
  have narrow (record : Record) : (!wider record.path) = (!loose record.path && !wider record.path) := by
    by_cases free : loose record.path = true
    · simp [free, within record.path free]
    · simp [free]
  refine ⟨alike.value, alike.perm, ?_⟩
  have order := congrArg (List.filter fun record => !wider record.path) alike.order
  simpa only [List.filter_filter, Bool.and_comm, ← narrow] using order

end Alike

namespace Node.Outcomes
variable {loose : Path → Bool}

def recordsAt (outcome : Segment × Except Report α) : List Record := (recorded outcome.2).map (·.under [outcome.1])

def AlikeAt (loose : Path → Bool) (first second : Segment × Except Report α) : Prop :=
  first.1 = second.1 ∧ Alike (fun rest => loose (first.1 :: rest)) first.2 second.2

theorem filter_recordsAt (outcome : Segment × Except Report α) :
    (recordsAt outcome).filter (fun record => !loose record.path) =
      ((recorded outcome.2).filter fun record => !loose (outcome.1 :: record.path)).map (·.under [outcome.1]) := by
  rw [recordsAt, List.filter_map]
  rfl

theorem perm_records {first second : Outcomes α} (alike : List.Forall₂ (AlikeAt loose) first second) :
    (first.flatMap recordsAt).Perm (second.flatMap recordsAt) := by
  induction alike with
  | nil => exact .refl _
  | cons here _ ih =>
      obtain ⟨place, alike⟩ := here
      simp only [List.flatMap_cons, recordsAt, ← place]
      exact (alike.perm.map _).append ih

theorem order_records {first second : Outcomes α} (alike : List.Forall₂ (AlikeAt loose) first second) :
    (first.flatMap recordsAt).filter (fun record => !loose record.path) =
      (second.flatMap recordsAt).filter fun record => !loose record.path := by
  induction alike with
  | nil => rfl
  | cons here _ ih =>
      obtain ⟨place, alike⟩ := here
      simp only [List.flatMap_cons, List.filter_append, ih, filter_recordsAt, ← place, alike.order]

theorem results_eq_ok {first second : Outcomes α} (alike : List.Forall₂ (AlikeAt loose) first second)
    (values : List α) : first.map Prod.snd = values.map Except.ok ↔ second.map Prod.snd = values.map Except.ok := by
  induction alike generalizing values with
  | nil => exact .rfl
  | cons here _ ih =>
      cases values with
      | nil => simp
      | cons value values => simp only [List.map_cons, List.cons.injEq, here.2.value, ih]

theorem eq_nil_of_refused {first refused : Outcomes α} {values : List α}
    (failed : ∀ outcome ∈ refused, ∃ report, outcome.2 = .error report)
    (all : (first ++ refused).map Prod.snd = values.map Except.ok) : refused = [] := by
  refine List.eq_nil_iff_forall_not_mem.mpr fun outcome within => ?_
  obtain ⟨report, failure⟩ := failed outcome within
  have ok : outcome.2 ∈ values.map Except.ok := all ▸ List.mem_map_of_mem (List.mem_append_right _ within)
  obtain ⟨_, _, same⟩ := List.mem_map.mp ok
  rw [failure] at same
  cases same

-- Outcomes place by place, and after them refusals of which the order is free.
theorem alike_gather {first second refused others : Outcomes α}
    (explained : ∀ outcome ∈ first ++ refused, Explained outcome.2)
    (explained' : ∀ outcome ∈ second ++ others, Explained outcome.2)
    (alike : List.Forall₂ (AlikeAt loose) first second) (moved : refused.Perm others)
    (failed : ∀ outcome ∈ refused, ∃ report, outcome.2 = .error report)
    (free : ∀ outcome ∈ refused, ∀ record ∈ recordsAt outcome, loose record.path = true) :
    Alike loose (Outcomes.gather (first ++ refused)) (Outcomes.gather (second ++ others)) := by
  have failed' : ∀ outcome ∈ others, ∃ report, outcome.2 = .error report :=
    fun outcome within => failed outcome (moved.mem_iff.mpr within)
  have free' : ∀ outcome ∈ others, ∀ record ∈ recordsAt outcome, loose record.path = true :=
    fun outcome within => free outcome (moved.mem_iff.mpr within)
  refine ⟨fun values => ?_, ?_, ?_⟩
  · rw [gather_eq_ok explained, gather_eq_ok explained']
    constructor
    · intro all
      obtain rfl := eq_nil_of_refused failed all
      obtain rfl := moved.nil_eq
      rw [List.append_nil] at all ⊢
      exact (results_eq_ok alike values).mp all
    · intro all
      obtain rfl := eq_nil_of_refused failed' all
      obtain rfl := moved.eq_nil
      rw [List.append_nil] at all ⊢
      exact (results_eq_ok alike values).mpr all
  · simp only [recorded_gather, List.flatMap_append]
    exact (perm_records alike).append (moved.flatMap_right recordsAt)
  · have nothing {outcomes : Outcomes α}
        (each : ∀ outcome ∈ outcomes, ∀ record ∈ recordsAt outcome, loose record.path = true) :
        (outcomes.flatMap recordsAt).filter (fun record => !loose record.path) = [] := by
      refine List.filter_eq_nil_iff.mpr fun record within => ?_
      obtain ⟨outcome, inside, held⟩ := List.mem_flatMap.mp within
      simp [each outcome inside record held]
    simp only [recorded_gather, List.flatMap_append, List.filter_append]
    exact congrArg₂ (· ++ ·) (order_records alike) ((nothing free).trans (nothing free').symm)

end Node.Outcomes

namespace Node
variable {loose : Path → Bool}

section Strangers

theorem isStranger_nil (node : Node) : node.isStranger [] = false := by
  cases node <;> simp [isStranger]

theorem isStranger_field {fields : List (Key × Node)} {field : Key × Node} {rest : Path} (within : field ∈ fields)
    (below : field.2.isStranger rest = true) : (object fields).isStranger (.key field.1.name :: rest) = true := by
  have declared : fields.any (·.1.name == field.1.name) = true := List.any_eq_true.mpr ⟨field, within, by simp⟩
  rw [isStranger, if_pos declared, List.any_eq_true]
  exact ⟨field, within, by simpa using below⟩

theorem isStranger_undeclared {fields : List (Key × Node)} {name : String}
    (undeclared : ∀ field ∈ fields, field.1.name ≠ name) : (object fields).isStranger [.key name] = true := by
  have unknown : ¬ fields.any (·.1.name == name) = true := by simpa using undeclared
  rw [isStranger, if_neg unknown]
  rfl

theorem isStranger_of_field {fields : List (Key × Node)} (names : (fields.map fun field => field.1.name).Nodup)
    {field : Key × Node} (within : field ∈ fields) {rest : Path}
    (stranger : (object fields).isStranger (.key field.1.name :: rest) = true) : field.2.isStranger rest = true := by
  have declared : fields.any (·.1.name == field.1.name) = true := List.any_eq_true.mpr ⟨field, within, by simp⟩
  rw [isStranger, if_pos declared, List.any_eq_true] at stranger
  obtain ⟨other, inside, both⟩ := stranger
  obtain ⟨same, below⟩ := Bool.and_eq_true_iff.mp both
  obtain rfl := List.inj_on_of_nodup_map names inside within (beq_iff_eq.mp same)
  exact below

theorem isStranger_ofItems (nodes : List Node) (position : Nat) (rest : Path) :
    (ofItems nodes).isStranger (.index position :: rest) = (itemAt? nodes position).any (isStranger · rest) := by
  match nodes with
  | [] | [_] | _ :: _ :: _ => simp [ofItems, isStranger, itemAt?]

theorem message_of_isStranger {registry : Registry} {schema : Json} {node : Node}
    (compiled : compile registry schema = .ok node) {value : Json} {record : Record}
    (held : record ∈ recorded (node.validate value)) (stranger : node.isStranger record.path = true) :
    record.message = "Out of bound" := by
  induction schema using schemaInduction generalizing node value record with
  | null | bool | number => cases compiled
  | string text =>
      obtain ⟨rule, _, rfl⟩ := map_eq_ok.mp compiled
      simp [isStranger] at stranger
  | array items ih =>
      obtain ⟨nodes, all, rfl⟩ := compile_array_eq_ok.mp compiled
      by_cases array : ∃ values, value = .array values
      · obtain ⟨values, rfl⟩ := array
        rcases mem_recorded_items.mp held with ⟨position, node, item, there, _, inner, deeper, rfl⟩ | ⟨_, _, _, rfl⟩
        · obtain ⟨part, inside, child⟩ := exists_part all there
          have below : node.isStranger inner.path = true := by
            simpa [Record.under, isStranger_ofItems, there] using stranger
          exact (ih part (mem_of_itemAt? inside) child deeper below :)
        · rfl
      · rw [validate_ofItems_other _ fun values same => array ⟨values, same⟩, mismatch, mem_recorded_message] at held
        rw [held, isStranger_nil] at stranger
        cases stranger
  | object members ih =>
      obtain ⟨fields, names, all, rfl⟩ := compile_object_eq_ok.mp compiled
      rw [← names_fields all] at names
      by_cases object : ∃ members, value = .object members
      · obtain ⟨given, rfl⟩ := object
        rcases mem_recorded_object.mp held with ⟨field, there, item, _, inner, deeper, rfl⟩ |
          ⟨field, there, _, _, rfl⟩ | ⟨_, _, _, rfl⟩
        · obtain ⟨member, within, _, child⟩ := mem_fields all there
          have below : field.2.isStranger inner.path = true := isStranger_of_field names there stranger
          exact (ih member within child deeper below :)
        · have below := isStranger_of_field names there stranger
          rw [isStranger_nil] at below
          cases below
        · rfl
      · rw [validate_object_other _ fun members same => object ⟨members, same⟩, mismatch, mem_recorded_message] at held
        rw [held, isStranger_nil] at stranger
        cases stranger

end Strangers

theorem perm_strangers (fields : List (Key × Node)) {members others : Members}
    (keys : members.keys.Perm others.keys) : (strangers fields members).Perm (strangers fields others) :=
  (keys.filter _).map _

theorem alike_fields {fields : List (Key × Node)} {members others : Members} (keys : members.keys.Perm others.keys)
    (below : ∀ field ∈ fields, ∀ item other, members.get? field.1.name = some item →
      others.get? field.1.name = some other →
      Alike field.2.isStranger (field.2.validate item) (field.2.validate other)) :
    List.Forall₂ (Outcomes.AlikeAt (object fields).isStranger) (fields.filterMap (fieldOutcome? members))
      (fields.filterMap (fieldOutcome? others)) := by
  have here : List.Forall₂ (fun field same => field = same ∧ field ∈ fields) fields fields :=
    List.forall₂_same.mpr fun _ within => ⟨rfl, within⟩
  refine List.rel_filterMap ?_ here
  rintro field _ ⟨rfl, within⟩
  have absent : members.get? field.1.name = none ↔ others.get? field.1.name = none :=
    Members.get?_eq_none_of_perm keys
  unfold fieldOutcome?
  cases found : members.get? field.1.name with
  | none =>
      rw [absent.mp found]
      by_cases optional : field.1.optional = true
      · simp only [optional, if_true]
        exact .none
      · simp only [optional]
        exact .some ⟨rfl, .refl _⟩
  | some item =>
      cases moved : others.get? field.1.name with
      | none => rw [absent.mpr moved] at found; cases found
      | some other =>
          have alike := below field within item other found moved
          exact .some ⟨rfl, (alike.mono fun _ => isStranger_field within).map _⟩

theorem alike_object {fields : List (Key × Node)} {members others : Members} (keys : members.keys.Perm others.keys)
    (below : ∀ field ∈ fields, ∀ item other, members.get? field.1.name = some item →
      others.get? field.1.name = some other →
      Alike field.2.isStranger (field.2.validate item) (field.2.validate other)) :
    Alike (object fields).isStranger ((object fields).validate (.object members))
      ((object fields).validate (.object others)) := by
  rw [validate_object, validate_object]
  refine .map (Outcomes.alike_gather (explained_fields _ _) (explained_fields _ _) (alike_fields keys below)
    (perm_strangers fields keys) (fun outcome within => ?_) fun outcome within record held => ?_) _
  · obtain ⟨_, _, _, rfl⟩ := mem_strangers.mp within
    exact ⟨_, rfl⟩
  · obtain ⟨name, _, undeclared, rfl⟩ := mem_strangers.mp within
    obtain ⟨inner, there, rfl⟩ := List.mem_map.mp held
    cases mem_recorded_message.mp there
    exact isStranger_undeclared undeclared

theorem alike_indexed {result : Nat → Json → Except Report Json}
    (explained : ∀ position item, Explained (result position item)) {values others : List Json}
    (length : values.length = others.length)
    (each : ∀ (position : Nat) item other, values[position]? = some item → others[position]? = some other →
      Alike (fun rest => loose (.index position :: rest)) (result position item) (result position other)) :
    Alike loose (Outcomes.indexed result values).gather (Outcomes.indexed result others).gather := by
  have places :
      List.Forall₂ (Outcomes.AlikeAt loose) (Outcomes.indexed result values) (Outcomes.indexed result others) := by
    refine List.forall₂_iff_get.mpr ⟨by simp [Outcomes.indexed, length], fun position inside inside' => ?_⟩
    simp only [Outcomes.indexed, List.length_mapIdx] at inside inside'
    simp only [Outcomes.indexed, List.get_eq_getElem, List.getElem_mapIdx]
    exact ⟨rfl, each position _ _ (List.getElem?_eq_getElem inside) (List.getElem?_eq_getElem inside')⟩
  have explainedAt (items : List Json) : ∀ outcome ∈ Outcomes.indexed result items, Explained outcome.2 := by
    intro outcome within
    obtain ⟨position, item, _, rfl⟩ := Outcomes.mem_indexed.mp within
    exact explained position item
  have gathered : Alike loose (Outcomes.gather (Outcomes.indexed result values ++ []))
      (Outcomes.gather (Outcomes.indexed result others ++ [])) :=
    Outcomes.alike_gather (by simpa using explainedAt values) (by simpa using explainedAt others) places (.refl _)
      (by simp) (by simp)
  simpa only [List.append_nil] using gathered

theorem alike_validate {node : Node} {value other : Json} (moved : Rearranged node value other) :
    Alike node.isStranger (node.validate value) (node.validate other) := by
  induction moved with
  | same => exact .refl _
  | object keys _ _ ih => exact alike_object keys ih
  | list length _ ih =>
      rw [validate, validate]
      exact .map (alike_indexed (fun _ => explained_validate _) length ih) _
  | @tuple nodes values others length _ past ih =>
      have single (items : List Json) : validateItems nodes 0 items =
          Outcomes.indexed (fun position => resultOf nodes[position]?) items := by
        simp [validateItems_eq, Outcomes.indexed]
      rw [validate, validate, single, single]
      refine .map (alike_indexed (fun _ => explained_resultOf _) length fun position item other found moved => ?_) _
      cases there : nodes[position]? with
      | some node =>
          have alike := ih position node item other there found moved
          refine alike.mono fun rest below => ?_
          simpa [isStranger, there] using below
      | none =>
          exact .refl _

end Node

-- Key order decides neither what is accepted nor what comes out, and of a report only where unknown keys stand in it.
theorem key_order_is_free {registry : Registry} {schema : Json} {node : Node}
    (compiled : Node.compile registry schema = .ok node) {value other : Json} (moved : Rearranged node value other) :
    (∀ canonical, node.validate value = .ok canonical ↔ node.validate other = .ok canonical) ∧
    (∀ first second, node.validate value = .error first → node.validate other = .error second →
      first.records.Perm second.records ∧
      first.records.filter (fun record => !node.isStranger record.path) =
        second.records.filter (fun record => !node.isStranger record.path) ∧
      ∀ record ∈ first.records, node.isStranger record.path = true → record.message = "Out of bound") := by
  have alike := Node.alike_validate moved
  refine ⟨alike.value, fun first second refused refused' => ⟨?_, ?_, fun record held stranger => ?_⟩⟩
  · simpa only [refused, refused', recorded_error] using alike.perm
  · simpa only [refused, refused', recorded_error] using alike.order
  · have reported : record ∈ recorded (node.validate value) := by rwa [refused]
    exact Node.message_of_isStranger compiled reported stranger

def placeFields : Members := [("x", .string "int"), ("y", .string "int")]

def pointFields : Members := [("name", .string "string"), ("at", .object placeFields)]

def place : Members := [("y", .string "two"), ("q", .null), ("x", .bool true), ("p", .null)]

def point : Members := [("b", .null), ("at", .object place), ("a", .null)]

-- Backwards, here and below.
def movedPoint : Members := [("a", .null), ("at", .object place.reverse), ("b", .null)]

theorem rearranged_point {node : Node} (compiled : Node.compile Registry.builtin (.object pointFields) = .ok node) :
    Rearranged node (.object point) (.object movedPoint) := by
  obtain ⟨fields, _, all, rfl⟩ := Node.compile_object_eq_ok.mp compiled
  have below (field : Key × Node) (within : field ∈ fields) (named : field.1.name = "at") :
      Rearranged field.2 (.object place) (.object place.reverse) := by
    obtain ⟨member, known, key, child⟩ := Node.mem_fields all within
    have same : member = ("at", .object placeFields) := by
      simp only [pointFields, List.mem_cons, List.not_mem_nil, or_false] at known
      rcases known with rfl | rfl
      · rw [key] at named
        exact absurd named (by decide)
      · rfl
    rw [same] at child
    obtain ⟨inner, _, _, node⟩ := Node.compile_object_eq_ok.mp child
    rw [node]
    exact .of_perm (by decide) place.reverse_perm.symm
      (List.forall₂_same.mpr fun _ _ => ⟨rfl, fun _ _ _ => .same, fun _ => rfl⟩)
  have kept {name : String} : Rearranged.Held fields name .null .null := ⟨fun _ _ _ => .same, fun _ => rfl⟩
  have declared : ∃ field ∈ fields, field.1.name = "at" := by
    obtain ⟨node, _, there⟩ := Node.exists_field all (List.mem_cons_of_mem _ (List.mem_cons_self ..))
    exact ⟨_, there, rfl⟩
  refine .of_perm (by decide) point.reverse_perm.symm ?_
  refine .cons ⟨rfl, kept⟩ (.cons ⟨rfl, below, fun undeclared => ?_⟩ (.cons ⟨rfl, kept⟩ .nil))
  obtain ⟨field, within, named⟩ := declared
  exact absurd named (undeclared field within)

theorem refused_of_stranger {registry : Registry} {fields members : Members} {node : Node} {name : String}
    (compiled : Node.compile registry (.object fields) = .ok node) (present : name ∈ members.keys)
    (undeclared : ∀ field ∈ fields, (Key.ofText field.1).name ≠ name) :
    ∃ report, node.validate (.object members) = .error report := by
  have held : ⟨[.key name], "Out of bound"⟩ ∈ recorded (node.validate (.object members)) :=
    (exact_schema registry _ node compiled _ _).mpr ⟨[], _, _, _, .root, .stranger present undeclared, rfl⟩
  cases refused : node.validate (.object members) with
  | ok result => rw [refused] at held; cases held
  | error report => exact ⟨report, rfl⟩

theorem point_reported_alike : ∃ node first second, Node.compile Registry.builtin (.object pointFields) = .ok node ∧
    node.validate (.object point) = .error first ∧ node.validate (.object movedPoint) = .error second ∧
    first.records.Perm second.records ∧
    first.records.filter (fun record => !node.isStranger record.path) =
      second.records.filter fun record => !node.isStranger record.path := by
  have accepted : (Node.compile Registry.builtin (.object pointFields)).isOk = true := by decide +kernel
  cases compiled : Node.compile Registry.builtin (.object pointFields) with
  | error report => rw [compiled] at accepted; cases accepted
  | ok node =>
      have undeclared : ∀ field ∈ pointFields, (Key.ofText field.1).name ≠ "a" := by decide
      have present : "a" ∈ point.keys ∧ "a" ∈ movedPoint.keys := by decide
      obtain ⟨first, refused⟩ := refused_of_stranger compiled present.1 undeclared
      obtain ⟨second, refused'⟩ := refused_of_stranger compiled present.2 undeclared
      obtain ⟨_, reports⟩ := key_order_is_free compiled (rearranged_point compiled)
      obtain ⟨perm, order, _⟩ := reports first second refused refused'
      exact ⟨node, first, second, rfl, refused, refused', perm, order⟩

end Schema
end Conform
