import Conform.Proofs.Registry.Run
import Conform.Proofs.Schema.Level
import Conform.Registry.Builtin

namespace Conform.Schema
open Registry

-- A schema at any depth of a schema, itself among them.
inductive Part : Json → Json → Prop
  | self : Part schema schema
  | item (within : item ∈ items) (below : Part part item) : Part part (.array items)
  | member {members : Members} (within : (key, value) ∈ members) (below : Part part value) : Part part (.object members)

-- Null is there always, as it decides about every leaf that takes null, and an empty list is one of anything.
inductive MentionsType (schema : Json) : String → Prop
  | null : MentionsType schema Leaf.nullName
  | any (empty : Part (.array []) schema) : MentionsType schema "any"
  | alternative (leaf : Part (.string text) schema) (named : name ∈ (Leaf.readPartial text).1.alternatives) :
      MentionsType schema name

inductive MentionsTransform (schema : Json) : String → Prop
  | call (leaf : Part (.string text) schema) (called : call ∈ (Leaf.readPartial text).1.calls) :
      MentionsTransform schema call.name

structure Agree (schema : Json) (first second : Registry) : Prop where
  types : ∀ name, MentionsType schema name → first.types.get? name = second.types.get? name
  transforms : ∀ name, MentionsTransform schema name → first.transforms.get? name = second.transforms.get? name

namespace Agree
variable {first second : Registry}

theorem mono {schema part : Json} (agree : Agree schema first second)
    (types : ∀ name, MentionsType part name → MentionsType schema name)
    (transforms : ∀ name, MentionsTransform part name → MentionsTransform schema name) : Agree part first second :=
  ⟨fun name mentioned => agree.types name (types name mentioned),
    fun name mentioned => agree.transforms name (transforms name mentioned)⟩

theorem below {schema part : Json} (agree : Agree schema first second)
    (lift : ∀ lower, Part lower part → Part lower schema) : Agree part first second := by
  refine agree.mono (fun name mentioned => ?_) (fun name mentioned => ?_)
  · cases mentioned with
    | null => exact .null
    | any empty => exact .any (lift _ empty)
    | alternative leaf named => exact .alternative (lift _ leaf) named
  · cases mentioned with
    | call leaf called => exact .call (lift _ leaf) called

theorem member {members : Members} (agree : Agree (.object members) first second) {member : String × Json}
    (within : member ∈ members) : Agree member.2 first second :=
  agree.below fun _ below => .member within below

-- The item that an empty list stands for is written nowhere.
theorem any (agree : Agree (.array []) first second) : Agree (.string "any") first second := by
  have read : Leaf.readPartial "any" = (⟨["any"], false, []⟩, none) := by decide +kernel
  refine agree.mono (fun name mentioned => ?_) (fun name mentioned => ?_)
  · cases mentioned with
    | null => exact .null
    | any empty => cases empty
    | alternative leaf named =>
        cases leaf
        rw [read] at named
        cases List.mem_singleton.mp named
        exact .any .self
  · cases mentioned with
    | call leaf called =>
        cases leaf
        rw [read] at called
        cases called

theorem item {items : List Json} (agree : Agree (.array items) first second) {item : Json}
    (within : item ∈ itemSchemas items) : Agree item first second := by
  cases items with
  | nil =>
      cases List.mem_singleton.mp within
      exact agree.any
  | cons => exact agree.below fun _ below => .item within below

end Agree

section Congruence
variable {first second : Registry}

theorem Rule.compile_congr {text : String} (agree : Agree (.string text) first second) :
    Rule.compile first text = Rule.compile second text := by
  have candidates : ∀ name ∈ (Leaf.readPartial text).1.candidates, lookUp first.types name = lookUp second.types name := by
    intro name listed
    have mentioned : MentionsType (.string text) name := by
      unfold Leaf.candidates at listed
      split at listed
      · cases List.mem_singleton.mp listed
        exact .null
      · exact .alternative .self listed
    rw [lookUp, lookUp, agree.types name mentioned]
  have types := List.map_congr_left candidates
  have transforms : (Leaf.readPartial text).1.calls.map (instantiate first.transforms) =
      (Leaf.readPartial text).1.calls.map (instantiate second.transforms) := by
    refine List.map_congr_left fun call called => ?_
    rw [instantiate, instantiate, agree.transforms _ (.call .self called)]
  have null : Registry.nullEntry first.types = Registry.nullEntry second.types := by
    rw [Registry.nullEntry, Registry.nullEntry, agree.types _ .null]
  simp only [Rule.compile, types, transforms, null]

namespace Node

theorem compileMembers_congr {members : Members}
    (below : ∀ member ∈ members, compile first member.2 = compile second member.2) (declared : List String) :
    compileMembers first declared members = compileMembers second declared members := by
  induction members generalizing declared with
  | nil => rfl
  | cons member rest ih =>
      obtain ⟨text, schema⟩ := member
      rw [List.forall_mem_cons] at below
      rw [compileMembers, compileMembers, ih below.2, ih below.2, below.1]

theorem indexed_congr {schemas : List Json} (below : ∀ schema ∈ schemas, compile first schema = compile second schema) :
    Outcomes.indexed (fun _ => compile first) schemas = Outcomes.indexed (fun _ => compile second) schemas := by
  apply List.ext_getElem?
  intro position
  rw [Outcomes.indexed, Outcomes.indexed, List.getElem?_mapIdx, List.getElem?_mapIdx]
  cases present : schemas[position]? with
  | none => rfl
  | some schema => rw [Option.map_some, Option.map_some, below schema (List.mem_of_getElem? present)]

theorem compile_congr {schema : Json} (agree : Agree schema first second) : compile first schema = compile second schema := by
  induction schema using schemaInduction with
  | null | bool | number => rfl
  | string text => rw [compile, compile, Rule.compile_congr agree]
  | array items ih =>
      rw [compile_array, compile_array, indexed_congr fun item within => ih item within (agree.item within)]
  | object members ih =>
      rw [compile, compile, compileMembers_congr fun member within => ih member within (agree.member within)]

end Node
end Congruence

-- A registration of a name that a schema does not mention.
def Unmentioned (schema : Json) : Registration → Prop
  | .type name _ => ¬ MentionsType schema name
  | .transform name _ => ¬ MentionsTransform schema name

theorem agree_run {schema : Json} {steps : List Registration} (apart : ∀ step ∈ steps, Unmentioned schema step)
    (registry : Registry) : Agree schema (steps.foldl register registry) registry where
  types := by
    intro name mentioned
    refine look_run (·.types.get? name) (fun registry _ => get?_type_register registry) ?_ registry
    intro step within given
    obtain ⟨entry, rfl⟩ := given
    exact apart _ within mentioned
  transforms := by
    intro name mentioned
    refine look_run (·.transforms.get? name) (fun registry _ => get?_transform_register registry) ?_ registry
    intro step within given
    obtain ⟨factory, rfl⟩ := given
    exact apart _ within mentioned

-- Equal outcomes are equal reports, or nodes that do the same with every value.
theorem compile_depends_on_mentions (schema : Json) :
    (∀ first second, Agree schema first second → Node.compile first schema = Node.compile second schema) ∧
    (∀ (registry : Registry) (steps : List Registration), (∀ step ∈ steps, Unmentioned schema step) →
      Node.compile (steps.foldl register registry) schema = Node.compile registry schema) :=
  ⟨fun _ _ agree => Node.compile_congr agree, fun registry _ apart => Node.compile_congr (agree_run apart registry)⟩

-- Bounds are read as doubles and as natural numbers, but not with the types that leaves can name.
def boundsSchema : Json := .object [("age", .string "int|null@num_range(0,150)"),
  ("tags", .array [.string "string@str_range(,3)"]), ("rest", .array [])]

def boundsValue : Json := .object [("age", .string "42"), ("tags", .array [.string "abc"]), ("rest", .array [.null])]

def refuseNumbers : List Registration := [.type "float" ⟨fun _ => none, false⟩, .type "unsigned" ⟨fun _ => none, true⟩,
  .type "a|b" ⟨some, false⟩, .transform "to_str" (.shared "Nothing" fun _ => .error "nothing")]

theorem part_string {part : Json} {text : String} : Part part (.string text) ↔ part = .string text :=
  ⟨fun part => by cases part; rfl, fun same => same ▸ .self⟩

theorem part_array {part : Json} {items : List Json} :
    Part part (.array items) ↔ part = .array items ∨ ∃ item ∈ items, Part part item := by
  constructor
  · intro given
    cases given with
    | self => exact .inl rfl
    | item within below => exact .inr ⟨_, within, below⟩
  · intro given
    rcases given with rfl | ⟨item, within, below⟩
    · exact .self
    · exact .item within below

theorem part_object {part : Json} {members : Members} :
    Part part (.object members) ↔ part = .object members ∨ ∃ member ∈ members, Part part member.2 := by
  constructor
  · intro given
    cases given with
    | self => exact .inl rfl
    | member within below => exact .inr ⟨_, within, below⟩
  · intro given
    rcases given with rfl | ⟨member, within, below⟩
    · exact .self
    · exact .member within below

theorem refuseNumbers_unmentioned : ∀ step ∈ refuseNumbers, Unmentioned boundsSchema step := by
  have leaves : ∀ text, Part (.string text) boundsSchema →
      text = "int|null@num_range(0,150)" ∨ text = "string@str_range(,3)" := by
    intro text leaf
    simpa [boundsSchema, part_object, part_array, part_string] using leaf
  have types : ∀ name, MentionsType boundsSchema name → name ∈ ["null", "any", "int", "string"] := by
    intro name mentioned
    cases mentioned with
    | null => decide
    | any => decide
    | alternative leaf named =>
        revert name
        rcases leaves _ leaf with rfl | rfl <;> decide +kernel
  have transforms : ∀ name, MentionsTransform boundsSchema name → name ∈ ["num_range", "str_range"] := by
    intro name mentioned
    cases mentioned with
    | @call _ call leaf called =>
        revert call
        rcases leaves _ leaf with rfl | rfl <;> decide +kernel
  intro step within
  simp only [refuseNumbers, List.mem_cons, List.not_mem_nil, or_false] at within
  rcases within with rfl | rfl | rfl | rfl
  · exact fun mentioned => absurd (types _ mentioned) (by decide)
  · exact fun mentioned => absurd (types _ mentioned) (by decide)
  · exact fun mentioned => absurd (types _ mentioned) (by decide)
  · exact fun mentioned => absurd (transforms _ mentioned) (by decide)

theorem boundsSchema_unmoved : (∀ step ∈ refuseNumbers, Unmentioned boundsSchema step) ∧
    ((Node.compile (refuseNumbers.foldl register builtin) boundsSchema).bind (·.validate boundsValue)).toOption.map
      Json.toText = some "\x7b\"age\":42,\"tags\":[\"abc\"],\"rest\":[null]\x7d" := by
  refine ⟨refuseNumbers_unmentioned, ?_⟩
  rw [(compile_depends_on_mentions boundsSchema).2 builtin refuseNumbers refuseNumbers_unmentioned]
  decide +kernel

end Conform.Schema
