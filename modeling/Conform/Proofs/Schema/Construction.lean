import Conform.Proofs.Schema.Level
import Conform.Registry.Builtin
import Conform.Schema.Validator

namespace Conform.Schema
open Report (recorded recorded_map recorded_error recorded_result explained_message explained_result recorded_eq_nil)

-- Where a schema stands, or a key whose name an earlier key of the object has already.
inductive Position
  | schema (part : Json)
  | repeated

def lower (segment : Segment) (place : Path × Position) : Path × Position := (segment :: place.1, place.2)

mutual

-- Every position of a schema with its path, in the order of the document.
def positions : Json → List (Path × Position)
  | .array [] => [([], .schema (.array [])), ([.index 0], .schema (.string "any"))]
  | .array (item :: items) => ([], .schema (.array (item :: items))) :: itemPositions 0 (item :: items)
  | .object members => ([], .schema (.object members)) :: memberPositions [] members
  | .null => [([], .schema .null)]
  | .bool value => [([], .schema (.bool value))]
  | .number value => [([], .schema (.number value))]
  | .string text => [([], .schema (.string text))]

-- `earlier` has the names of all keys before, also of those whose schema is wrong.
def memberPositions (earlier : List String) : List (String × Json) → List (Path × Position)
  | [] => []
  | (text, part) :: rest =>
      let name := (Key.ofText text).name
      let here := if name ∈ earlier then [([.key text], .repeated)] else (positions part).map (lower (.key text))
      here ++ memberPositions (name :: earlier) rest

def itemPositions (position : Nat) : List Json → List (Path × Position)
  | [] => []
  | part :: rest => (positions part).map (lower (.index position)) ++ itemPositions (position + 1) rest

end

def callFault? (registry : Registry) (call : Leaf.Call) : Option String :=
  match registry.transforms.get? call.name with
  | none => some ("Unknown transform: " ++ call.name)
  | some factory => match factory.build call.arguments with
      | .error message => some message
      | .ok _ => none

-- Without a type there is nothing else to say about a leaf.
def leafFaults (registry : Registry) (text : String) : List String :=
  let (leaf, fault) := Leaf.readPartial text
  if leaf.candidates = [] then ["Type is missing"]
  else leaf.calls.filterMap (callFault? registry) ++ (fault.map Leaf.Fault.message).toList ++
    (leaf.candidates.filter fun name => !registry.types.has name).map fun name => "Unknown type '" ++ name ++ "'"

-- What is wrong at a position itself, whatever lies below it.
def ownFaults (registry : Registry) : Position → List String
  | .repeated => ["Duplicate key"]
  | .schema (.string text) => leafFaults registry text
  | .schema (.array _) | .schema (.object _) => []
  | .schema part => ["Invalid value; \x7b" ++ Loose.text part ++ "\x7d"]

def placeRecords (registry : Registry) (place : Path × Position) : List Record :=
  (ownFaults registry place.2).map (Record.mk place.1)

def construction (registry : Registry) (schema : Json) : Report := ⟨(positions schema).flatMap (placeRecords registry)⟩

theorem records_lower (registry : Registry) (segment : Segment) (schema : Json) :
    ((positions schema).map (lower segment)).flatMap (placeRecords registry) =
      (construction registry schema).records.map (·.under [segment]) := by
  rw [construction, List.flatMap_map, List.map_flatMap]
  refine congrArg (fun each => List.flatMap each (positions schema)) (funext fun place => ?_)
  rw [placeRecords, placeRecords, List.map_map]
  rfl

namespace Rule

theorem failures_calls (registry : Registry) (calls : List Leaf.Call) :
    failures (calls.map (Registry.instantiate registry.transforms)) = calls.filterMap (callFault? registry) := by
  rw [failures, List.filterMap_map]
  refine congrArg (fun each => List.filterMap each calls) (funext fun call => ?_)
  rw [Function.comp_apply, Registry.instantiate, callFault?]
  cases registry.transforms.get? call.name with
  | none => rfl
  | some factory =>
      dsimp only
      cases factory.build call.arguments with
      | error message => rfl
      | ok transform => rfl

theorem failures_types (types : Table TypeEntry) (names : List String) :
    failures (names.map (lookUp types)) =
      (names.filter fun name => !types.has name).map fun name => "Unknown type '" ++ name ++ "'" := by
  induction names with
  | nil => rfl
  | cons name rest ih =>
      rw [failures] at ih ⊢
      rw [List.map_cons, List.filterMap_cons, ih, List.filter_cons, Table.has, lookUp]
      cases types.get? name with
      | none => rfl
      | some entry => rfl

theorem recorded_compile (registry : Registry) (text : String) :
    recorded (compile registry text) = (leafFaults registry text).map Record.here := by
  unfold compile leafFaults
  dsimp only
  by_cases none : (Leaf.readPartial text).1.candidates = []
  · rw [if_pos none, if_pos (List.isEmpty_iff.mpr none)]
    rfl
  · rw [if_neg none, if_neg fun empty => none (List.isEmpty_iff.mp empty), recorded_result, failures_calls,
      failures_types, Option.toList_map]

end Rule

namespace Node

theorem recorded_leaf (registry : Registry) (text : String) :
    recorded (compile registry (.string text)) = (construction registry (.string text)).records := by
  rw [compile, recorded_map, Rule.recorded_compile, construction, positions]
  simp only [List.flatMap_cons, List.flatMap_nil, List.append_nil]
  rfl

theorem recorded_items {registry : Registry} {items : List Json}
    (below : ∀ item ∈ items, recorded (compile registry item) = (construction registry item).records)
    (position : Nat) :
    recorded (compileItems registry position items).gather =
      (itemPositions position items).flatMap (placeRecords registry) := by
  rw [Outcomes.recorded_gather]
  induction items generalizing position with
  | nil => rfl
  | cons item rest ih =>
      have later := ih (fun next within => below next (List.mem_cons_of_mem _ within)) (position + 1)
      rw [compileItems, itemPositions, List.flatMap_cons, List.flatMap_append, records_lower, later,
        below item (List.mem_cons_self ..)]

-- The compiler keeps the names of keys that are no repetition; the names of all keys are the same set.
theorem recorded_members {registry : Registry} {members : Members}
    (below : ∀ member ∈ members, recorded (compile registry member.2) = (construction registry member.2).records)
    {declared earlier : List String} (same : ∀ name, name ∈ declared ↔ name ∈ earlier) :
    recorded (compileMembers registry declared members).gather =
      (memberPositions earlier members).flatMap (placeRecords registry) := by
  rw [Outcomes.recorded_gather]
  induction members generalizing declared earlier with
  | nil => rfl
  | cons member rest ih =>
      obtain ⟨text, part⟩ := member
      have rest := @ih fun next within => below next (List.mem_cons_of_mem _ within)
      rw [compileMembers, memberPositions]
      by_cases taken : (Key.ofText text).name ∈ earlier
      · have repeated : ∀ name, name ∈ declared ↔ name ∈ (Key.ofText text).name :: earlier := by
          intro name
          rw [same, List.mem_cons]
          exact ⟨.inr, fun found => found.elim (fun equal => equal ▸ taken) id⟩
        rw [if_pos (List.contains_iff_mem.mpr ((same _).mpr taken)), if_pos taken, List.flatMap_cons,
          List.flatMap_append, rest repeated]
        rfl
      · have both : ∀ name, name ∈ (Key.ofText text).name :: declared ↔ name ∈ (Key.ofText text).name :: earlier := by
          intro name
          rw [List.mem_cons, List.mem_cons, same]
        rw [if_neg fun found => taken ((same _).mp (List.contains_iff_mem.mp found)), if_neg taken,
          List.flatMap_cons, List.flatMap_append, records_lower, recorded_map, below _ (List.mem_cons_self ..),
          rest both]

theorem recorded_compile (registry : Registry) (schema : Json) :
    recorded (compile registry schema) = (construction registry schema).records := by
  induction schema using Json.induction with
  | null | bool | number => rfl
  | string text => exact recorded_leaf registry text
  | array items below =>
      cases items with
      | nil =>
          have any := recorded_leaf registry "any"
          rw [compile, recorded_map] at any
          have spelled : positions (.array []) =
              ([], .schema (.array [])) :: (positions (.string "any")).map (lower (.index 0)) := by
            simp only [positions, List.map_cons, List.map_nil, lower]
          rw [compile, recorded_map, Outcomes.recorded_gather, List.flatMap_cons, List.flatMap_nil, List.append_nil,
            recorded_map, any]
          dsimp only
          rw [← records_lower, construction, spelled, List.flatMap_cons]
          rfl
      | cons item rest =>
          rw [compile, recorded_map, recorded_items below, construction, positions, List.flatMap_cons]
          rfl
  | object members below =>
      rw [compile, recorded_map, recorded_members below fun name => Iff.rfl, construction, positions, List.flatMap_cons]
      rfl

end Node

theorem compile_eq_ok_iff (registry : Registry) (schema : Json) :
    (∃ node, Node.compile registry schema = .ok node) ↔ (construction registry schema).isEmpty = true := by
  rw [← recorded_eq_nil (Node.explained_compile registry schema), Node.recorded_compile]
  exact List.isEmpty_iff.symm

theorem compile_eq_error {registry : Registry} {schema : Json}
    (faulty : (construction registry schema).isEmpty = false) :
    Node.compile registry schema = .error (construction registry schema) := by
  cases compiled : Node.compile registry schema with
  | ok node =>
      have empty := (compile_eq_ok_iff registry schema).mp ⟨node, compiled⟩
      rw [faulty] at empty
      cases empty
  | error report =>
      have held := Node.recorded_compile registry schema
      rw [compiled, recorded_error] at held
      exact congrArg (Except.error ∘ Report.mk) held

end Conform.Schema

namespace Conform.Validator
open Schema

theorem construction_reports_every_fault (registry : Registry) {schema : Json} (root : schema.isContainer = true) :
    (new registry schema).constructionReport = construction registry schema ∧
    ((new registry schema).isInitialized = true ↔ (construction registry schema).isEmpty = true) ∧
    ((∃ validator, compile registry schema = .ok validator) ↔ (construction registry schema).isEmpty = true) ∧
    ((construction registry schema).isEmpty = true → compile registry schema = .ok (new registry schema)) ∧
    ((construction registry schema).isEmpty = false →
      compile registry schema = .error (construction registry schema) ∧
      ∀ value, (new registry schema).validate value =
        .error (.ofMessage "Validator has not been initialised")) := by
  have rooted : compileRoot registry schema = Node.compile registry schema := by rw [compileRoot, if_pos root]
  cases empty : (construction registry schema).isEmpty with
  | true =>
      obtain ⟨node, compiled⟩ := (compile_eq_ok_iff registry schema).mpr empty
      have nothing : construction registry schema = ∅ := congrArg Report.mk (List.isEmpty_iff.mp empty)
      simp [new, compile, constructionReport, isInitialized, rooted, compiled, nothing, Except.map]
  | false =>
      have refused := compile_eq_error empty
      simp [new, compile, constructionReport, isInitialized, validate, rooted, refused, notInitialized, Except.map]

-- A key is written twice, and what is wrong with the first does not hide that.
def brokenSchema : Json :=
  .object [("a", .null), ("?a", .string "int"), ("b", .array [.string "int|what@nope", .array []])]

def brokenReport : Report :=
  ⟨[⟨[.key "a"], "Invalid value; \x7bnull\x7d"⟩, ⟨[.key "?a"], "Duplicate key"⟩,
    ⟨[.key "b", .index 0], "Unknown transform: nope"⟩, ⟨[.key "b", .index 0], "Unknown type 'what'"⟩]⟩

theorem brokenSchema_reported : brokenSchema.isContainer = true ∧
    (new Registry.builtin brokenSchema).constructionReport = brokenReport ∧
    compile Registry.builtin brokenSchema = .error brokenReport ∧
    (new Registry.builtin brokenSchema).validate .null = .error (.ofMessage "Validator has not been initialised") := by
  have root : brokenSchema.isContainer = true := rfl
  have spelled : construction Registry.builtin brokenSchema = brokenReport := by decide +kernel
  obtain ⟨report, _, _, _, refused⟩ := construction_reports_every_fault Registry.builtin root
  rw [spelled] at report refused
  obtain ⟨error, refusal⟩ := refused (by decide)
  exact ⟨root, report, error, refusal .null⟩

end Conform.Validator
