import Conform.Proofs.Registry.Run
import Conform.Registry.Builtin

namespace Conform

namespace Registry

def Mentionable (name : String) : Prop :=
  name ≠ "" ∧ Text.trimmed name = name ∧ ∀ c ∈ name.toList, c ∉ ['|', '@', '(', ')', ',']

theorem mentionable_iff {name : String} : Mentionable name ↔ nameFault? name = none := by
  simp [Mentionable, nameFault?_eq_none, isReserved, and_assoc]

instance (name : String) : Decidable (Mentionable name) := decidable_of_iff _ mentionable_iff.symm

-- What was taken last for a name, among all that was offered.
def lastTaken? (offers : List (String × α)) (name : String) : Option α :=
  (offers.filter fun offer => decide (Mentionable offer.1 ∧ offer.1 = name)).getLast?.map Prod.snd

theorem lastTaken?_concat (offers : List (String × α)) (offer : String × α) (name : String) :
    lastTaken? (offers ++ [offer]) name =
      if Mentionable offer.1 ∧ offer.1 = name then some offer.2 else lastTaken? offers name := by
  unfold lastTaken?
  by_cases taken : Mentionable offer.1 ∧ offer.1 = name
  · rw [if_pos taken, List.filter_append, List.filter_cons_of_pos (by simpa using taken), List.filter_nil,
      List.getLast?_concat]
    rfl
  · rw [if_neg taken, List.filter_append, List.filter_cons_of_neg (by simpa using taken), List.filter_nil,
      List.append_nil]

end Registry

namespace Table
open Registry

-- What a table holds after a run of offers.
structure Keeps (table initial : Table α) (offers : List (String × α)) : Prop where
  last : ∀ name, table.get? name = (lastTaken? offers name).or (initial.get? name)
  increasing : table.names.Pairwise (· < ·)
  exact : ∀ name, name ∈ table.names ↔ ∃ value, table.get? name = some value
  mentionable : ∀ name ∈ table.names, Mentionable name

theorem offer_of_mentionable (table : Table α) {row : String × α} (fine : Mentionable row.1) :
    table.offer row = table.insert row.1 row.2 := by
  rw [offer, addTo, mentionable_iff.mp fine]

theorem offer_of_not_mentionable (table : Table α) {row : String × α} (faulty : ¬ Mentionable row.1) :
    table.offer row = table := by
  rw [offer, addTo]
  rw [mentionable_iff] at faulty
  cases fault : nameFault? row.1 with
  | none => exact absurd fault faulty
  | some fault => rfl

theorem mem_names {table : Table α} {name : String} : name ∈ table.names ↔ ∃ value, table.get? name = some value := by
  rw [← has_iff_mem_names, has, Option.isSome_iff_exists]

theorem keeps_nothing {initial : Table α} (mentionable : ∀ name ∈ initial.names, Mentionable name) :
    initial.Keeps initial [] :=
  ⟨fun _ => rfl, initial.sorted, fun _ => mem_names, mentionable⟩

theorem keeps_offer {initial table : Table α} {offers : List (String × α)} (kept : table.Keeps initial offers)
    (row : String × α) : (table.offer row).Keeps initial (offers ++ [row]) := by
  by_cases fine : Mentionable row.1
  · rw [offer_of_mentionable table fine]
    refine ⟨fun name => ?_, (table.insert row.1 row.2).sorted, fun _ => mem_names, fun name within => ?_⟩
    · rw [lastTaken?_concat]
      by_cases same : row.1 = name
      · rw [if_pos ⟨fine, same⟩, ← same]
        exact get?_insert_self ..
      · rw [if_neg fun given => same given.2, get?_insert_of_ne _ _ (Ne.symm same)]
        exact kept.last name
    · rcases mem_names_insert.mp within with rfl | old
      · exact fine
      · exact kept.mentionable name old
  · rw [offer_of_not_mentionable table fine]
    refine ⟨fun name => ?_, kept.increasing, kept.exact, kept.mentionable⟩
    rw [lastTaken?_concat, if_neg fun given => fine given.1]
    exact kept.last name

theorem keeps_run {initial table : Table α} {offers : List (String × α)} (kept : table.Keeps initial offers)
    (rows : List (String × α)) : (rows.foldl offer table).Keeps initial (offers ++ rows) := by
  induction rows generalizing table offers with
  | nil => rwa [List.append_nil]
  | cons row rest ih =>
      rw [List.foldl_cons, List.append_cons]
      exact ih (keeps_offer kept row)

end Table

namespace Registry

theorem tryAdd_eq (registry : Registry) (step : Registration) :
    registry.tryAdd step = ((registry.tryRegister step).map fun _ => (), registry.register step) := by
  unfold tryAdd register
  cases registry.tryRegister step <;> rfl

theorem add_eq (registry : Registry) (step : Registration) :
    registry.add step = ((registry.tryRegister step).isOk, registry.register step) := by
  unfold add
  rw [tryAdd_eq]
  cases registry.tryRegister step <;> rfl

theorem after_eq (registry : Registry) (call : Call) : call.after registry = registry.register call.step := by
  cases call with
  | tryAdd step => exact congrArg Prod.snd (tryAdd_eq registry step)
  | add step => exact congrArg Prod.snd (add_eq registry step)

theorem register_type (registry : Registry) (name : String) (entry : TypeEntry) :
    registry.register (.type name entry) = { registry with types := registry.types.offer (name, entry) } := by
  simp only [register, tryRegister, addType, Table.offer]
  cases addTo registry.types name entry <;> rfl

theorem register_transform (registry : Registry) (name : String) (factory : Transform.Factory) :
    registry.register (.transform name factory) =
      { registry with transforms := registry.transforms.offer (name, factory) } := by
  simp only [register, tryRegister, addTransform, Table.offer]
  cases addTo registry.transforms name factory <;> rfl

theorem tryRegister_of_not_mentionable (registry : Registry) {step : Registration} (faulty : ¬ Mentionable step.name) :
    ∃ fault, registry.tryRegister step = .error fault := by
  rw [mentionable_iff] at faulty
  obtain ⟨fault, found⟩ := Option.ne_none_iff_exists'.mp faulty
  refine ⟨fault, ?_⟩
  cases step with
  | type name entry =>
      change nameFault? name = some fault at found
      simp [tryRegister, addType, addTo, found, Except.map]
  | transform name factory =>
      change nameFault? name = some fault at found
      simp [tryRegister, addTransform, addTo, found, Except.map]

-- Whether a registration is taken is a matter of its name, and both ways of asking tell the same.
theorem taken_iff (registry : Registry) (step : Registration) :
    ((registry.add step).1 = true ↔ (registry.tryAdd step).1 = .ok ()) ∧
    ((registry.tryAdd step).1 = .ok () ↔ Mentionable step.name) ∧
    (¬ Mentionable step.name → (registry.tryAdd step).2 = registry ∧ (registry.add step).2 = registry) := by
  rw [tryAdd_eq, add_eq]
  by_cases fine : Mentionable step.name
  · rw [tryRegister_of_fine (mentionable_iff.mp fine)]
    exact ⟨⟨fun _ => rfl, fun _ => rfl⟩, ⟨fun _ => fine, fun _ => rfl⟩, fun faulty => absurd fine faulty⟩
  · obtain ⟨fault, refused⟩ := tryRegister_of_not_mentionable registry fine
    rw [refused, register_of_error refused]
    exact ⟨⟨nofun, nofun⟩, ⟨nofun, fun fine' => absurd fine' fine⟩, fun _ => ⟨rfl, rfl⟩⟩

theorem types_register (registry : Registry) (step : Registration) :
    (registry.register step).types = step.typeOffer?.toList.foldl Table.offer registry.types := by
  cases step with
  | type name entry => rw [register_type]; rfl
  | transform name factory => rw [register_transform]; rfl

theorem transforms_register (registry : Registry) (step : Registration) :
    (registry.register step).transforms = step.transformOffer?.toList.foldl Table.offer registry.transforms := by
  cases step with
  | type name entry => rw [register_type]; rfl
  | transform name factory => rw [register_transform]; rfl

section Side
variable {side : Registry → Table α} {offer? : Registration → Option (String × α)}

-- One of the tables after a run, from what the run offers to that table.
theorem side_run (step : ∀ registry step,
    side (register registry step) = (offer? step).toList.foldl Table.offer (side registry)) (calls : List Call)
    (registry : Registry) :
    side (calls.foldl Call.after registry) = (calls.filterMap (offer? ·.step)).foldl Table.offer (side registry) := by
  induction calls generalizing registry with
  | nil => rfl
  | cons call rest ih =>
      rw [List.foldl_cons, ih, after_eq, step, List.filterMap_cons]
      cases offer? call.step <;> rfl

end Side

theorem mentionable_builtin : (∀ name ∈ builtin.types.names, Mentionable name) ∧
    ∀ name ∈ builtin.transforms.names, Mentionable name := by
  decide +kernel

theorem mentionable_start {start : Registry} (fresh : start = builtin ∨ start = empty) :
    (∀ name ∈ start.types.names, Mentionable name) ∧ ∀ name ∈ start.transforms.names, Mentionable name := by
  rcases fresh with rfl | rfl
  · exact mentionable_builtin
  · exact ⟨nofun, nofun⟩

-- A table does not notice calls that offer it nothing.
theorem unmoved_of_no_offer (registry : Registry) (call : Call) :
    (call.step.typeOffer? = none → (call.after registry).types = registry.types) ∧
    (call.step.transformOffer? = none → (call.after registry).transforms = registry.transforms) := by
  rw [after_eq, types_register, transforms_register]
  constructor
  · intro nothing
    rw [nothing]
    rfl
  · intro nothing
    rw [nothing]
    rfl

-- Each table holds, under each name, what was taken for it last, whatever was refused in between.
theorem tables_keep_last_taken {start : Registry} (fresh : start = builtin ∨ start = empty) (calls : List Call) :
    (∀ registry step,
      ((add registry step).1 = true ↔ (tryAdd registry step).1 = .ok ()) ∧
      ((tryAdd registry step).1 = .ok () ↔ Mentionable step.name) ∧
      (¬ Mentionable step.name → (tryAdd registry step).2 = registry ∧ (add registry step).2 = registry)) ∧
    (∀ registry (call : Call),
      (call.step.typeOffer? = none → (call.after registry).types = registry.types) ∧
      (call.step.transformOffer? = none → (call.after registry).transforms = registry.transforms)) ∧
    (calls.foldl Call.after start).types.Keeps start.types (calls.filterMap (·.step.typeOffer?)) ∧
    (calls.foldl Call.after start).transforms.Keeps start.transforms (calls.filterMap (·.step.transformOffer?)) := by
  obtain ⟨types, transforms⟩ := mentionable_start fresh
  refine ⟨taken_iff, unmoved_of_no_offer, ?_, ?_⟩
  · rw [side_run types_register]
    exact Table.keeps_run (Table.keeps_nothing types) _
  · rw [side_run transforms_register]
    exact Table.keeps_run (Table.keeps_nothing transforms) _

def anything : TypeEntry := ⟨some, true⟩

def nothing : TypeEntry := ⟨fun _ => none, false⟩

def kept : Transform.Factory := .configurable fun _ => .ok .ok

-- One name in both tables, of the types twice, and two names that are refused.
def portCalls : List Call := [
  .add (.type "port" nothing), .add (.transform "port" kept), .tryAdd (.type "port" anything),
  .tryAdd (.type "port " nothing), .add (.type "port@" nothing)]

theorem portCalls_kept : (portCalls.foldl Call.after builtin).types.get? "port" = some anything ∧
    (portCalls.foldl Call.after builtin).transforms.get? "port" = some kept ∧
    (portCalls.foldl Call.after builtin).types.get? "int" = builtin.types.get? "int" ∧
    "port@" ∉ (portCalls.foldl Call.after builtin).types.names := by
  obtain ⟨_, _, types, transforms⟩ := tables_keep_last_taken (.inl rfl) portCalls
  refine ⟨(types.last "port").trans rfl, (transforms.last "port").trans rfl, (types.last "int").trans rfl, ?_⟩
  exact fun within => absurd (types.mentionable _ within) (by decide +kernel)

end Registry
end Conform
