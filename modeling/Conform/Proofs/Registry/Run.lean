import Conform.Registry.Registration

namespace Conform.Registry

def GivesType (name : String) (step : Registration) : Prop := ∃ entry, step = .type name entry

def GivesTransform (name : String) (step : Registration) : Prop := ∃ factory, step = .transform name factory

def LastType (steps : List Registration) (name : String) (entry : TypeEntry) : Prop :=
  ∃ before after, steps = before ++ .type name entry :: after ∧ ∀ step ∈ after, ¬ GivesType name step

def LastTransform (steps : List Registration) (name : String) (factory : Transform.Factory) : Prop :=
  ∃ before after, steps = before ++ .transform name factory :: after ∧ ∀ step ∈ after, ¬ GivesTransform name step

theorem addType_eq_ok {registry later : Registry} {name : String} {entry : TypeEntry} :
    registry.addType name entry = .ok later ↔
      nameFault? name = none ∧ later = { registry with types := registry.types.insert name entry } := by
  unfold addType addTo
  cases nameFault? name with
  | none => simp [Except.map, eq_comm]
  | some fault => simp [Except.map]

theorem addTransform_eq_ok {registry later : Registry} {name : String} {factory : Transform.Factory} :
    registry.addTransform name factory = .ok later ↔
      nameFault? name = none ∧ later = { registry with transforms := registry.transforms.insert name factory } := by
  unfold addTransform addTo
  cases nameFault? name with
  | none => simp [Except.map, eq_comm]
  | some fault => simp [Except.map]

theorem register_of_ok {registry later : Registry} {step : Registration}
    (taken : registry.tryRegister step = .ok later) : registry.register step = later := by
  rw [register, taken]

theorem register_of_error {registry : Registry} {step : Registration} {fault : NameFault}
    (refused : registry.tryRegister step = .error fault) : registry.register step = registry := by
  rw [register, refused]

theorem get?_type_register {name : String} (registry : Registry) {step : Registration} (apart : ¬ GivesType name step) :
    (registry.register step).types.get? name = registry.types.get? name := by
  cases taken : registry.tryRegister step with
  | error fault => rw [register_of_error taken]
  | ok later =>
      rw [register_of_ok taken]
      cases step with
      | type given entry =>
          obtain ⟨_, rfl⟩ := addType_eq_ok.mp taken
          exact Table.get?_insert_of_ne _ _ fun same => apart ⟨entry, by rw [same]⟩
      | transform given factory =>
          obtain ⟨_, rfl⟩ := addTransform_eq_ok.mp taken
          rfl

theorem get?_transform_register {name : String} (registry : Registry) {step : Registration}
    (apart : ¬ GivesTransform name step) :
    (registry.register step).transforms.get? name = registry.transforms.get? name := by
  cases taken : registry.tryRegister step with
  | error fault => rw [register_of_error taken]
  | ok later =>
      rw [register_of_ok taken]
      cases step with
      | type given entry =>
          obtain ⟨_, rfl⟩ := addType_eq_ok.mp taken
          rfl
      | transform given factory =>
          obtain ⟨_, rfl⟩ := addTransform_eq_ok.mp taken
          exact Table.get?_insert_of_ne _ _ fun same => apart ⟨factory, by rw [same]⟩

theorem accepted_cons {registry ready : Registry} {step : Registration} {rest : List Registration} :
    (step :: rest).foldlM tryRegister registry = .ok ready ↔
      ∃ later, registry.tryRegister step = .ok later ∧ rest.foldlM tryRegister later = .ok ready := by
  rw [List.foldlM_cons]
  cases taken : registry.tryRegister step with
  | error fault =>
      constructor
      · intro accepted
        cases accepted
      · rintro ⟨later, same, _⟩
        cases same
  | ok later =>
      constructor
      · exact fun accepted => ⟨later, rfl, accepted⟩
      · rintro ⟨_, same, accepted⟩
        cases same
        exact accepted

theorem run_of_accepted {registry ready : Registry} {steps : List Registration}
    (accepted : steps.foldlM tryRegister registry = .ok ready) : steps.foldl register registry = ready := by
  induction steps generalizing registry with
  | nil =>
      cases accepted
      rfl
  | cons step rest ih =>
      obtain ⟨later, taken, accepted⟩ := accepted_cons.mp accepted
      rw [List.foldl_cons, register_of_ok taken, ih accepted]

-- Whether a registration is taken is a matter of its name alone.
theorem tryRegister_of_fine {step : Registration} (fine : nameFault? step.name = none) (registry : Registry) :
    registry.tryRegister step = .ok (registry.register step) := by
  have taken : ∃ later, registry.tryRegister step = .ok later := by
    cases step with
    | type name entry => exact ⟨_, addType_eq_ok.mpr ⟨fine, rfl⟩⟩
    | transform name factory => exact ⟨_, addTransform_eq_ok.mpr ⟨fine, rfl⟩⟩
  obtain ⟨later, taken⟩ := taken
  rw [taken, register_of_ok taken]

theorem accepted_of_fine {steps : List Registration} (fine : ∀ step ∈ steps, nameFault? step.name = none)
    (registry : Registry) : steps.foldlM tryRegister registry = .ok (steps.foldl register registry) := by
  induction steps generalizing registry with
  | nil => rfl
  | cons step rest ih =>
      rw [List.forall_mem_cons] at fine
      exact accepted_cons.mpr ⟨_, tryRegister_of_fine fine.1 registry, ih fine.2 _⟩

theorem accepted_at {registry ready : Registry} {before after : List Registration} {step : Registration}
    (accepted : (before ++ step :: after).foldlM tryRegister registry = .ok ready) :
    ∃ earlier later, tryRegister earlier step = .ok later ∧ after.foldl register later = ready := by
  induction before generalizing registry with
  | nil =>
      obtain ⟨later, taken, accepted⟩ := accepted_cons.mp accepted
      exact ⟨registry, later, taken, run_of_accepted accepted⟩
  | cons first rest ih =>
      obtain ⟨later, _, accepted⟩ := accepted_cons.mp accepted
      exact ih accepted

section Look
variable (look : Registry → α) {gives : Registration → Prop}

-- What no step of a run touches, the run does not touch.
theorem look_run (frame : ∀ registry step, ¬ gives step → look (registry.register step) = look registry)
    {steps : List Registration} (apart : ∀ step ∈ steps, ¬ gives step) (registry : Registry) :
    look (steps.foldl register registry) = look registry := by
  induction steps generalizing registry with
  | nil => rfl
  | cons step rest ih =>
      rw [List.forall_mem_cons] at apart
      rw [List.foldl_cons, ih apart.2, frame registry step apart.1]

end Look

theorem get?_of_lastType {registry ready : Registry} {steps : List Registration}
    (accepted : steps.foldlM tryRegister registry = .ok ready) {name : String} {entry : TypeEntry}
    (last : LastType steps name entry) : nameFault? name = none ∧ ready.types.get? name = some entry := by
  obtain ⟨before, after, rfl, apart⟩ := last
  obtain ⟨earlier, later, taken, rfl⟩ := accepted_at accepted
  obtain ⟨fine, rfl⟩ := addType_eq_ok.mp taken
  refine ⟨fine, ?_⟩
  rw [look_run (·.types.get? name) (fun registry _ => get?_type_register registry) apart]
  exact Table.get?_insert_self _ _ _

theorem get?_of_lastTransform {registry ready : Registry} {steps : List Registration}
    (accepted : steps.foldlM tryRegister registry = .ok ready) {name : String} {factory : Transform.Factory}
    (last : LastTransform steps name factory) :
    nameFault? name = none ∧ ready.transforms.get? name = some factory := by
  obtain ⟨before, after, rfl, apart⟩ := last
  obtain ⟨earlier, later, taken, rfl⟩ := accepted_at accepted
  obtain ⟨fine, rfl⟩ := addTransform_eq_ok.mp taken
  refine ⟨fine, ?_⟩
  rw [look_run (·.transforms.get? name) (fun registry _ => get?_transform_register registry) apart]
  exact Table.get?_insert_self _ _ _

end Conform.Registry
