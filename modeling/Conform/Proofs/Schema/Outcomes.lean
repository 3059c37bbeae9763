import Conform.Schema.Node

namespace Conform

namespace Report

def recorded : Except Report α → List Record
  | .ok _ => []
  | .error report => report.records

-- A refusal that holds no record would get lost among the outcomes of its parent.
def Explained (result : Except Report α) : Prop := ∀ report, result = .error report → report.isEmpty = false

@[simp] theorem recorded_ok (value : α) : recorded (.ok value) = [] := rfl

@[simp] theorem recorded_error (report : Report) : recorded (.error report : Except Report α) = report.records := rfl

@[simp] theorem recorded_map (change : α → β) (result : Except Report α) :
    recorded (result.map change) = recorded result := by
  cases result <;> rfl

theorem map_eq_ok {change : α → β} {result : Except Report α} {image : β} :
    result.map change = .ok image ↔ ∃ value, result = .ok value ∧ image = change value := by
  cases result with
  | ok value =>
      constructor
      · intro same; cases same; exact ⟨value, rfl, rfl⟩
      · intro given
        obtain ⟨_, same, rfl⟩ := given
        cases same
        rfl
  | error report =>
      constructor
      · intro same; cases same
      · intro given
        obtain ⟨_, same, _⟩ := given
        cases same

theorem recorded_result (report : Report) (value : α) : recorded (report.result value) = report.records := by
  unfold Report.result
  split
  · rename_i empty
    exact (List.isEmpty_iff.mp empty).symm
  · rfl

theorem explained_message (message : String) : Explained (.error (.ofMessage message) : Except Report α) := by
  intro report refused
  cases refused
  rfl

theorem explained_map {change : α → β} {result : Except Report α} (explained : Explained result) :
    Explained (result.map change) := by
  intro report refused
  cases result with
  | ok value => cases refused
  | error inner => cases refused; exact explained _ rfl

theorem explained_result (report : Report) (value : α) : Explained (report.result value) := by
  intro refusal refused
  unfold Report.result at refused
  split at refused
  · cases refused
  · rename_i filled
    cases refused
    simpa using filled

theorem recorded_eq_nil {result : Except Report α} (explained : Explained result) :
    recorded result = [] ↔ ∃ value, result = .ok value := by
  cases result with
  | ok value => exact ⟨fun _ => ⟨value, rfl⟩, fun _ => rfl⟩
  | error report =>
      refine ⟨fun nothing => ?_, fun ⟨_, ok⟩ => by cases ok⟩
      have filled := explained report rfl
      rw [recorded_error] at nothing
      rw [isEmpty, nothing] at filled
      cases filled

end Report

namespace Schema.Node.Outcomes
open Report

theorem records_report (outcomes : Outcomes α) :
    outcomes.report.records = outcomes.flatMap fun outcome => (recorded outcome.2).map (·.under [outcome.1]) := by
  unfold Outcomes.report
  refine congrArg (fun records => List.flatMap records outcomes) (funext fun outcome => ?_)
  cases outcome.2 <;> rfl

theorem recorded_gather (outcomes : Outcomes α) :
    recorded outcomes.gather = outcomes.flatMap fun outcome => (recorded outcome.2).map (·.under [outcome.1]) := by
  rw [gather, recorded_result, records_report]

theorem explained_gather (outcomes : Outcomes α) : Explained outcomes.gather := explained_result _ _

theorem mem_recorded_gather {outcomes : Outcomes α} {record : Record} :
    record ∈ recorded outcomes.gather ↔
      ∃ outcome ∈ outcomes, ∃ inner ∈ recorded outcome.2, record = inner.under [outcome.1] := by
  simp only [recorded_gather, List.mem_flatMap, List.mem_map, eq_comm]

theorem values_of_ok {outcomes : Outcomes α} {values : List α}
    (all : outcomes.map Prod.snd = values.map Except.ok) : outcomes.values = values := by
  induction outcomes generalizing values with
  | nil => cases values with
      | nil => rfl
      | cons => cases all
  | cons outcome rest ih =>
      cases values with
      | nil => cases all
      | cons value values =>
          obtain ⟨place, result⟩ := outcome
          simp only [List.map_cons, List.cons.injEq] at all
          obtain ⟨rfl, later⟩ := all
          exact congrArg (value :: ·) (ih later)

theorem ok_of_report_nil {outcomes : Outcomes α} (explained : ∀ outcome ∈ outcomes, Explained outcome.2)
    (nothing : outcomes.report.records = []) : outcomes.map Prod.snd = outcomes.values.map Except.ok := by
  rw [records_report, List.flatMap_eq_nil_iff] at nothing
  induction outcomes with
  | nil => rfl
  | cons outcome rest ih =>
      have silent := nothing outcome (List.mem_cons_self ..)
      rw [List.map_eq_nil_iff, recorded_eq_nil (explained _ (List.mem_cons_self ..))] at silent
      obtain ⟨value, ok⟩ := silent
      have later := ih (fun next within => explained next (List.mem_cons_of_mem _ within))
        (fun next within => nothing next (List.mem_cons_of_mem _ within))
      simp only [List.map_cons, later, values, ok, List.filterMap_cons]

theorem gather_eq_ok {outcomes : Outcomes α} {values : List α}
    (explained : ∀ outcome ∈ outcomes, Explained outcome.2) :
    outcomes.gather = .ok values ↔ outcomes.map Prod.snd = values.map Except.ok := by
  constructor
  · intro gathered
    unfold gather Report.result at gathered
    split at gathered
    · rename_i empty
      cases gathered
      exact ok_of_report_nil explained (List.isEmpty_iff.mp empty)
    · cases gathered
  · intro all
    have nothing : outcomes.report.records = [] := by
      rw [records_report, List.flatMap_eq_nil_iff]
      intro outcome within
      have ok : outcome.2 ∈ values.map Except.ok := all ▸ List.mem_map_of_mem within
      obtain ⟨value, _, same⟩ := List.mem_map.mp ok
      rw [← same, recorded_ok, List.map_nil]
    have empty : outcomes.report.isEmpty = true := List.isEmpty_iff.mpr nothing
    rw [gather, Report.result, if_pos empty, values_of_ok all]

-- What happened at the items of a list, each at its position.
def indexed (result : Nat → β → Except Report α) (items : List β) : Outcomes α :=
  items.mapIdx fun position item => (.index position, result position item)

theorem mem_indexed {result : Nat → β → Except Report α} {items : List β} {outcome : Segment × Except Report α} :
    outcome ∈ indexed result items ↔
      ∃ position item, items[position]? = some item ∧ outcome = (.index position, result position item) := by
  simp only [indexed, List.mem_iff_getElem?, List.getElem?_mapIdx, Option.map_eq_some_iff]
  constructor
  · intro given
    obtain ⟨position, item, found, same⟩ := given
    exact ⟨position, item, found, same.symm⟩
  · intro given
    obtain ⟨position, item, found, same⟩ := given
    exact ⟨position, item, found, same.symm⟩

theorem mem_recorded_indexed {result : Nat → β → Except Report α} {items : List β} {record : Record} :
    record ∈ recorded (indexed result items).gather ↔
      ∃ position item, items[position]? = some item ∧
        ∃ inner ∈ recorded (result position item), record = inner.under [.index position] := by
  rw [mem_recorded_gather]
  constructor
  · intro given
    obtain ⟨_, within, inner, held, rfl⟩ := given
    obtain ⟨position, item, found, rfl⟩ := mem_indexed.mp within
    exact ⟨position, item, found, inner, held, rfl⟩
  · intro given
    obtain ⟨position, item, found, inner, held, rfl⟩ := given
    exact ⟨_, mem_indexed.mpr ⟨position, item, found, rfl⟩, inner, held, rfl⟩

theorem indexed_gather_eq_ok {result : Nat → β → Except Report α} {items : List β} {values : List α}
    (explained : ∀ position item, Explained (result position item)) :
    (indexed result items).gather = .ok values ↔ items.mapIdx result = values.map Except.ok := by
  rw [gather_eq_ok]
  · have results : (indexed result items).map Prod.snd = items.mapIdx result := by
      apply List.ext_getElem?
      intro position
      simp only [indexed, List.getElem?_map, List.getElem?_mapIdx, Option.map_map, Function.comp_def]
    rw [results]
  · intro outcome within
    obtain ⟨position, item, _, rfl⟩ := mem_indexed.mp within
    exact explained position item

end Schema.Node.Outcomes
end Conform
