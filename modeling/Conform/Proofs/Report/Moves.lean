import Conform.Report.Basic
import Mathlib.Data.List.Forall2
import Mathlib.Data.List.Induction
import Mathlib.Logic.Function.Basic

namespace Conform.Report

-- A report is not moved into itself.
inductive Operation (Slot : Type)
  | push (slot : Slot) (record : Record)
  | inherit (source target : Slot) (apart : source ≠ target) (place : Path)

section
variable {Slot : Type} [DecidableEq Slot]

namespace Operation

def act : Operation Slot → (Slot → Report) → Slot → Report
  | .push slot record, reports => Function.update reports slot ((reports slot).push record)
  | .inherit source target _ place, reports =>
      let (left, grown) := (reports source).move (reports target) place
      Function.update (Function.update reports source left) target grown

-- The report that holds what was in this one.
def next : Operation Slot → Slot → Slot
  | .push .., slot => slot
  | .inherit source target _ _, slot => if slot = source then target else slot

-- The path that is put before those of the records in a report, if the operation moves them.
def place? : Operation Slot → Slot → Option Path
  | .push .., _ => none
  | .inherit source _ _ place, slot => if slot = source then some place else none

-- Which pushes the reports hold, after one at this position.
def hold (position : Nat) : Operation Slot → (Slot → List Nat) → Slot → List Nat
  | .push slot _, held => Function.update held slot (held slot ++ [position])
  | .inherit source target _ _, held =>
      Function.update (Function.update held source []) target (held target ++ held source)

end Operation

def run (operations : List (Operation Slot)) : Slot → Report :=
  operations.foldl (fun reports operation => operation.act reports) fun _ => ∅

-- The pushes, told apart by their positions, that the records of a report come from, in the order of the records.
def held (operations : List (Operation Slot)) : Slot → List Nat :=
  operations.zipIdx.foldl (fun held (operation, position) => operation.hold position held) fun _ => []

-- The report that what is in this one comes to be in.
def destination (operations : List (Operation Slot)) (slot : Slot) : Slot :=
  operations.foldl (fun slot operation => operation.next slot) slot

-- The paths of the moves by which it comes there, the latest move first.
def places : List (Operation Slot) → Slot → List Path
  | [], _ => []
  | operation :: rest, slot => places rest (operation.next slot) ++ (operation.place? slot).toList

-- A push and what it comes to: a record in one report.
def Ends (operations : List (Operation Slot)) (slot : Slot) (position : Nat) (record : Record) : Prop :=
  ∃ before first pushed after, operations = before ++ .push first pushed :: after ∧ position = before.length ∧
    slot = destination after first ∧ record = ⟨(places after first).flatten ++ pushed.path, pushed.message⟩

section Step
variable (operations : List (Operation Slot)) (operation : Operation Slot)

theorem run_concat : run (operations ++ [operation]) = operation.act (run operations) := by
  rw [run, List.foldl_append]
  rfl

theorem held_concat : held (operations ++ [operation]) = operation.hold operations.length (held operations) := by
  rw [held, List.zipIdx_append, List.foldl_append, Nat.zero_add]
  rfl

theorem destination_concat (slot : Slot) :
    destination (operations ++ [operation]) slot = operation.next (destination operations slot) := by
  rw [destination, List.foldl_append]
  rfl

theorem places_concat (slot : Slot) : places (operations ++ [operation]) slot =
    (operation.place? (destination operations slot)).toList ++ places operations slot := by
  induction operations generalizing slot with
  | nil => simp [places, destination]
  | cons first rest ih =>
      rw [List.cons_append, places, ih, places, List.append_assoc]
      rfl

end Step

section Push
variable (operations : List (Operation Slot)) (slot : Slot) (record : Record)

theorem run_push (other : Slot) : run (operations ++ [.push slot record]) other =
    if other = slot then (run operations slot).push record else run operations other := by
  rw [run_concat, Operation.act, Function.update_apply]

theorem held_push (other : Slot) : held (operations ++ [.push slot record]) other =
    if other = slot then held operations slot ++ [operations.length] else held operations other := by
  rw [held_concat, Operation.hold, Function.update_apply]

end Push

section Inherit
variable (operations : List (Operation Slot)) {source target : Slot} (apart : source ≠ target) (place : Path)

theorem run_inherit (other : Slot) : run (operations ++ [.inherit source target apart place]) other =
    if other = target then run operations target ++ (run operations source).under place
    else if other = source then ∅ else run operations other := by
  rw [run_concat, Operation.act, move]
  simp only [Function.update_apply]

theorem held_inherit (other : Slot) : held (operations ++ [.inherit source target apart place]) other =
    if other = target then held operations target ++ held operations source
    else if other = source then [] else held operations other := by
  rw [held_concat, Operation.hold]
  simp only [Function.update_apply]

end Inherit

section Ends
variable {operations : List (Operation Slot)} {slot : Slot} {position : Nat} {record : Record}

theorem Ends.position_lt (ends : Ends operations slot position record) : position < operations.length := by
  obtain ⟨before, first, pushed, after, rfl, rfl, _⟩ := ends
  simp

-- What a push comes to after one more operation, which may move the report that it is in.
theorem Ends.concat (ends : Ends operations slot position record) (operation : Operation Slot) :
    Ends (operations ++ [operation]) (operation.next slot) position
      (record.under ((operation.place? slot).getD [])) := by
  obtain ⟨before, first, pushed, after, rfl, rfl, rfl, rfl⟩ := ends
  refine ⟨before, first, pushed, after ++ [operation], by simp, rfl, (destination_concat after operation first).symm, ?_⟩
  rw [places_concat, List.flatten_append, Record.under]
  cases operation.place? (destination after first) <;> simp

theorem ends_push (operations : List (Operation Slot)) (slot : Slot) (record : Record) :
    Ends (operations ++ [.push slot record]) slot operations.length record :=
  ⟨operations, slot, record, [], rfl, rfl, rfl, rfl⟩

end Ends

theorem forall₂_ends (operations : List (Operation Slot)) (slot : Slot) :
    List.Forall₂ (Ends operations slot) (held operations slot) (run operations slot).records := by
  induction operations using List.reverseRecOn generalizing slot with
  | nil => exact .nil
  | append_singleton earlier operation ih =>
      cases operation with
      | push first pushed =>
          have kept : ∀ slot, List.Forall₂ (Ends (earlier ++ [.push first pushed]) slot) (held earlier slot)
              (run earlier slot).records :=
            fun slot => (ih slot).imp fun _ _ ends => ends.concat (.push first pushed)
          rw [held_push, run_push]
          split
          · rename_i same
            rw [same]
            exact List.rel_append (kept first) (.cons (ends_push earlier first pushed) .nil)
          · exact kept slot
      | inherit source target apart place =>
          have moved : ∀ slot, List.Forall₂ (Ends (earlier ++ [.inherit source target apart place])
              ((Operation.inherit source target apart place).next slot)) (held earlier slot)
              ((run earlier slot).under (((Operation.inherit source target apart place).place? slot).getD [])).records :=
            fun slot => List.forall₂_map_right_iff.mpr
              ((ih slot).imp fun _ _ ends => ends.concat (.inherit source target apart place))
          have fromSource := moved source
          have kept : ∀ slot, slot ≠ source → List.Forall₂ (Ends (earlier ++ [.inherit source target apart place]) slot)
              (held earlier slot) (run earlier slot).records := by
            intro slot other
            simpa [Operation.next, Operation.place?, other] using moved slot
          simp only [Operation.next, Operation.place?, if_true, Option.getD_some] at fromSource
          rw [held_inherit, run_inherit]
          split
          · rename_i same
            rw [same]
            exact List.rel_append (kept target apart.symm) fromSource
          · split
            · exact .nil
            · rename_i other
              exact kept slot other

theorem lt_of_mem_held {operations : List (Operation Slot)} {slot : Slot} {position : Nat}
    (within : position ∈ held operations slot) : position < operations.length := by
  have known := (forall₂_ends operations slot).imp fun _ _ ends => And.intro ends.position_lt ends
  exact ((List.forall₂_and_left _ _).mp known).1 position within

-- A push is counted in one report, and there once.
theorem count_held (before : List (Operation Slot)) (first : Slot) (pushed : Record) (after : List (Operation Slot))
    (slot : Slot) : (held (before ++ .push first pushed :: after) slot).count before.length =
      if slot = destination after first then 1 else 0 := by
  induction after using List.reverseRecOn generalizing slot with
  | nil =>
      have absent : ∀ slot, (held before slot).count before.length = 0 :=
        fun slot => List.count_eq_zero.mpr fun within => Nat.lt_irrefl _ (lt_of_mem_held within)
      rw [held_push]
      split
      · rename_i same
        simp [absent, destination, same]
      · rename_i other
        simp [absent, destination, other]
  | append_singleton after operation ih =>
      rw [← List.cons_append, ← List.append_assoc, destination_concat]
      cases operation with
      | push slot' record =>
          rw [held_push]
          split
          · rename_i same
            simp [List.count_append, ih, same, Operation.next]
          · exact ih slot
      | inherit source target apart place =>
          rw [held_inherit, Operation.next]
          by_cases moved : destination after first = source
          · rw [if_pos moved]
            split
            · simp [List.count_append, ih, moved, apart.symm]
            · split <;> simp_all
          · rw [if_neg moved]
            split
            · simp_all [List.count_append, Ne.symm moved]
            · split
              · simp_all [Ne.symm moved]
              · exact ih slot

theorem held_sublist (operations : List (Operation Slot)) (operation : Operation Slot) (slot : Slot) :
    (held operations slot).Sublist (held (operations ++ [operation]) (operation.next slot)) := by
  cases operation with
  | push first pushed =>
      rw [held_push, Operation.next]
      split
      · rename_i same
        rw [same]
        exact List.sublist_append_left ..
      · exact .refl _
  | inherit source target apart place =>
      rw [held_inherit, Operation.next]
      by_cases moved : slot = source
      · rw [if_pos moved, if_pos rfl, moved]
        exact List.sublist_append_right ..
      · rw [if_neg moved, if_neg moved]
        split
        · rename_i same
          rw [same]
          exact List.sublist_append_left ..
        · exact .refl _

theorem held_sublist_append (before after : List (Operation Slot)) (slot : Slot) :
    (held before slot).Sublist (held (before ++ after) (destination after slot)) := by
  induction after using List.reverseRecOn with
  | nil =>
      rw [List.append_nil]
      exact .refl _
  | append_singleton after operation ih =>
      rw [← List.append_assoc, destination_concat]
      exact ih.trans (held_sublist _ operation _)

theorem empty_append (report : Report) : ∅ ++ report = report := rfl

-- Two moves one after the other are one, if the report between them held nothing.
theorem run_inherit_inherit (operations : List (Operation Slot)) {source middle target : Slot} (first : source ≠ middle)
    (second : middle ≠ target) (both : source ≠ target) (inner outer : Path) (empty : run operations middle = ∅) :
    run (operations ++ [.inherit source middle first inner, .inherit middle target second outer]) =
      run (operations ++ [.inherit source target both (outer ++ inner)]) := by
  funext slot
  have two : operations ++ [.inherit source middle first inner, .inherit middle target second outer] =
      (operations ++ [.inherit source middle first inner]) ++ [.inherit middle target second outer] := by simp
  rw [two]
  simp only [run_inherit]
  split
  · simp only [empty, both.symm, second.symm, if_true, if_false, empty_append, under_under]
  · split
    · rename_i same
      rw [same, if_neg first.symm, empty]
    · rfl

-- Nothing is lost, repeated or misplaced: the records of each report are what the pushes that it holds come to, in order;
-- a push is held once and by one report; pushes that are in one report stay in order, wherever they come to be; a report
-- that was moved is left empty; and two moves are one.
structure Conserves (operations : List (Operation Slot)) : Prop where
  ends : ∀ slot, List.Forall₂ (Ends operations slot) (held operations slot) (run operations slot).records
  once : ∀ before first pushed after, operations = before ++ .push first pushed :: after → ∀ slot,
    (held operations slot).count before.length = if slot = destination after first then 1 else 0
  ordered : ∀ before after, operations = before ++ after → ∀ slot,
    (held before slot).Sublist (held operations (destination after slot))
  drained : ∀ source target apart place, run (operations ++ [.inherit source target apart place]) source = ∅
  merged : ∀ source middle target first second both inner outer, run operations middle = ∅ →
    run (operations ++ [.inherit source middle first inner, .inherit middle target second outer]) =
      run (operations ++ [.inherit source target both (outer ++ inner)])

theorem moves_conserve (operations : List (Operation Slot)) : Conserves operations where
  ends := forall₂_ends operations
  once before first pushed after same slot := by
    rw [same]
    exact count_held before first pushed after slot
  ordered before after same slot := by
    rw [same]
    exact held_sublist_append before after slot
  drained source target apart place := by
    rw [run_inherit, if_neg apart, if_pos rfl]
  merged _ _ _ first second both inner outer empty := run_inherit_inherit operations first second both inner outer empty

example : run [.push 0 ⟨[.index 2], "Missing"⟩, .push 1 (.here "Out of bound"), .inherit 0 1 (by decide) [.key "a"],
    .inherit 1 0 (by decide) [.key "b"]] 0 =
      ⟨[⟨[.key "b"], "Out of bound"⟩, ⟨[.key "b", .key "a", .index 2], "Missing"⟩]⟩ := by decide

end

end Conform.Report
