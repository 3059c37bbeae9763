import Conform.Output.Writer
import Conform.Proofs.Json.Text

namespace Conform.Output
open Conform.Text

namespace Step

-- What a step hands to programs. The steps without a value are decoration.
def value? : Step → Option Json
  | .data value => some value
  | .report found => some found.toJson
  | .listing registry => some (listingValue registry)
  | .info _ | .success _ | .heading _ | .table .. => none

def isDecoration (step : Step) : Bool := step.value?.isNone

-- What people see of a listing is two headings and two tables.
def parts : Step → List Step
  | .listing registry => [.heading "Types", .table ["Name", "Null check"] (typeRows registry),
      .heading "Transforms", .table ["Name", "Arguments"] (transformRows registry)]
  | step => [step]

end Step

namespace Writer

-- What a run prints.
def run (writer : Writer) (steps : List Step) : String := String.join (steps.map writer.write)

theorem run_eq_join {writer : Writer} {pieces : Step → List String}
    (each : ∀ step, writer.write step = String.join (pieces step)) (steps : List Step) :
    writer.run steps = String.join (steps.flatMap pieces) := by
  induction steps with
  | nil => rfl
  | cons step rest ih =>
      rw [run, List.map_cons, String.join_cons, ← run, ih, each, List.flatMap_cons, String.join_append]

section Programs

theorem closed_of_plain {text : List Char} (plain : Json.Plain text) :
    closed (.ofList text) = .ofList text ++ "\n" := by
  unfold closed lineOf
  rw [if_neg]
  simp only [String.toList_ofList, beq_iff_eq]
  intro last
  exact absurd (plain _ (List.mem_of_getLast? last)) (by decide)

theorem split_lines {texts : List (List Char)} (apart : ∀ text ∈ texts, '\n' ∉ text) :
    split '\n' (texts.flatMap (· ++ ['\n'])) = texts ++ [[]] := by
  induction texts with
  | nil => rfl
  | cons text rest ih =>
      rw [List.forall_mem_cons] at apart
      rw [List.flatMap_cons, List.append_assoc, List.singleton_append, split_append apart.1, ih apart.2, List.cons_append]

variable {writer : Writer} (json : writer.format = .json)
include json

theorem data_json (value : Json) : writer.data value = value.toText ++ "\n" := by
  rw [data, json]
  exact closed_of_plain (.compact value)

theorem report_json (report : Report) : writer.report report = report.toJson.toText ++ "\n" := by
  rw [Writer.report, json, data_json json]
  rfl

theorem spoken_json (text : String) : writer.spoken text = "" := by
  simp [spoken, isTalkative, json]

theorem info_json (message : String) : writer.info message = "" := spoken_json json _

theorem listing_json (registry : Registry) : writer.listing registry = (listingValue registry).toText ++ "\n" := by
  rw [Writer.listing, json, data_json json]
  rfl

theorem write_json (step : Step) :
    writer.write step = String.join (step.value?.toList.map fun value => lineOf value.toText) := by
  cases step with
  | info message => exact info_json json message
  | success message => exact spoken_json json _
  | heading title => exact spoken_json json _
  | table headers rows => exact spoken_json json _
  | data value =>
      rw [write, data_json json]
      simp [Step.value?, lineOf]
  | report report =>
      rw [write, report_json json]
      simp [Step.value?, lineOf]
  | listing registry =>
      rw [write, listing_json json]
      simp [Step.value?, lineOf]

theorem run_json (steps : List Step) :
    writer.run steps = String.join ((steps.filterMap Step.value?).map fun value => lineOf value.toText) := by
  rw [run_eq_join (write_json json), ← List.map_flatMap, List.filterMap_eq_flatMap_toList]

theorem split_run_json (steps : List Step) : split '\n' (writer.run steps).toList =
    (steps.filterMap Step.value?).map (fun value => value.toText.toList) ++ [[]] := by
  have apart : ∀ text ∈ (steps.filterMap Step.value?).map fun value => value.toText.toList, '\n' ∉ text :=
    List.forall_mem_map.mpr fun value _ => Json.newline_not_mem_toText value
  rw [← split_lines apart, run_json json, String.toList_join, List.flatMap_map, List.flatMap_map]
  simp [lineOf]

-- Programs are told the values, and nothing else.
theorem run_json_inj {other : Writer} (json' : other.format = .json) (steps steps' : List Step) :
    writer.run steps = other.run steps' ↔ steps.filterMap Step.value? = steps'.filterMap Step.value? := by
  constructor
  · intro same
    have lines := split_run_json json steps
    rw [same, split_run_json json', List.append_left_inj] at lines
    refine List.map_injective_iff.mpr (fun value value' same => ?_) lines.symm
    exact Json.toText_injective (String.toList_inj.mp same)
  · intro same
    rw [run_json json, run_json json', same]

end Programs

section People
variable (color : Bool)

theorem write_parts (step : Step) : (⟨.human, color, false⟩ : Writer).write step =
    String.join (step.parts.map (⟨.human, color, false⟩ : Writer).write) := by
  cases step with
  | listing registry => simp [write, Writer.listing, Step.parts, String.append_assoc]
  | _ => exact String.empty_append.symm

theorem write_quiet (step : Step) : (⟨.human, color, true⟩ : Writer).write step =
    String.join ((step.parts.filter (!·.isDecoration)).map (⟨.human, color, false⟩ : Writer).write) := by
  cases step with
  | data value => exact String.empty_append.symm
  | report found => exact String.empty_append.symm
  | _ => rfl

theorem run_parts (steps : List Step) : (⟨.human, color, false⟩ : Writer).run steps =
    (⟨.human, color, false⟩ : Writer).run (steps.flatMap Step.parts) := by
  rw [run_eq_join (write_parts color), run, List.map_flatMap]

theorem run_quiet (steps : List Step) : (⟨.human, color, true⟩ : Writer).run steps =
    (⟨.human, color, false⟩ : Writer).run ((steps.flatMap Step.parts).filter (!·.isDecoration)) := by
  rw [run_eq_join (write_quiet color), run, List.filter_flatMap, List.map_flatMap]

end People

end Writer

-- As JSON, each value is one line, and nothing follows the last line end; neither flag shows. For people, what is left
-- of a listing without its decoration is nothing.
theorem run_by_format (color : Bool) (steps : List Step) :
    (∀ quiet, (⟨.json, color, quiet⟩ : Writer).run steps =
      String.join ((steps.filterMap Step.value?).map fun value => lineOf value.toText)) ∧
    (∀ value : Json, '\n' ∉ value.toText.toList) ∧
    (∀ quiet, split '\n' ((⟨.json, color, quiet⟩ : Writer).run steps).toList =
      (steps.filterMap Step.value?).map (fun value => value.toText.toList) ++ [[]]) ∧
    (∀ quiet color' quiet' steps', (⟨.json, color, quiet⟩ : Writer).run steps =
      (⟨.json, color', quiet'⟩ : Writer).run steps' ↔ steps.filterMap Step.value? = steps'.filterMap Step.value?) ∧
    (⟨.human, color, false⟩ : Writer).run steps = (⟨.human, color, false⟩ : Writer).run (steps.flatMap Step.parts) ∧
    (⟨.human, color, true⟩ : Writer).run steps =
      (⟨.human, color, false⟩ : Writer).run ((steps.flatMap Step.parts).filter (!·.isDecoration)) :=
  ⟨fun _ => Writer.run_json rfl steps, Json.newline_not_mem_toText, fun _ => Writer.split_run_json rfl steps,
    fun _ _ _ steps' => Writer.run_json_inj rfl rfl steps steps', Writer.run_parts color steps,
    Writer.run_quiet color steps⟩

example : (⟨.json, true, false⟩ : Writer).run [.info "Reading", .data .null, .heading "Found", .data (.bool true)] =
    "null\ntrue\n" := by decide

end Conform.Output
