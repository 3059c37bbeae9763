import Conform.Proofs.Schema.Level

namespace Conform.Schema

-- One step down, into a part of the schema and the part of the value that it speaks about.
inductive Below : Json → Json → Segment → Json → Json → Prop
  | key {members : Members} (declared : (text, part) ∈ fields)
      (present : members.get? (Key.ofText text).name = some item) :
      Below (.object fields) (.object members) (.key (Key.ofText text).name) part item
  | index (inside : itemAt? (itemSchemas items) position = some part) (present : values[position]? = some item) :
      Below (.array items) (.array values) (.index position) part item

inductive Reached (schema value : Json) : Path → Json → Json → Prop
  | root : Reached schema value [] schema value
  | step {segment : Segment} (above : Reached schema value path part item)
      (below : Below part item segment lower lowerItem) : Reached schema value (path ++ [segment]) lower lowerItem

-- What is wrong with a value at the root of a schema or directly below it, whatever lies deeper.
inductive Flaw (registry : Registry) : Json → Json → Path → String → Prop
  | leaf (compiled : Rule.compile registry text = .ok rule) (refused : rule.apply value = .error (.ofMessage message)) :
      Flaw registry (.string text) value [] message
  | notObject (other : ∀ members, value ≠ .object members) :
      Flaw registry (.object fields) value [] ("Expected: object; Received: " ++ value.toText)
  | notArray (other : ∀ values, value ≠ .array values) :
      Flaw registry (.array items) value [] ("Expected: array; Received: " ++ value.toText)
  | missing {members : Members} (declared : (text, part) ∈ fields) (required : (Key.ofText text).optional = false)
      (absent : (Key.ofText text).name ∉ members.keys) :
      Flaw registry (.object fields) (.object members) [.key (Key.ofText text).name] "Missing"
  | stranger {fields members : Members} (present : name ∈ members.keys)
      (undeclared : ∀ field ∈ fields, (Key.ofText field.1).name ≠ name) :
      Flaw registry (.object fields) (.object members) [.key name] "Out of bound"
  | pastEnd (several : 2 ≤ items.length) (past : items.length ≤ position) (present : position < values.length) :
      Flaw registry (.array items) (.array values) [.index position] "Out of bound"

def Faulty (registry : Registry) (schema value : Json) (path : Path) (message : String) : Prop :=
  ∃ place part item rest, Reached schema value place part item ∧ Flaw registry part item rest message ∧
    path = place ++ rest

theorem Reached.cons {segment : Segment} (first : Below schema value segment part item)
    (later : Reached part item path lower lowerItem) : Reached schema value (segment :: path) lower lowerItem := by
  induction later with
  | root => exact .step .root first
  | step _ below ih => exact .step ih below

theorem Reached.uncons (reached : Reached schema value path lower lowerItem) :
    (path = [] ∧ lower = schema ∧ lowerItem = value) ∨
      ∃ segment rest part item, path = segment :: rest ∧ Below schema value segment part item ∧
        Reached part item rest lower lowerItem := by
  induction reached with
  | root => exact .inl ⟨rfl, rfl, rfl⟩
  | step above below ih =>
      rcases ih with ⟨rfl, rfl, rfl⟩ | ⟨segment, rest, part, item, rfl, first, later⟩
      · exact .inr ⟨_, [], _, _, rfl, below, .root⟩
      · exact .inr ⟨segment, _, part, item, rfl, first, .step later below⟩

-- A flaw of this level, or the fault of a level below.
theorem faulty_iff {registry : Registry} {schema value : Json} {path : Path} {message : String} :
    Faulty registry schema value path message ↔
      Flaw registry schema value path message ∨
      ∃ segment part item rest, Below schema value segment part item ∧ Faulty registry part item rest message ∧
        path = segment :: rest := by
  constructor
  · intro given
    obtain ⟨place, lower, lowerItem, rest, reached, flaw, rfl⟩ := given
    rcases reached.uncons with ⟨rfl, rfl, rfl⟩ | ⟨segment, inner, part, item, rfl, first, later⟩
    · exact .inl flaw
    · exact .inr ⟨segment, part, item, inner ++ rest, first, ⟨inner, lower, lowerItem, rest, later, flaw, rfl⟩, rfl⟩
  · intro given
    rcases given with flaw | ⟨segment, part, item, _, first, ⟨place, lower, lowerItem, rest, reached, flaw, rfl⟩, rfl⟩
    · exact ⟨[], schema, value, path, .root, flaw, rfl⟩
    · exact ⟨segment :: place, lower, lowerItem, rest, .cons first reached, flaw, rfl⟩

end Conform.Schema
