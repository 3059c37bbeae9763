import Conform.Proofs.Coercion.Canonical
import Conform.Registry.Builtin

namespace Conform

-- A transform that has an opinion of a value, but never another value.
def Transform.ChecksOnly (transform : Transform) : Prop := ∀ value result, transform value = .ok result → result = value

namespace Registry
open Coercion

-- The types whose results the same type takes again, null of the leaf or not.
def steadyTypes : List String := ["any", "float", "num", "int", "unsigned", "bool", "string", "email", "timestamp"]

def rangeNames : List String := ["num_range", "str_range"]

theorem get?_steady {name : String} (steady : name ∈ steadyTypes) :
    ∃ coerce, builtinTypes.get? name = some ⟨coerce, false⟩ ∧ Idempotent coerce ∧ SparesNull coerce := by
  simp only [steadyTypes, List.mem_cons, List.not_mem_nil, or_false] at steady
  rcases steady with rfl | rfl | rfl | rfl | rfl | rfl | rfl | rfl | rfl
  · exact ⟨any, rfl, any_idempotent, any_sparesNull⟩
  · exact ⟨float, rfl, float_idempotent, float_numeric.sparesNull⟩
  · exact ⟨float, rfl, float_idempotent, float_numeric.sparesNull⟩
  · exact ⟨int, rfl, int_idempotent, int_numeric.sparesNull⟩
  · exact ⟨unsigned, rfl, unsigned_idempotent, unsigned_numeric.sparesNull⟩
  · exact ⟨bool, rfl, bool_idempotent, bool_sparesNull⟩
  · exact ⟨string, rfl, string_idempotent, string_sparesNull⟩
  · exact ⟨email, rfl, email_idempotent, email_sparesNull⟩
  · exact ⟨timestamp, rfl, timestamp_idempotent, timestamp_numeric.sparesNull⟩

theorem get?_object : builtinTypes.get? "object" = some ⟨object, false⟩ := rfl

theorem get?_null : builtinTypes.get? Leaf.nullName = some ⟨null, true⟩ := rfl

-- Every type looks for null before itself, but for null; and none but null makes a null of anything else.
theorem builtin_keepsNull {name : String} {entry : TypeEntry} (found : builtinTypes.get? name = some entry) :
    KeepsNull entry.coerce ∧ (entry.nullAfter = false ∨ entry.coerce = null) := by
  have known : name ∈ builtinTypes.names := Table.has_iff_mem_names.mp (by rw [Table.has, found]; rfl)
  have sorted : ∀ name ∈ builtinTypes.names, name ∈ steadyTypes ∨ name ∈ ["hex", "object", "url", Leaf.nullName] := by
    decide
  have listed := sorted name known
  rcases listed with steady | other
  · obtain ⟨coerce, there, _, spares⟩ := get?_steady steady
    cases there.symm.trans found
    exact ⟨spares.keepsNull, .inl rfl⟩
  · simp only [List.mem_cons, List.not_mem_nil, or_false] at other
    rcases other with rfl | rfl | rfl | rfl
    · cases (show builtinTypes.get? "hex" = some ⟨hex, false⟩ from rfl).symm.trans found
      exact ⟨hex_numeric.sparesNull.keepsNull, .inl rfl⟩
    · cases get?_object.symm.trans found
      exact ⟨object_keepsNull, .inl rfl⟩
    · cases (show builtinTypes.get? "url" = some ⟨url, false⟩ from rfl).symm.trans found
      exact ⟨url_keepsNull, .inl rfl⟩
    · cases get?_null.symm.trans found
      exact ⟨null_keepsNull, .inr rfl⟩

theorem nullEntry_builtin : nullEntry builtin.types = ⟨null, true⟩ := by
  rw [nullEntry, show builtin.types = builtinTypes from rfl, get?_null]
  rfl

-- A bound may be null, and is otherwise of some type.
theorem firstMatch?_null_or {name : String} {coerce : Coercion} {nullAfter : Bool}
    (found : builtinTypes.get? name = some ⟨coerce, nullAfter⟩) (value : Json) :
    firstMatch? builtinTypes [Leaf.nullName, name] value = (null value).or (coerce value) := by
  rw [firstMatch?, List.findSome?_cons, get?_null, Option.bind_some]
  dsimp only
  cases null value with
  | some result => rfl
  | none =>
      rw [List.findSome?_cons, found, Option.bind_some]
      dsimp only
      cases coerce value <;> rfl

theorem readRange?_of_reads {α : Type} [LE α] [DecidableLE α] {names : List String} {convert : Binary64 → α}
    (arguments : List String) {low high : Option Binary64} (readLow : readBound? names arguments[0]? = some low)
    (readHigh : readBound? names arguments[1]? = some high) :
    readRange? names convert arguments = Range.of? (low.map convert) (high.map convert) := by
  unfold readRange?
  rw [readLow, readHigh]
  rfl

theorem numRange_checksOnly {arguments : List String} {transform : Transform}
    (built : numRange arguments = .ok transform) : transform.ChecksOnly := by
  unfold numRange at built
  split at built
  · cases built
  · cases built
    intro value result passed
    dsimp only at passed
    split at passed
    · split at passed
      · cases passed; rfl
      · cases passed
    · cases passed

theorem strRange_checksOnly {arguments : List String} {transform : Transform}
    (built : strRange arguments = .ok transform) : transform.ChecksOnly := by
  unfold strRange at built
  split at built
  · cases built
  · cases built
    intro value result passed
    dsimp only at passed
    split at passed
    · split at passed
      · cases passed; rfl
      · cases passed
    · cases passed

theorem instantiate_numRange {call : Leaf.Call} (named : call.name = "num_range") :
    instantiate builtin.transforms call = numRange call.arguments := by
  have found : builtin.transforms.get? "num_range" = some (.configurable numRange) := rfl
  rw [instantiate, named, found]
  rfl

theorem instantiate_strRange {call : Leaf.Call} (named : call.name = "str_range") :
    instantiate builtin.transforms call = strRange call.arguments := by
  have found : builtin.transforms.get? "str_range" = some (.configurable strRange) := rfl
  rw [instantiate, named, found]
  rfl

theorem instantiate_checksOnly {call : Leaf.Call} {transform : Transform} (range : call.name ∈ rangeNames)
    (built : instantiate builtin.transforms call = .ok transform) : transform.ChecksOnly := by
  simp only [rangeNames, List.mem_cons, List.not_mem_nil, or_false] at range
  rcases range with named | named
  · exact numRange_checksOnly (instantiate_numRange named ▸ built)
  · exact strRange_checksOnly (instantiate_strRange named ▸ built)

end Registry
end Conform
