import Conform.Registry.Basic
import Conform.Report.Basic

namespace Conform.Schema

structure Rule where
  types : List (String × TypeEntry)
  nullable : Bool
  nullEntry : TypeEntry
  transforms : List Transform
  expected : String

namespace Rule

inductive Match
  -- the value stands for null, and the leaf takes null
  | null
  | coerced (value : Json)
  | refused

def isNull (rule : Rule) (value : Json) : Bool := rule.nullable && (rule.nullEntry.coerce value).isSome

-- On a value that stands for null the first type decides: it comes before null or after it.
def matchTypes (rule : Rule) (value : Json) : List (String × TypeEntry) → Match
  | [] => .refused
  | (_, entry) :: rest =>
      if !entry.nullAfter && rule.isNull value then .null
      else match entry.coerce value with
        | some canonical => .coerced canonical
        | none => if entry.nullAfter && rule.isNull value then .refused else rule.matchTypes value rest

def mismatch (rule : Rule) (value : Json) : Report :=
  .ofMessage ("Expected type: " ++ rule.expected ++ "; Received: " ++ value.toText)

-- Transforms run on the value that a type returns, and not on the null of the leaf.
def apply (rule : Rule) (value : Json) : Except Report Json :=
  match rule.matchTypes value rule.types with
  | .null => .ok .null
  | .refused => .error (rule.mismatch value)
  | .coerced canonical =>
      (rule.transforms.foldlM (fun (current : Json) (transform : Transform) => transform current) canonical).mapError .ofMessage

def failures (results : List (Except String α)) : List String :=
  results.filterMap fun result => match result with
    | .error message => some message
    | .ok _ => none

def successes (results : List (Except String α)) : List α :=
  results.filterMap fun result => match result with
    | .ok value => some value
    | .error _ => none

def lookUp (types : Table TypeEntry) (name : String) : Except String (String × TypeEntry) :=
  match types.get? name with
  | some entry => .ok (name, entry)
  | none => .error (Registry.Refusal.unknown name).message

-- Faults come in the order of transforms, text and types; without a type there is nothing else to
-- say.
def compile (registry : Registry) (text : String) : Except Report Rule :=
  let (leaf, fault) := Leaf.readPartial text
  if leaf.candidates.isEmpty then .error (.ofMessage "Type is missing")
  else
    let transforms := leaf.calls.map (Registry.instantiate registry.transforms)
    let types := leaf.candidates.map (lookUp registry.types)
    let messages := failures transforms ++ fault.toList.map Leaf.Fault.message ++ failures types
    Report.result ⟨messages.map .here⟩
      { types := successes types
        nullable := leaf.nullable
        nullEntry := Registry.nullEntry registry.types
        transforms := successes transforms
        expected := leaf.expected }

end Rule
end Conform.Schema
