import Conform.Schema.Rule

namespace Conform.Schema

structure Key where
  name : String
  optional : Bool
deriving DecidableEq

def Key.ofText (text : String) : Key :=
  match text.toList with
  | '?' :: name => ⟨.ofList name, true⟩
  | name => ⟨.ofList name, false⟩

inductive Node
  | leaf (rule : Rule)
  -- keys in the order of the schema
  | object (fields : List (Key × Node))
  | list (item : Node)
  | tuple (items : List Node)

namespace Node

-- What happened at each place directly below.
abbrev Outcomes (α : Type) := List (Segment × Except Report α)

def Outcomes.report (outcomes : Outcomes α) : Report :=
  ⟨outcomes.flatMap fun outcome => match outcome.2 with
    | .error report => (report.under [outcome.1]).records
    | .ok _ => []⟩

def Outcomes.values (outcomes : Outcomes α) : List α :=
  outcomes.filterMap fun outcome => match outcome.2 with
    | .ok value => some value
    | .error _ => none

def Outcomes.gather (outcomes : Outcomes α) : Except Report (List α) := outcomes.report.result outcomes.values

def ofItems : List Node → Node
  | [item] => .list item
  | items => .tuple items

mutual

-- An empty list of items is a list of anything.
def compile (registry : Registry) : Json → Except Report Node
  | .string text => (Rule.compile registry text).map .leaf
  | .object members => (Outcomes.gather (compileMembers registry [] members)).map .object
  | .array [] => (Outcomes.gather [(.index 0, (Rule.compile registry "any").map leaf)]).map ofItems
  | .array (item :: items) => (Outcomes.gather (compileItems registry 0 (item :: items))).map ofItems
  | .null => invalid .null
  | .bool value => invalid (.bool value)
  | .number value => invalid (.number value)

-- A key that is there twice, with or without its mark, is a fault, and what is below it is not
-- looked at.
def compileMembers (registry : Registry) (declared : List String) : List (String × Json) → Outcomes (Key × Node)
  | [] => []
  | (text, schema) :: rest =>
      let key := Key.ofText text
      if declared.contains key.name then
        (.key text, .error (.ofMessage "Duplicate key")) :: compileMembers registry declared rest
      else
        (.key text, (compile registry schema).map ((key, ·))) :: compileMembers registry (key.name :: declared) rest

def compileItems (registry : Registry) (position : Nat) : List Json → Outcomes Node
  | [] => []
  | schema :: rest => (.index position, compile registry schema) :: compileItems registry (position + 1) rest

def invalid (schema : Json) : Except Report Node :=
  .error (.ofMessage ("Invalid value; \x7b" ++ Loose.text schema ++ "\x7d"))

end

def outOfBound : Report := .ofMessage "Out of bound"

def mismatch (kind : String) (value : Json) : Report :=
  .ofMessage ("Expected: " ++ kind ++ "; Received: " ++ value.toText)

def strangers (fields : List (Key × Node)) (members : Members) : Outcomes (String × Json) :=
  (members.keys.filter fun key => !fields.any (·.1.name == key)).map fun key => (.key key, .error outOfBound)

mutual

def validate : Node → Json → Except Report Json
  | .leaf rule, value => rule.apply value
  | .object fields, value => match value with
      | .object members =>
          (Outcomes.gather (validateFields fields members ++ strangers fields members)).map .object
      | value => .error (mismatch "object" value)
  | .list item, value => match value with
      | .array values =>
          (Outcomes.gather (values.mapIdx fun position value => (.index position, validate item value))).map .array
      | value => .error (mismatch "array" value)
  | .tuple items, value => match value with
      | .array values => (Outcomes.gather (validateItems items 0 values)).map .array
      | value => .error (mismatch "array" value)

def validateFields : List (Key × Node) → Members → Outcomes (String × Json)
  | [], _ => []
  | (key, node) :: rest, members =>
      let outcomes := validateFields rest members
      match members.get? key.name with
      | some value => (.key key.name, (validate node value).map ((key.name, ·))) :: outcomes
      | none => if key.optional then outcomes else (.key key.name, .error (.ofMessage "Missing")) :: outcomes

-- Values past the last item are out of bound; a tuple may also be shorter than its schema.
def validateItems : List Node → Nat → List Json → Outcomes Json
  | _, _, [] => []
  | [], position, values => values.mapIdx fun index _ => (.index (position + index), .error outOfBound)
  | node :: rest, position, value :: values =>
      (.index position, validate node value) :: validateItems rest (position + 1) values

end

end Node
end Conform.Schema
