import Conform.Schema.Node

namespace Conform

inductive Schema.Kind
  | leaf
  | object
  | array
deriving DecidableEq

namespace Schema

def kind? : Json → Option Kind
  | .string _ => some .leaf
  | .object _ => some .object
  | .array _ => some .array
  | .null | .bool _ | .number _ => none

def compileRoot (registry : Registry) (schema : Json) : Except Report Node :=
  if schema.isContainer then Node.compile registry schema else .error (.ofMessage "Invalid structure")

end Schema

-- A schema with faults has a validator as well, which refuses all values.
structure Validator where
  root : Except Report Schema.Node

namespace Validator
open Schema

def new (registry : Registry) (schema : Json) : Validator := ⟨compileRoot registry schema⟩

def compile (registry : Registry) (schema : Json) : Except Report Validator :=
  (compileRoot registry schema).map fun root => ⟨.ok root⟩

def isInitialized (validator : Validator) : Bool :=
  match validator.root with
  | .ok _ => true
  | .error _ => false

def constructionReport (validator : Validator) : Report :=
  match validator.root with
  | .ok _ => ∅
  | .error report => report

def notInitialized : Report := .ofMessage "Validator has not been initialised"

def validate (validator : Validator) (value : Json) : Except Report Json :=
  match validator.root with
  | .ok root => root.validate value
  | .error _ => .error notInitialized

end Validator
end Conform
