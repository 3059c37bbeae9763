import Conform.Coercion.Basic
import Conform.Json.Printer
import Conform.Leaf.Reader
import Conform.Registry.Name
import Conform.Registry.Table
import Conform.Registry.Transform

namespace Conform

-- `nullAfter` says whether a nullable leaf looks for null after this type or before it.
structure TypeEntry where
  coerce : Coercion
  nullAfter : Bool

structure Registry where
  types : Table TypeEntry
  transforms : Table Transform.Factory

namespace Registry

def empty : Registry := ⟨∅, ∅⟩

inductive Refusal
  | unknown (name : String)
  | rejected (name : String)
  | noMatch (expected received : String)
deriving DecidableEq

def Refusal.message : Refusal → String
  | .unknown name => "Unknown type '" ++ name ++ "'"
  | .rejected name => "Value rejected by type '" ++ name ++ "'"
  | .noMatch expected received => "Expected: " ++ expected ++ "; Received: " ++ received

def check (types : Table TypeEntry) (name : String) (value : Json) : Except Refusal Json :=
  match types.get? name with
  | none => .error (.unknown name)
  | some entry => match entry.coerce value with
      | none => .error (.rejected name)
      | some canonical => .ok canonical

def firstMatch? (types : Table TypeEntry) (names : List String) (value : Json) : Option Json :=
  names.findSome? fun name => (types.get? name).bind (·.coerce value)

def multiCheck (types : Table TypeEntry) (names : List String) (value : Json) : Except Refusal Json :=
  match firstMatch? types names value with
  | some canonical => .ok canonical
  | none => .error (.noMatch ("|".intercalate names) value.toText)

def nullEntry (types : Table TypeEntry) : TypeEntry := (types.get? Leaf.nullName).getD ⟨Coercion.null, true⟩

def isNull (types : Table TypeEntry) (value : Json) : Bool := ((nullEntry types).coerce value).isSome

def instantiate (transforms : Table Transform.Factory) (call : Leaf.Call) : Except String Transform :=
  match transforms.get? call.name with
  | none => .error ("Unknown transform: " ++ call.name)
  | some factory => factory.build call.arguments

def transform (transforms : Table Transform.Factory) (text : String) : Except String Transform :=
  match Leaf.Call.read text with
  | .error fault => .error fault.message
  | .ok call => instantiate transforms call

def addTo (table : Table α) (name : String) (value : α) : Except NameFault (Table α) :=
  match nameFault? name with
  | some fault => .error fault
  | none => .ok (table.insert name value)

def addType (registry : Registry) (name : String) (entry : TypeEntry) : Except NameFault Registry :=
  (addTo registry.types name entry).map fun types => { registry with types }

def addTransform (registry : Registry) (name : String) (factory : Transform.Factory) : Except NameFault Registry :=
  (addTo registry.transforms name factory).map fun transforms => { registry with transforms }

end Registry
end Conform
