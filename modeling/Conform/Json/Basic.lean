import Conform.Number.Binary64

namespace Conform

-- Integers of 64 bits end below these: those with a sign, which begin at the negative of it, and those without one.
def Number.signedEnd : Int := 9223372036854775808
def Number.unsignedEnd : Int := 18446744073709551616

inductive Number
  | integer (value : Int) (inRange : -Number.signedEnd ≤ value ∧ value < Number.unsignedEnd)
  | float (value : Binary64)
deriving DecidableEq

namespace Number

def ofInt? (value : Int) : Option Number :=
  if inRange : -signedEnd ≤ value ∧ value < unsignedEnd then some (.integer value inRange) else none

theorem natAbs_lt_wide {value : Int} (inRange : -signedEnd ≤ value ∧ value < unsignedEnd) :
    value.natAbs < Binary64.wide := by
  simp only [signedEnd, unsignedEnd, Binary64.wide] at *
  omega

theorem inRange_of_natAbs_le_safe {value : Int} (small : value.natAbs ≤ Binary64.safe) :
    -signedEnd ≤ value ∧ value < unsignedEnd := by
  simp only [signedEnd, unsignedEnd, Binary64.safe] at *
  omega

def toBinary64 : Number → Binary64
  | .integer value inRange => .ofInt value (natAbs_lt_wide inRange)
  | .float value => value

def ofBinary64 (x : Binary64) : Number :=
  if small : x.isWhole = true ∧ x.isSafe = true then
    .integer x.whole (inRange_of_natAbs_le_safe (Binary64.whole_natAbs_le small.2))
  else .float x

def isIntegral : Number → Bool
  | .integer .. => true
  | .float value => value.isWhole

-- A double is no integer here, whatever its value.
def toInt64? : Number → Option Int
  | .integer value _ => if value < signedEnd then some value else none
  | .float _ => none

theorem toBinary64_ofBinary64_of_isWhole {x : Binary64} (isSafe : x.isSafe = true) (isWhole : x.isWhole = true) :
    ofBinary64 x = .integer x.whole (inRange_of_natAbs_le_safe (Binary64.whole_natAbs_le isSafe)) := by
  simp [ofBinary64, isSafe, isWhole]

end Number

inductive Json
  | null
  | bool (value : Bool)
  | number (value : Number)
  | string (value : String)
  | array (items : List Json)
  | object (members : List (String × Json))

instance : Inhabited Json := ⟨.null⟩

-- Members of an object, in order.
abbrev Members := List (String × Json)

namespace Members

def keys (members : Members) : List String := members.map Prod.fst

def get? (members : Members) (key : String) : Option Json := (members.find? (·.1 == key)).map Prod.snd

def has (members : Members) (key : String) : Bool := members.any (·.1 == key)

-- A key that is there keeps its place.
def put (members : Members) (key : String) (value : Json) : Members :=
  match members with
  | [] => [(key, value)]
  | member :: rest => if member.1 == key then (key, value) :: rest else member :: put rest key value

def settle (members : Members) : Members := members.foldl (fun settled member => settled.put member.1 member.2) []

end Members

namespace Json

def isContainer : Json → Bool
  | .array _ | .object _ => true
  | _ => false

def ofNumber (x : Binary64) : Json := .number (.ofBinary64 x)

end Json
end Conform
