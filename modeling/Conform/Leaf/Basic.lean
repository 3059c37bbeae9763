namespace Conform

-- One transform call, such as `num_range(0,10)`; `raw` is the call as written.
structure Leaf.Call where
  name : String
  arguments : List String
  raw : String
deriving DecidableEq

-- The types a value may have, without repetition. Null is kept apart.
structure Leaf where
  alternatives : List String
  nullable : Bool
  calls : List Leaf.Call
deriving DecidableEq

namespace Leaf

def nullName : String := "null"

-- A leaf that says only null tries the null type itself.
def candidates (leaf : Leaf) : List String :=
  if leaf.alternatives.isEmpty && leaf.nullable then [nullName] else leaf.alternatives

def expected (leaf : Leaf) : String :=
  "|".intercalate (leaf.alternatives ++ if leaf.nullable then [nullName] else [])

inductive Fault.Kind
  | missingName
  | unterminated
  | nested
  | unopened
  | trailing (found : Char)
deriving DecidableEq

-- A malformed call: its text up to the next call, and the offset in bytes where it goes wrong.
structure Fault where
  kind : Fault.Kind
  segment : String
  position : Nat
deriving DecidableEq

def Fault.message (fault : Fault) : String :=
  let place := toString fault.position
  let reason := match fault.kind with
    | .missingName => "missing transform name at position " ++ place
    | .unterminated => "unterminated argument list starting at position " ++ place
    | .nested => "unexpected '(' at position " ++ place
    | .unopened => "unexpected ')' at position " ++ place
    | .trailing found => "unexpected '" ++ found.toString ++ "' at position " ++ place
  "Invalid transform expression; " ++ fault.segment ++ " (" ++ reason ++ ")"

end Leaf
end Conform
