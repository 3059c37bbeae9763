import Conform.Text.Blank

namespace Conform.Registry
open Conform.Text

inductive NameFault
  | empty
  | blankEdge (name : String)
  | reserved (name : String) (found : Char)
deriving DecidableEq

def NameFault.message : NameFault → String
  | .empty => "Registry name must not be empty"
  | .blankEdge name => "Registry name '" ++ name ++ "' must not have surrounding whitespace"
  | .reserved name found => "Registry name '" ++ name ++ "' contains reserved character '" ++ found.toString ++ "'"

def isReserved (c : Char) : Bool := c == '|' || c == '@' || c == '(' || c == ')' || c == ','

def nameFault? (name : String) : Option NameFault :=
  if name == "" then some .empty
  else if trimmed name != name then some (.blankEdge name)
  else (name.toList.find? isReserved).map (.reserved name)

theorem nameFault?_eq_none {name : String} :
    nameFault? name = none ↔ name ≠ "" ∧ trimmed name = name ∧ ∀ c ∈ name.toList, isReserved c = false := by
  unfold nameFault?
  split
  · rename_i h; simp_all
  · split
    · rename_i h; simp_all
    · simp_all

end Conform.Registry
