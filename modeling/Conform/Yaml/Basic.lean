import Conform.Json.Parser
import Conform.Number.Decimal

namespace Conform.Yaml

inductive Tag
  -- a tag of the language itself, such as `!!str`
  | standard (name : String)
  | other (text : String)
deriving DecidableEq

inductive Node
  -- a document that holds nothing
  | absent
  | scalar (plain : Bool) (text : String)
  | sequence (items : List Node)
  | mapping (entries : List (Node × Node))
  | tagged (tag : Tag) (node : Node)
  -- a node that stands elsewhere too
  | alias (node : Node)

def isNullWord (text : String) : Bool := ["", "~", "null", "Null", "NULL"].contains text

def truthWord? (text : String) : Option Bool :=
  if ["true", "True", "TRUE"].contains text then some true
  else if ["false", "False", "FALSE"].contains text then some false
  else none

def digits? (radix : Nat) (text : List Char) : Option Nat :=
  if text.isEmpty then none
  else text.foldlM (fun value c => ((Json.Token.hexValue? c).filter (· < radix)).map (radix * value + ·)) 0

def marked? : List Char → Option Nat
  | '0' :: 'x' :: digits => digits? 16 digits
  | '0' :: 'o' :: digits => digits? 8 digits
  | '0' :: 'b' :: digits => digits? 2 digits
  | _ => none

-- Digits after a leading zero are text, as in a postal code.
def isZeroPadded (text : List Char) : Bool :=
  match (Decimal.splitSign text).2 with
  | '0' :: digits => !digits.isEmpty && digits.all Char.isDigit
  | _ => false

def integer? (text : List Char) : Option Int :=
  match text with
  | '-' :: digits =>
      let magnitude := (marked? digits).or (if isZeroPadded text then none else digits? 10 digits)
      (magnitude.filter (· ≤ Nat.pow 2 127)).map fun value => -(value : Int)
  | text =>
      let digits := match text with
        | '+' :: digits => digits
        | digits => digits
      let magnitude := (marked? digits).or (if isZeroPadded text then none else digits? 10 digits)
      (magnitude.filter (· < Nat.pow 2 128)).map Int.ofNat

-- The words for numbers that are not finite.
def isEndless (text : String) : Bool :=
  [".inf", ".Inf", ".INF", "+.inf", "+.Inf", "+.INF", "-.inf", "-.Inf", "-.INF", ".nan", ".NaN", ".NAN"].contains text

def float? (text : List Char) : Option Binary64 :=
  if isZeroPadded text then none
  else match text with
    | '+' :: '-' :: _ | '+' :: '+' :: _ => none
    | text => (Decimal.read? text).bind Decimal.toBinary64?

-- An integer that fits no JSON number is a fault.
def plainValue? (text : String) : Option Json :=
  if isNullWord text then some .null
  else match truthWord? text with
    | some value => some (.bool value)
    | none => match integer? text.toList with
        | some value => (Number.ofInt? value).map .number
        | none =>
            if isEndless text then some .null
            else match float? text.toList with
              | some value => some (.number (.float value))
              | none => some (.string text)

def taggedValue? (name text : String) : Option Json :=
  match name with
  | "bool" => (truthWord? text).map .bool
  | "int" => (integer? text.toList).bind fun value => (Number.ofInt? value).map .number
  | "float" => if isEndless text then some .null else (float? text.toList).map fun value => .number (.float value)
  | "null" => if text != "" && isNullWord text then some .null else none
  | _ => some (.string text)

namespace Node

def text? : Node → Option String
  | .scalar _ text => some text
  | .tagged _ node | .alias node => text? node
  | .absent | .sequence _ | .mapping _ => none

mutual

-- How much is written: a scalar or an alias counts once, and what holds others has a start and an end.
def size : Node → Nat
  | .absent | .scalar .. | .alias _ => 1
  | .tagged _ node => size node
  | .sequence items => sizeOfItems items + 2
  | .mapping entries => sizeOfEntries entries + 2

def sizeOfItems : List Node → Nat
  | [] => 0
  | item :: rest => size item + sizeOfItems rest

def sizeOfEntries : List (Node × Node) → Nat
  | [] => 0
  | (key, node) :: rest => size key + size node + sizeOfEntries rest

end

-- The number of times that an alias may still be followed goes along.
abbrev Conversion := StateT Nat Option

def follow : Conversion Unit := fun left =>
  match left with
  | 0 => none
  | left + 1 => some ((), left)

def key : Node → Conversion String
  | .scalar _ text => return text
  | .tagged _ node => key node
  | .alias node => do
      follow
      key node
  | .absent | .sequence _ | .mapping _ => failure

mutual

-- Lists and mappings may stand in each other as deep as there is room.
def convert : Nat → Node → Conversion Json
  | _, .absent => return .null
  | _, .scalar true text => StateT.lift (plainValue? text)
  | _, .scalar false text => return .string text
  | 0, .sequence _ | 0, .mapping _ => failure
  | room + 1, .sequence items => return .array (← convertItems room items)
  | room + 1, .mapping entries => return .object (← convertEntries room entries).settle
  | _, .tagged (.other _) _ => failure
  | _, .tagged (.standard name) (.scalar _ text) => StateT.lift (taggedValue? name text)
  | room, .tagged (.standard _) node => convert room node
  | room, .alias node => do
      follow
      convert room node

def convertItems : Nat → List Node → Conversion (List Json)
  | _, [] => return []
  | room, item :: rest => return (← convert room item) :: (← convertItems room rest)

def convertEntries : Nat → List (Node × Node) → Conversion Members
  | _, [] => return []
  | room, (name, node) :: rest => return (← key name, ← convert room node) :: (← convertEntries room rest)

end

def depthLimit : Nat := 128

-- Keys are texts, and the last of equal keys counts.
def toJson? (node : Node) : Option Json := (convert depthLimit node).run' (100 * node.size)

end Node
end Conform.Yaml
