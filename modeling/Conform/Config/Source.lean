import Conform.Json.Basic
import Conform.Toml.Basic
import Conform.Yaml.Basic

namespace Conform.Config

structure Source (α : Type) where
  -- a setting that is there but left open
  isOpen : α → Bool
  text? : α → Option String
  flag? : α → Option Bool
  -- one of several names
  choice? : α → Option String
  -- the settings of a section by their names, in order; other names do not matter
  rows? : List String → α → Option (List (Option α))

namespace Source

-- Two rows of one name are a fault.
def single? (rows : List (String × α)) (name : String) : Option (Option α) :=
  match rows.filter (·.1 == name) with
  | [] => some none
  | [row] => some (some row.2)
  | _ => none

def byName? (rows : List (String × α)) (names : List String) : Option (List (Option α)) := names.mapM (single? rows)

def byPosition (items : List α) (names : List String) : List (Option α) :=
  (List.range names.length).map fun index => items[index]?

def absent (names : List String) : List (Option α) := names.map fun _ => none

-- A key may not be repeated.
def json : Source Json where
  isOpen
    | .null => true
    | _ => false
  text?
    | .string text => some text
    | _ => none
  flag?
    | .bool value => some value
    | _ => none
  choice?
    | .string name => some name
    | .object [(name, .null)] => some name
    | _ => none
  rows? names
    | .object members => byName? members names
    | .array items => if items.length ≤ names.length then some (byPosition items names) else none
    | _ => none

def untagged : Yaml.Node → Yaml.Node
  | .tagged _ node | .alias node => untagged node
  | node => node

def isOpenNode : Yaml.Node → Bool
  | .absent => true
  | .scalar plain text => plain && Yaml.isNullWord text
  | .tagged (.standard "null") (.scalar true text) => Yaml.isNullWord text
  | .alias node => isOpenNode node
  | _ => false

def choiceOf? : Yaml.Node → Option String
  | .tagged (.other tag) node => if isOpenNode node then some (.ofList (tag.toList.drop 1)) else none
  | .alias node => choiceOf? node
  | node => node.text?

-- Any scalar will do as a text, and a section may be left empty.
def yaml : Source Yaml.Node where
  isOpen := isOpenNode
  text? := Yaml.Node.text?
  flag? node := match untagged node with
    | .scalar true text => Yaml.truthWord? text
    | _ => none
  choice? := choiceOf?
  rows? names node := match untagged node with
    | .mapping entries => do
        let rows ← entries.mapM fun (key, value) => key.text?.map fun name => (name, value)
        byName? rows names
    | .absent | .scalar true "" => some (absent names)
    | _ => none

def isEmpty : Toml → Bool
  | .array items => items.isEmpty
  | .table rows => rows.isEmpty
  | _ => false

-- Nothing is left open here.
def toml : Source Toml where
  isOpen _ := false
  text?
    | .string text => some text
    | _ => none
  flag?
    | .boolean value => some value
    | _ => none
  choice?
    | .string name => some name
    | .table [(name, value)] => if isEmpty value then some name else none
    | _ => none
  rows? names
    | .table rows => byName? rows names
    | .array items => some (byPosition items names)
    | _ => none

end Source
end Conform.Config
