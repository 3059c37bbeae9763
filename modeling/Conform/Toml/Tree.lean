import Conform.Toml.Basic

namespace Conform.Toml

-- How a table came about: by a header of its own, as part of a header's path, or by a dotted key.
inductive Origin
  | headed
  | implied
  | dotted
deriving DecidableEq

inductive Item
  | value (value : Toml)
  | table (origin : Origin) (rows : List (String × Item))
  | tables (elements : List (List (String × Item)))

abbrev Rows := List (String × Item)

namespace Rows

def replace (rows : Rows) (key : String) (item : Item) : Rows :=
  rows.map fun row => if row.1 == key then (key, item) else row

-- Tables on the way are made where there are none, and of a list of tables the last one is meant.
-- Dotted keys do not enter a table that has a header.
def changeAt (dotted : Bool) (change : Origin → Rows → Option Rows) (origin : Origin) (rows : Rows) :
    List String → Option Rows
  | [] => change origin rows
  | key :: path => match rows.lookup key with
      | none => do
          let origin : Origin := if dotted then .dotted else .implied
          let inner ← changeAt dotted change origin [] path
          some (rows ++ [(key, .table origin inner)])
      | some (.table origin inner) =>
          if dotted && origin == .headed then none
          else do some (rows.replace key (.table origin (← changeAt dotted change origin inner path)))
      | some (.tables elements) => do
          let last ← changeAt dotted change .headed (← elements.getLast?) path
          some (rows.replace key (.tables (elements.dropLast ++ [last])))
      | some (.value _) => none

def insert (path : List String) (value : Toml) (rows : Rows) : Option Rows := do
  let key ← path.getLast?
  let leading := path.dropLast
  let add (origin : Origin) (rows : Rows) : Option Rows :=
    if !leading.isEmpty && origin != .dotted then none
    else if (rows.lookup key).isSome then none
    else some (rows ++ [(key, .value value)])
  changeAt true add .headed rows leading

-- A table that is so far only part of other headers moves to the end.
def openTable (path : List String) (rows : Rows) : Option Rows := do
  let key ← path.getLast?
  let add (_ : Origin) (rows : Rows) : Option Rows :=
    match rows.lookup key with
    | none => some (rows ++ [(key, .table .headed [])])
    | some (.table .implied inner) => some (rows.filter (·.1 != key) ++ [(key, .table .headed inner)])
    | some _ => none
  changeAt false add .headed rows path.dropLast

def openElement (path : List String) (rows : Rows) : Option Rows := do
  let key ← path.getLast?
  let add (_ : Origin) (rows : Rows) : Option Rows :=
    match rows.lookup key with
    | none => some (rows ++ [(key, .tables [[]])])
    | some (.tables elements) => some (rows.replace key (.tables (elements ++ [[]])))
    | some _ => none
  changeAt false add .headed rows path.dropLast

end Rows

mutual

def Item.toToml : Item → Toml
  | .value value => value
  | .table _ rows => .table (Rows.toToml rows)
  | .tables elements => .array (Rows.elementsToToml elements)

def Rows.toToml : List (String × Item) → List (String × Toml)
  | [] => []
  | (key, item) :: rest => (key, item.toToml) :: Rows.toToml rest

def Rows.elementsToToml : List (List (String × Item)) → List Toml
  | [] => []
  | rows :: rest => .table (Rows.toToml rows) :: Rows.elementsToToml rest

end

end Conform.Toml
