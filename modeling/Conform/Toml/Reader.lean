import Conform.Toml.Scan
import Conform.Toml.Tree

namespace Conform.Toml

-- The parts of a key, and the values inside one another, are no more.
def depthLimit : Nat := 79

-- Lines may end anywhere between brackets, and a last comma is allowed.
def arrayItems (readValue : Step Toml) (fuel : Nat) (text : List Char) : Option (List Toml × List Char) :=
  match fuel with
  | 0 => none
  | fuel + 1 => do
    match ← skipLines text.length text with
    | ']' :: rest => some ([], rest)
    | text =>
        let (item, rest) ← readValue text
        match ← skipLines rest.length rest with
        | ',' :: rest =>
            let (items, rest) ← arrayItems readValue fuel rest
            some (item :: items, rest)
        | ']' :: rest => some ([item], rest)
        | _ => none

def assignment (readValue : Step Toml) (text : List Char) : Option ((List String × Toml) × List Char) := do
  let (path, rest) ← dottedKey depthLimit text
  match rest with
  | '=' :: rest =>
      let (value, rest) ← readValue (skipBlanks rest)
      some ((path, value), rest)
  | _ => none

def inlineRows (readValue : Step Toml) (fuel : Nat) (rows : Rows) (text : List Char) : Option (Rows × List Char) :=
  match fuel with
  | 0 => none
  | fuel + 1 => do
    let ((path, value), rest) ← assignment readValue text
    let rows ← rows.insert path value
    match skipBlanks rest with
    | ',' :: rest => inlineRows readValue fuel rows rest
    | '\x7d' :: rest => some (rows, rest)
    | _ => none

def value (depth : Nat) (text : List Char) : Option (Toml × List Char) :=
  match depth, text with
  | depth + 1, '[' :: rest => (arrayItems (value depth) (rest.length + 1) rest).map fun (items, rest) => (.array items, rest)
  | depth + 1, '\x7b' :: rest => match skipBlanks rest with
      | '\x7d' :: rest => some (.table [], rest)
      | rest => (inlineRows (value depth) (rest.length + 1) [] rest).map fun (rows, rest) => (.table (Rows.toToml rows), rest)
  | _, '"' :: rest => (quoted ('"' :: rest)).map fun (content, rest) => (.string content, rest)
  | _, '\'' :: rest => (quoted ('\'' :: rest)).map fun (content, rest) => (.string content, rest)
  | _, text => word text

inductive Line
  | header (several : Bool) (path : List String)
  | row (path : List String) (value : Toml)

def line (text : List Char) : Option (Line × List Char) :=
  let header (several : Bool) (closing text : List Char) : Option (Line × List Char) := do
    let (path, rest) ← dottedKey depthLimit text
    if closing.isPrefixOf rest then some (.header several path, rest.drop closing.length) else none
  match text with
  | '[' :: '[' :: rest => header true [']', ']'] rest
  | '[' :: rest => header false [']'] rest
  | text => (assignment (value depthLimit) text).map fun ((path, value), rest) => (.row path value, rest)

def lines (fuel : Nat) (text : List Char) : Option (List Line) :=
  match fuel with
  | 0 => none
  | fuel + 1 => do
    match ← skipLines text.length text with
    | [] => some []
    | text =>
        let (first, rest) ← line text
        some (first :: (← lines fuel (← lineEnd rest)))

def enter (state : List String × Rows) (line : Line) : Option (List String × Rows) :=
  match line with
  | .header several path => do
      let rows ← if several then state.2.openElement path else state.2.openTable path
      some (path, rows)
  | .row path value => do
      let rows ← Rows.changeAt false (fun _ rows => rows.insert path value) .headed state.2 state.1
      some (state.1, rows)

def parse? (text : String) : Option Toml := do
  let characters := match text.toList with
    | '\uFEFF' :: rest => rest
    | characters => characters
  let (_, rows) ← (← lines (characters.length + 1) characters).foldlM enter ([], [])
  some (.table (Rows.toToml rows))

end Conform.Toml
