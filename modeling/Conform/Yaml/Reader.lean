import Conform.Yaml.Scan

namespace Conform.Yaml

structure State where
  cursor : Cursor
  anchors : List (String × Node)

abbrev Read := StateT State Option

namespace Read

def rest : Read (List Char) := return (← get).cursor.rest

def cursor : Read Cursor := return (← get).cursor

def moveTo (cursor : Cursor) : Read Unit := modify fun state => { state with cursor }

def goTo (rest : List Char) : Read Unit := modify fun state => { state with cursor := state.cursor.goTo rest }

def drop (count : Nat) : Read Unit := modify fun state => { state with cursor := state.cursor.advance count }

def skip (flow : Bool) : Read Unit := modify fun state => { state with cursor := state.cursor.skip flow }

-- After the mark of an entry a block may begin on the same line.
def refresh : Read Unit := modify fun state => { state with cursor := { state.cursor with fresh := true } }

def ofOption (value : Option α) : Read α := StateT.lift value

def skipBlanks : Read Unit := do goTo ((← rest).dropWhile isBlank)

end Read
open Read

def empty : Node := .scalar true ""

def isWord (mark : Char) : List Char → Bool
  | c :: rest => c == mark && endsWord rest
  | [] => false

inductive Property
  | anchor (name : String)
  | tag (tag : Tag)

def isNameChar (c : Char) : Bool := c.isAlphanum || c == '_' || c == '-'

def isTagChar (flow : Bool) (c : Char) : Bool := !isBlank c && c != '\n' && !(flow && isFlowMark c)

def tagOf (text : List Char) : Tag :=
  match text with
  | '!' :: '!' :: name => .standard (.ofList name)
  | '!' :: '<' :: rest =>
      let address := String.ofList rest.dropLast
      if address.startsWith "tag:yaml.org,2002:" then .standard (.ofList (rest.dropLast.drop 18)) else .other address
  | text => .other (.ofList text)

def property (flow : Bool) : Read (Option Property) := do
  match ← rest with
  | '&' :: text =>
      let name := text.takeWhile isNameChar
      let after := text.dropWhile isNameChar
      if name.isEmpty || !(endsWord after || after.head?.any fun c => "?:,]\x7d%@`".toList.contains c) then failure
      goTo after
      return some (.anchor (.ofList name))
  | '!' :: text =>
      goTo (text.dropWhile (isTagChar flow))
      return some (.tag (tagOf ('!' :: text.takeWhile (isTagChar flow))))
  | _ => return none

def alias_ : Read Node := do
  let text := (← rest).drop 1
  goTo (text.dropWhile isNameChar)
  let name := String.ofList (text.takeWhile isNameChar)
  match (← get).anchors.find? (·.1 == name) with
  | some (_, node) => return .alias node
  | none => failure

def Node.isAlias : Node → Bool
  | .alias _ => true
  | _ => false

-- A later alias stands for the node with its properties.
def withProperties (properties : List Property) (node : Node) : Read Node := do
  if node.isAlias && !properties.isEmpty then failure
  let tagged := properties.foldl (fun node property => match property with
    | .tag tag => .tagged tag node
    | .anchor _ => node) node
  for property in properties do
    if let .anchor name := property then
      modify fun state => { state with anchors := (name, tagged) :: state.anchors }
  return tagged

def inlineNode (fuel : Nat) (flow : Bool) (indent : Nat) : Read Node := do
  let start ← cursor
  match start.rest with
  | '*' :: _ => alias_
  | '"' :: text =>
      let (content, after) ← ofOption (doubleQuoted [] (.blanks []) text)
      goTo after
      return .scalar false (.ofList content)
  | '\'' :: text =>
      let (content, after) ← ofOption (singleQuoted [] (.blanks []) text)
      goTo after
      return .scalar false (.ofList content)
  | text =>
      if startsPlain flow text then
        let (content, place) ← ofOption (plainScalar fuel flow indent start)
        moveTo place
        return .scalar true (.ofList content)
      else failure

def inlineProperties : Nat → Bool → Read (List Property)
  | 0, _ => return []
  | count + 1, flow => do
      match ← property flow with
      | none => return []
      | some found =>
          if flow then skip true else skipBlanks
          return found :: (← inlineProperties count flow)

mutual

def flowNode : Nat → Read Node
  | 0 => failure
  | fuel + 1 => do
      skip true
      let properties ← inlineProperties 2 true
      match ← rest with
      | '[' :: _ =>
          drop 1
          withProperties properties (.sequence (← flowItems fuel))
      | '{' :: _ =>
          drop 1
          withProperties properties (.mapping (← flowEntries fuel))
      | c :: _ =>
          if !properties.isEmpty && (c == ',' || c == ']' || c == '\x7d' || c == ':') then
            withProperties properties empty
          else withProperties properties (← inlineNode fuel true 0)
      | [] => failure

def flowValue : Nat → Read Node
  | 0 => failure
  | fuel + 1 => do
      skip true
      match ← rest with
      | ':' :: _ =>
          drop 1
          skip true
          if (← rest).head?.any fun c => c == ',' || c == ']' || c == '\x7d' then return empty
          else flowNode fuel
      | _ => return empty

-- A node that may be a key, and whether it must be one.
def flowKey : Nat → Bool → Read (Node × Bool)
  | 0, _ => failure
  | fuel + 1, marked => do
      skip true
      let start ← cursor
      let node ← flowNode fuel
      skip true
      let place ← cursor
      let colon := place.rest.head? == some ':'
      if colon && !marked && !start.keyEndsAt place then failure
      return (node, marked || colon)

def flowItems : Nat → Read (List Node)
  | 0 => failure
  | fuel + 1 => do
      skip true
      match ← rest with
      | ']' :: _ =>
          drop 1
          return []
      | text =>
          let marked := isWord '?' text
          if marked then drop 1
          let (key, keyed) ← flowKey fuel marked
          let item ← if keyed then pure (.mapping [(key, ← flowValue fuel)]) else pure key
          skip true
          match ← rest with
          | ',' :: _ =>
              drop 1
              return item :: (← flowItems fuel)
          | ']' :: _ =>
              drop 1
              return [item]
          | _ => failure

def flowEntries : Nat → Read (List (Node × Node))
  | 0 => failure
  | fuel + 1 => do
      skip true
      match ← rest with
      | '\x7d' :: _ =>
          drop 1
          return []
      | text =>
          let marked := isWord '?' text
          if marked then drop 1
          let (key, _) ← flowKey fuel marked
          let value ← flowValue fuel
          skip true
          match ← rest with
          | ',' :: _ =>
              drop 1
              return (key, value) :: (← flowEntries fuel)
          | '\x7d' :: _ =>
              drop 1
              return [(key, value)]
          | _ => failure

end

def endsBlock (place : Cursor) (indent : Nat) : Bool :=
  place.rest.isEmpty || (place.fresh && (place.column < indent || (place.column == 0 && isMarker place.rest)))

def blockText (indent : Nat) : Read Node := do
  let text ← rest
  let header ← ofOption (blockHeader? (text.takeWhile fun c => !isBlank c && c != '\n'))
  goTo (text.dropWhile fun c => !isBlank c && c != '\n')
  let line := (← rest).takeWhile (· != '\n')
  if !(line.dropWhile isBlank).isEmpty && (line.dropWhile isBlank).head? != some '#' then failure
  let below := ((← rest).dropWhile (· != '\n')).drop 1
  let (content, after) := blockScalar header indent below
  moveTo ⟨0, true, after⟩
  return .scalar false (.ofList content)

-- Where there are properties, nothing may come after them.
def inlineKey (fuel indent : Nat) (properties : List Property) : Read Node := do
  if !properties.isEmpty && isWord ':' (← rest) then return empty else inlineNode fuel false indent

def blockKey (fuel indent : Nat) : Read Node := do
  let start ← cursor
  let properties ← inlineProperties 2 false
  let key ← inlineKey fuel indent properties
  skipBlanks
  let place ← cursor
  if !isWord ':' place.rest || !start.keyEndsAt place then failure
  withProperties properties key

mutual

-- After a key a list may stand in the column of the key.
def blockNode : Nat → Nat → Bool → Read Node
  | 0, _, _ => failure
  | fuel + 1, indent, afterKey => do
      skip false
      let start ← cursor
      if endsBlock start indent then
        if afterKey && start.fresh && start.column + 1 == indent && isWord '-' start.rest then
          return .sequence (← blockItems fuel start.column true)
        else return empty
      else
        let properties ← inlineProperties 2 false
        skip false
        let place ← cursor
        if !properties.isEmpty && endsBlock place indent then
          if afterKey && place.fresh && place.column + 1 == indent && isWord '-' place.rest then
            withProperties properties (.sequence (← blockItems fuel place.column true))
          else withProperties properties empty
        else if properties.isEmpty || place.fresh then
          withProperties properties (← blockContent fuel indent place [])
        else
          -- on the line of their key, properties are those of the key
          blockContent fuel indent start properties

-- `properties` stand on the line of the content, at its start.
def blockContent : Nat → Nat → Cursor → List Property → Read Node
  | 0, _, _, _ => failure
  | fuel + 1, indent, start, properties => do
      let place ← cursor
      match place.rest with
      | '|' :: _ | '>' :: _ => withProperties properties (← blockText indent)
      | '[' :: _ | '{' :: _ =>
          let node ← flowNode fuel
          skipBlanks
          if isWord ':' (← rest) then failure
          withProperties properties node
      | text =>
          if isWord '-' text then
            if place.fresh then return .sequence (← blockItems fuel start.column false) else failure
          else if isWord '?' text then
            if place.fresh then return .mapping (← blockEntries fuel start.column) else failure
          else
            let node ← inlineKey fuel indent properties
            let place ← cursor
            skipBlanks
            let colon ← cursor
            if isWord ':' colon.rest then
              if !start.fresh || !start.keyEndsAt colon then failure
              let key ← withProperties properties node
              drop 1
              let value ← blockNode fuel (start.column + 1) true
              return .mapping ((key, value) :: (← blockEntries fuel start.column))
            else
              moveTo place
              withProperties properties node

def blockItems : Nat → Nat → Bool → Read (List Node)
  | 0, _, _ => failure
  | fuel + 1, column, inKeyColumn => do
      drop 1
      refresh
      let item ← blockNode fuel (column + 1) false
      skip false
      let place ← cursor
      if endsBlock place column then return [item]
      else if place.fresh && place.column == column then
        if isWord '-' place.rest then return item :: (← blockItems fuel column inKeyColumn)
        else if inKeyColumn then return [item]
        else failure
      else failure

def blockEntries : Nat → Nat → Read (List (Node × Node))
  | 0, _ => failure
  | fuel + 1, column => do
      skip false
      let place ← cursor
      if endsBlock place column then return []
      else if !place.fresh || place.column != column then failure
      else if isWord '?' place.rest then
        drop 1
        refresh
        let key ← blockNode fuel (column + 1) false
        skip false
        let place ← cursor
        if place.fresh && place.column == column && isWord ':' place.rest then
          drop 1
          refresh
          let value ← blockNode fuel (column + 1) true
          return (key, value) :: (← blockEntries fuel column)
        else return (key, empty) :: (← blockEntries fuel column)
      else
        let key ← blockKey fuel (column + 1)
        drop 1
        let value ← blockNode fuel (column + 1) true
        return (key, value) :: (← blockEntries fuel column)

end

def unifyLines : List Char → List Char
  | [] => []
  | '\r' :: '\n' :: rest => '\n' :: unifyLines rest
  | '\r' :: rest => '\n' :: unifyLines rest
  | '\u0085' :: rest => '\n' :: unifyLines rest
  | c :: rest => c :: unifyLines rest

def isAllowed (c : Char) : Bool :=
  c == '\t' || c == '\n' || c == '\r' || (' ' ≤ c && c ≤ '~') || c == '\u0085'
    || ('\u00a0' ≤ c && c ≤ '\ufffd' && c != '\ufeff') || 0x10000 ≤ c.toNat

-- Of the directives only the version is known.
def directives : Nat → Read Unit
  | 0 => failure
  | fuel + 1 => do
      skip false
      let place ← cursor
      if place.column == 0 && place.rest.head? == some '%' then
        let line := String.ofList (trimBlanks (place.rest.takeWhile (· != '\n')))
        if line != "%YAML 1.1" && line != "%YAML 1.2" then failure
        goTo (place.rest.dropWhile (· != '\n'))
        directives fuel
        if !isMarker (← rest) then failure

def document (fuel : Nat) : Read Node := do
  directives fuel
  let start ← cursor
  if start.rest.isEmpty then return .absent
  if isMarker start.rest && start.column == 0 then
    if start.rest.head? == some '.' then failure
    drop 3
  let node ← blockNode fuel 0 false
  skip false
  let place ← cursor
  if place.rest.isEmpty then return node
  else if place.column == 0 && isMarker place.rest && place.rest.head? == some '.' then
    drop 3
    skip false
    if (← rest).isEmpty then return node else failure
  else failure

def parse? (text : String) : Option Node :=
  let characters := match text.toList with
    | '\ufeff' :: rest => rest
    | characters => characters
  if characters.all isAllowed then
    let lines := unifyLines characters
    let fuel := 4 * lines.length + 16
    ((document fuel).run ⟨⟨0, true, lines⟩, []⟩).map (·.1)
  else none

end Conform.Yaml
