import Conform.Json.Number

namespace Conform.Json

inductive Token
  | mark (c : Char)
  | text (value : String)
  | word (letters : List Char)

namespace Token

-- Where the automaton stands in a text; what has been read of a token is kept in reverse.
inductive Mode
  | between
  | inWord (read : List Char)
  | inText (read : List Char)
  | afterBackslash (read : List Char)
  -- hexadecimal digits of an escape, and the first half of a pair if this must be the second one
  | inEscape (read : List Char) (digits : List Nat) (high : Option Nat)
  | afterHigh (read : List Char) (high : Nat) (backslash : Bool)

def isSpace (c : Char) : Bool := c == ' ' || c == '\n' || c == '\r' || c == '\t'

def isMark (c : Char) : Bool := "[]\x7b\x7d:,".toList.contains c

def isWordLetter (c : Char) : Bool := c.isAlphanum || c == '-' || c == '+' || c == '.'

def hexValue? (c : Char) : Option Nat :=
  if c.isDigit then some (c.toNat - '0'.toNat)
  else if 'a' ≤ c ∧ c ≤ 'f' then some (c.toNat - 'a'.toNat + 10)
  else if 'A' ≤ c ∧ c ≤ 'F' then some (c.toNat - 'A'.toNat + 10)
  else none

def escaped? (c : Char) : Option Char :=
  match c with
  | '"' => some '"'
  | '\\' => some '\\'
  | '/' => some '/'
  | 'b' => some '\x08'
  | 'f' => some '\x0c'
  | 'n' => some '\n'
  | 'r' => some '\r'
  | 't' => some '\t'
  | _ => none

-- Halves of a pair must come together, the high one first.
def afterUnit (read : List Char) (high : Option Nat) (unit : Nat) : Option Mode :=
  let isHigh := 0xD800 ≤ unit && unit < 0xDC00
  let isLow := 0xDC00 ≤ unit && unit < 0xE000
  match high with
  | none =>
      if isHigh then some (.afterHigh read unit false)
      else if isLow then none
      else some (.inText (Char.ofNat unit :: read))
  | some first =>
      if isLow then some (.inText (Char.ofNat (0x10000 + (first - 0xD800) * 0x400 + (unit - 0xDC00)) :: read))
      else none

def start (c : Char) : Option (Mode × List Token) :=
  if isSpace c then some (.between, [])
  else if isMark c then some (.between, [.mark c])
  else if c == '"' then some (.inText [], [])
  else if isWordLetter c then some (.inWord [c], [])
  else none

def step (mode : Mode) (c : Char) : Option (Mode × List Token) :=
  match mode with
  | .between => start c
  | .inWord read =>
      if isWordLetter c then some (.inWord (c :: read), [])
      else (start c).map fun (mode, tokens) => (mode, .word read.reverse :: tokens)
  | .inText read =>
      if c == '"' then some (.between, [.text (.ofList read.reverse)])
      else if c == '\\' then some (.afterBackslash read, [])
      else if c.toNat < 0x20 then none
      else some (.inText (c :: read), [])
  | .afterBackslash read =>
      if c == 'u' then some (.inEscape read [] none, [])
      else (escaped? c).map fun plain => (.inText (plain :: read), [])
  | .inEscape read digits high =>
      (hexValue? c).bind fun value =>
        match digits with
        | [third, second, first] =>
            (afterUnit read high (first * 4096 + second * 256 + third * 16 + value)).map (·, [])
        | digits => some (.inEscape read (value :: digits) high, [])
  | .afterHigh read high backslash =>
      if backslash then if c == 'u' then some (.inEscape read [] (some high), []) else none
      else if c == '\\' then some (.afterHigh read high true, []) else none

def finish : Mode → Option (List Token)
  | .between => some []
  | .inWord read => some [.word read.reverse]
  | _ => none

def scanFrom (mode : Mode) : List Char → Option (List Token)
  | [] => finish mode
  | c :: rest => (step mode c).bind fun (next, tokens) => (scanFrom next rest).map (tokens ++ ·)

def scan (text : List Char) : Option (List Token) := scanFrom .between text

end Token

def readWord? (word : List Char) : Option Json :=
  if word == "null".toList then some .null
  else if word == "true".toList then some (.bool true)
  else if word == "false".toList then some (.bool false)
  else (readNumber? word).map .number

-- An array or object that is still open, with what it holds so far in reverse.
inductive Frame
  | array (items : List Json)
  | object (members : Members) (key : String)

inductive Stage
  | wantValue (stack : List Frame)
  -- just inside an array: a value, or its end
  | wantItem (stack : List Frame)
  -- inside an object: a key, or its end if it has just begun
  | wantKey (stack : List Frame) (members : Members) (begun : Bool)
  | wantColon (stack : List Frame) (members : Members) (key : String)
  | complete (stack : List Frame) (value : Json)

namespace Stage

-- The most arrays and objects that may be open at once.
def depthLimit : Nat := 127

def opening (stack : List Frame) : Token → Option Stage
  | .text value => some (.complete stack (.string value))
  | .word letters => (readWord? letters).map (.complete stack)
  | .mark c =>
      if stack.length < depthLimit then
        if c == '[' then some (.wantItem (.array [] :: stack))
        else if c == '\x7b' then some (.wantKey stack [] true)
        else none
      else none

def closing (settle : Members → Members) (value : Json) (c : Char) : List Frame → Option Stage
  | [] => none
  | .array items :: stack =>
      if c == ',' then some (.wantValue (.array (value :: items) :: stack))
      else if c == ']' then some (.complete stack (.array (value :: items).reverse))
      else none
  | .object members key :: stack =>
      if c == ',' then some (.wantKey stack ((key, value) :: members) false)
      else if c == '\x7d' then some (.complete stack (.object (settle ((key, value) :: members).reverse)))
      else none

def step (settle : Members → Members) (stage : Stage) (token : Token) : Option Stage :=
  match stage, token with
  | .wantValue stack, token => opening stack token
  | .wantItem (.array [] :: stack), .mark ']' => some (.complete stack (.array []))
  | .wantItem stack, token => opening stack token
  | .wantKey stack [] true, .mark '\x7d' => some (.complete stack (.object []))
  | .wantKey stack members _, .text key => some (.wantColon stack members key)
  | .wantColon stack members key, .mark ':' => some (.wantValue (.object members key :: stack))
  | .complete stack value, .mark c => closing settle value c stack
  | _, _ => none

end Stage

def ofTokens? (settle : Members → Members) (tokens : List Token) : Option Json :=
  match tokens.foldlM (Stage.step settle) (Stage.wantValue []) with
  | some (.complete [] value) => some value
  | _ => none

-- A key that is repeated keeps its first place and its last value.
def parse? (text : String) : Option Json := (Token.scan text.toList).bind (ofTokens? Members.settle)

def parseAsWritten? (text : String) : Option Json := (Token.scan text.toList).bind (ofTokens? id)

end Conform.Json
