import Conform.Json.Basic
import Conform.Number.Shortest

namespace Conform.Json

-- The point is in place from 10^-5 to below 10^16; elsewhere there is a signed exponent.
def floatLayout : FloatLayout := ⟨-5, 16, true⟩

def numberText : Number → List Char
  | .integer value _ => Shortest.integerText value
  | .float value => floatLayout.write value

def hexDigit (value : Nat) : Char := (Nat.digitChar value)

def escape (c : Char) : List Char :=
  match c with
  | '"' => ['\\', '"']
  | '\\' => ['\\', '\\']
  | '\x08' => ['\\', 'b']
  | '\x0c' => ['\\', 'f']
  | '\n' => ['\\', 'n']
  | '\r' => ['\\', 'r']
  | '\t' => ['\\', 't']
  | c =>
      if c.toNat < 0x20 then ['\\', 'u', '0', '0', hexDigit (c.toNat / 16), hexDigit (c.toNat % 16)] else [c]

def quote (text : String) : List Char := '"' :: text.toList.flatMap escape ++ ['"']

def separated (separator : List Char) : List (List Char) → List Char
  | [] => []
  | [only] => only
  | first :: rest => first ++ separator ++ separated separator rest

mutual

def compact : Json → List Char
  | .null => "null".toList
  | .bool value => (if value then "true" else "false").toList
  | .number value => numberText value
  | .string value => quote value
  | .array items => '[' :: separated [','] (compactItems items) ++ [']']
  | .object members => '\x7b' :: separated [','] (compactMembers members) ++ ['\x7d']

def compactItems : List Json → List (List Char)
  | [] => []
  | item :: rest => compact item :: compactItems rest

def compactMembers : List (String × Json) → List (List Char)
  | [] => []
  | (key, value) :: rest => (quote key ++ ':' :: compact value) :: compactMembers rest

end

def newline (level : Nat) : List Char := '\n' :: List.replicate (2 * level) ' '

def indented (level : Nat) (entries : List (List Char)) : List Char :=
  if entries.isEmpty then []
  else newline (level + 1) ++ separated (',' :: newline (level + 1)) entries ++ newline level

mutual

def prettyAt (level : Nat) : Json → List Char
  | .null => "null".toList
  | .bool value => (if value then "true" else "false").toList
  | .number value => numberText value
  | .string value => quote value
  | .array items => '[' :: indented level (prettyItems (level + 1) items) ++ [']']
  | .object members => '\x7b' :: indented level (prettyMembers (level + 1) members) ++ ['\x7d']

def prettyItems (level : Nat) : List Json → List (List Char)
  | [] => []
  | item :: rest => prettyAt level item :: prettyItems level rest

def prettyMembers (level : Nat) : List (String × Json) → List (List Char)
  | [] => []
  | (key, value) :: rest => (quote key ++ ':' :: ' ' :: prettyAt level value) :: prettyMembers level rest

end

def toText (value : Json) : String := .ofList (compact value)

def toPrettyText (value : Json) : String := .ofList (prettyAt 0 value)

end Conform.Json
