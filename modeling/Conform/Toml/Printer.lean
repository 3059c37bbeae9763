import Conform.Json.Printer
import Conform.Toml.Scan

namespace Conform.Toml
open Json (separated)

def floatLayout : FloatLayout := ⟨-324, 309, false⟩

def longestRun (c : Char) (text : List Char) : Nat :=
  (text.foldl (fun (longest, run) other =>
    let run := if other == c then run + 1 else 0
    (max longest run, run)) (0, 0)).1

def isCode (c : Char) : Bool := (isControl c && c != '\n')

def escaped (c : Char) : List Char :=
  match c with
  | '\x08' => ['\\', 'b']
  | '\t' => ['\\', 't']
  | '\n' => ['\\', 'n']
  | '\x0c' => ['\\', 'f']
  | '\r' => ['\\', 'r']
  | '"' => ['\\', '"']
  | '\\' => ['\\', '\\']
  | c => if isControl c then '\\' :: 'u' :: '0' :: '0' :: [c.toNat / 16, c.toNat % 16].map (fun digit => (Nat.digitChar digit).toUpper)
      else [c]

def basic (text : List Char) : List Char := '"' :: text.flatMap escaped ++ ['"']

def literal (text : List Char) : List Char := '\'' :: text ++ ['\'']

-- Line ends stay as they are, and so do quotes but for every third of a run.
def severalLines (text : List Char) : List Char :=
  let rec go (run : Nat) : List Char → List Char
    | [] => []
    | '\n' :: rest => '\n' :: go 0 rest
    | '"' :: rest => if run == 2 then '\\' :: '"' :: go 0 rest else '"' :: go (run + 1) rest
    | c :: rest => escaped c ++ go 0 rest
  let opening := if text.contains '\n' then ['"', '"', '"', '\n'] else ['"', '"', '"']
  opening ++ go 0 text ++ ['"', '"', '"']

def severalLiteralLines (text : List Char) : List Char :=
  let opening := if text.contains '\n' then ['\'', '\'', '\'', '\n'] else ['\'', '\'', '\'']
  opening ++ text ++ ['\'', '\'', '\'']

def quote (text : List Char) : List Char :=
  let single := !text.contains '\n'
  let coded := text.any isCode
  let slashed := text.contains '\\'
  let singles := longestRun '\'' text
  let doubles := longestRun '"' text
  if single && !coded && !slashed && doubles == 0 then basic text
  else if single && !coded && singles == 0 then literal text
  else if !coded && !slashed && doubles ≤ 2 then severalLines text
  else if !coded && singles ≤ 2 then severalLiteralLines text
  else if single then basic text else severalLines text

def quoteKey (key : String) : List Char :=
  let text := key.toList
  let coded := text.any isControl
  if !text.isEmpty && text.all isBare then text
  else if !coded && !text.contains '\\' && !text.contains '"' then basic text
  else if !coded && !text.contains '\'' then literal text
  else basic text

def arrayText (items : List (List Char)) : List Char :=
  if items.length ≤ 1 then '[' :: items.flatten ++ [']']
  else '[' :: items.flatMap (fun item => "\n    ".toList ++ item ++ [',']) ++ ['\n', ']']

def assignmentText (key : String) (value : List Char) : List Char := quoteKey key ++ " = ".toList ++ value

def inlineTableText (rows : List (List Char)) : List Char :=
  if rows.isEmpty then ['\x7b', '\x7d'] else '\x7b' :: ' ' :: separated [',', ' '] rows ++ [' ', '\x7d']

mutual

-- Null has no text, and neither has an integer of more than 63 bits.
def inline? : Json → Option (List Char)
  | .null => none
  | .bool value => some (if value then "true" else "false").toList
  | .number (.integer value _) => if value < Number.signedEnd then some (Shortest.integerText value) else none
  | .number (.float value) => some (floatLayout.write value)
  | .string value => some (quote value.toList)
  | .array items => (inlineItems? items).map arrayText
  | .object members => (inlineMembers? members).map inlineTableText

def inlineItems? : List Json → Option (List (List Char))
  | [] => some []
  | item :: rest => do some ((← inline? item) :: (← inlineItems? rest))

def inlineMembers? : List (String × Json) → Option (List (List Char))
  | [] => some []
  | (key, value) :: rest => do some (assignmentText key (← inline? value) :: (← inlineMembers? rest))

end

def isObject : Json → Bool
  | .object _ => true
  | _ => false

def hasSections : Json → Bool
  | .object _ => true
  | .array items => !items.isEmpty && items.all isObject
  | _ => false

structure Section where
  header : List Char
  rows : List (List Char)

def pathText (path : List String) : List Char := separated ['.'] (path.map quoteKey)

def ownRows? (members : Members) : Option (List (List Char)) :=
  inlineMembers? (members.filter (!hasSections ·.2))

-- The header of an object is left out where it would have no rows and yet is no empty object.
def tableSection? (path : List String) (members : Members) : Option (List Section) := do
  let rows ← ownRows? members
  some (if rows.isEmpty && !members.isEmpty then [] else [⟨'[' :: pathText path ++ [']'], rows⟩])

def elementSection? (path : List String) (members : Members) : Option (List Section) := do
  some [⟨'[' :: '[' :: pathText path ++ [']', ']'], ← ownRows? members⟩]

mutual

def valueSections? (path : List String) : Json → Option (List Section)
  | .object members => do some ((← tableSection? path members) ++ (← memberSections? path members))
  | .array items => if items.all isObject then elementSections? path items else some []
  | _ => some []

def elementSections? (path : List String) : List Json → Option (List Section)
  | [] => some []
  | .object members :: rest => do
      some ((← elementSection? path members) ++ (← memberSections? path members) ++ (← elementSections? path rest))
  | _ :: rest => elementSections? path rest

def memberSections? (path : List String) : List (String × Json) → Option (List Section)
  | [] => some []
  | (key, value) :: rest => do some ((← valueSections? (path ++ [key]) value) ++ (← memberSections? path rest))

end

def lineText (line : List Char) : List Char := line ++ ['\n']

def Section.text (part : Section) : List Char := lineText part.header ++ part.rows.flatMap lineText

def write? (value : Json) : Option String := do
  let .object members := value | none
  let rows := (← ownRows? members).flatMap lineText
  let sections := (← memberSections? [] members).map Section.text
  let parts := if rows.isEmpty then sections else rows :: sections
  some (.ofList (separated ['\n'] parts))

end Conform.Toml
