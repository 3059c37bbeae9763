import Conform.Json.Printer
import Conform.Text.Blank
import Conform.Yaml.Scan

namespace Conform.Yaml
open Conform.Text

def floatLayout : FloatLayout := ⟨-5, 16, false⟩

def isAmbiguous (text : String) : Bool :=
  isNullWord text || (truthWord? text).isSome || (integer? text.toList).isSome || isEndless text
    || (float? text.toList).isSome || isZeroPadded text.toList

def isBreak (c : Char) : Bool := ['\n', '\r', '\u0085', '\u2028', '\u2029'].contains c

def isPrintable (c : Char) : Bool :=
  c == '\n' || (' ' ≤ c && c ≤ '~') || ('\u00a0' ≤ c && c != '\ufeff' && c != '\ufffe' && c != '\uffff')

def endsToken : List Char → Bool
  | [] => true
  | c :: _ => isBlank c || isBreak c

def hasIndicator (text : List Char) : Bool :=
  let opening := match text with
    | '-' :: '-' :: '-' :: _ | '.' :: '.' :: '.' :: _ => true
    | c :: rest =>
        "#,[]\x7b\x7d&*!|>'\"%@`".toList.contains c || ((c == '?' || c == ':' || c == '-') && endsToken rest)
    | [] => false
  opening || inside text
where
  inside : List Char → Bool
    | [] => false
    | c :: rest => (match rest with
        | ':' :: after => endsToken after
        | '#' :: _ => endsToken [c]
        | _ => false) || inside rest

def meets (first second : Char → Bool) : List Char → Bool
  | a :: b :: rest => (first a && second b) || meets first second (b :: rest)
  | _ => false

-- The ways in which a text may be written.
structure Shape where
  plain : Bool
  single : Bool
  literal : Bool

def Shape.of (text : List Char) : Shape :=
  let isSpace (c : Char) : Bool := c == ' '
  let edges := text.head?.toList ++ text.getLast?.toList
  let broken := meets isSpace isBreak text || !text.all isPrintable
  let single := !broken && !meets isBreak isSpace text
  { plain := single && !edges.any (fun c => isSpace c || isBreak c) && !text.any isBreak && !hasIndicator text
    single
    literal := !broken && !(text.getLast?.any isSpace) }

def singleText (text : List Char) : List Char :=
  '\'' :: text.flatMap (fun c => if c == '\'' then ['\'', '\''] else [c]) ++ ['\'']

def hexText (count value : Nat) : List Char :=
  let digits := (Nat.toDigits 16 value).map Char.toUpper
  List.replicate (count - digits.length) '0' ++ digits

def escapeChar (c : Char) : List Char :=
  match c with
  | '\x00' => ['\\', '0']
  | '\x07' => ['\\', 'a']
  | '\x08' => ['\\', 'b']
  | '\t' => ['\\', 't']
  | '\n' => ['\\', 'n']
  | '\x0b' => ['\\', 'v']
  | '\x0c' => ['\\', 'f']
  | '\r' => ['\\', 'r']
  | '\x1b' => ['\\', 'e']
  | '"' => ['\\', '"']
  | '\\' => ['\\', '\\']
  | '\u0085' => ['\\', 'N']
  | '\u2028' => ['\\', 'L']
  | '\u2029' => ['\\', 'P']
  | c =>
      if isPrintable c then [c]
      else if c.toNat ≤ 0xff then '\\' :: 'x' :: hexText 2 c.toNat
      else if c.toNat ≤ 0xffff then '\\' :: 'u' :: hexText 4 c.toNat
      else '\\' :: 'U' :: hexText 8 c.toNat

def doubleText (text : List Char) : List Char := '"' :: text.flatMap escapeChar ++ ['"']

-- An indentation if the text begins with a blank, and what becomes of its end.
def literalHead (text : List Char) : List Char :=
  let indent := if text.head?.any fun c => c == ' ' || isBreak c then ['2'] else []
  let chomp := match text.reverse with
    | last :: before =>
        if !isBreak last then ['-'] else if before.isEmpty || before.head?.any isBreak then ['+'] else []
    | [] => ['-']
  '|' :: indent ++ chomp

def literalLines (text : List Char) : List (List Char) :=
  let lines := split '\n' text
  literalHead text :: (if text.getLast? == some '\n' then lines.dropLast else lines)

def textLines (text : String) : List (List Char) :=
  let characters := text.toList
  let shape := Shape.of characters
  if characters.contains '\n' then
    if shape.literal then literalLines characters else [doubleText characters]
  else if !isAmbiguous text && shape.plain then [characters]
  else if shape.single then [singleText characters]
  else [doubleText characters]

def numberText : Number → List Char
  | .integer value _ => Shortest.integerText value
  | .float value => floatLayout.write value

def indentBy (line : List Char) : List Char := if line.isEmpty then [] else ' ' :: ' ' :: line

def under (mark : String) : List (List Char) → List (List Char)
  | [] => []
  | line :: rest => (mark.toList ++ line) :: rest.map indentBy

-- How far a value goes in below its key.
inductive Below
  | inline
  | sequence
  | mapping

def Below.of : Json → Below
  | .array (_ :: _) => .sequence
  | .object (_ :: _) => .mapping
  | _ => .inline

-- A long key, or one of several lines, is written after a mark of its own.
def isSimpleKey (key : String) : Bool := !key.toList.any isBreak && byteLength key.toList ≤ 128

def entryLines (key : String) (below : Below) (value : List (List Char)) : List (List Char) :=
  if isSimpleKey key then
    let name := (textLines key).flatten
    match below with
    | .inline => under (.ofList (name ++ [':', ' '])) value
    | .sequence => (name ++ [':']) :: value
    | .mapping => (name ++ [':']) :: value.map indentBy
  else under "? " (textLines key) ++ under ": " value

mutual

def lines : Json → List (List Char)
  | .null => ["null".toList]
  | .bool value => [(if value then "true" else "false").toList]
  | .number value => [numberText value]
  | .string value => textLines value
  | .array [] => ["[]".toList]
  | .array (item :: items) => itemLines (item :: items)
  | .object [] => ["\x7b\x7d".toList]
  | .object (member :: members) => memberLines (member :: members)

def itemLines : List Json → List (List Char)
  | [] => []
  | item :: rest => under "- " (lines item) ++ itemLines rest

def memberLines : List (String × Json) → List (List Char)
  | [] => []
  | (key, value) :: rest => entryLines key (.of value) (lines value) ++ memberLines rest

end

def write (value : Json) : String :=
  let written := match Below.of value with
    | .inline => under "" (lines value)
    | _ => lines value
  .ofList (written.flatMap (· ++ ['\n']))

end Conform.Yaml
