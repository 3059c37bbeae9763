import Conform.Json.Parser
import Conform.Json.Printer
import Conform.Text.Blank

namespace Conform.Loose
open Conform.Text

def numberText : Number → String
  | .integer value _ => .ofList (Shortest.integerText value)
  | .float value => .ofList value.plainText

mutual

-- Items of a list are joined by commas, and null among them is blank.
def text : Json → String
  | .null => "null"
  | .bool value => if value then "true" else "false"
  | .number value => numberText value
  | .string value => value
  | .array items => ",".intercalate (itemTexts items)
  | .object _ => "[object Object]"

def itemTexts : List Json → List String
  | [] => []
  | .null :: rest => "" :: itemTexts rest
  | item :: rest => text item :: itemTexts rest

end

def digitIn? (radix : Nat) (c : Char) : Option Nat :=
  (Json.Token.hexValue? c).filter (· < radix)

-- Digits are rounded as they come in, and not once at the end; none if there is no digit, or the
-- number is past the doubles.
def readRadix? (radix : Nat) (digits : List Char) : Option Binary64 :=
  if digits.isEmpty then none
  else digits.foldlM (fun value c => (digitIn? radix c).bind (value.shiftIn? radix)) Binary64.zero

def radixOf? (c : Char) : Option Nat :=
  match c with
  | 'x' | 'X' => some 16
  | 'o' | 'O' => some 8
  | 'b' | 'B' => some 2
  | _ => none

def readDecimal? (text : List Char) : Option Binary64 := (Decimal.read? text).bind Decimal.toBinary64?

-- Blanks around a number do not count, and nothing at all is zero.
def readNumber? (text : List Char) : Option Binary64 :=
  match trim text with
  | [] => some Binary64.zero
  | '0' :: mark :: digits =>
      match radixOf? mark with
      | some radix => readRadix? radix digits
      | none => readDecimal? ('0' :: mark :: digits)
  | text => readDecimal? text

def number? : Json → Option Binary64
  | .null => none
  | .bool value => some (if value then .ofInt 1 (by decide) else .zero)
  | .number value => some value.toBinary64
  | .string value => readNumber? value.toList
  | .array items => readNumber? (text (.array items)).toList
  | .object members => readNumber? (text (.object members)).toList

def truth : Json → Bool
  | .null => false
  | .bool value => value
  | .number value => !value.toBinary64.isZero
  | .string value => value != ""
  | .array _ | .object _ => true

end Conform.Loose
