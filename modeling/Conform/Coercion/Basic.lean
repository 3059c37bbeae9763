import Conform.Coercion.Email
import Conform.Coercion.Loose
import Conform.Text.Case
import Conform.Time.Reader
import Conform.Url.Reader

namespace Conform

abbrev Coercion := Json → Option Json

namespace Coercion

def null : Coercion := fun value =>
  match value with
  | .null => some .null
  | value =>
      let text := Text.lowered (Loose.text value)
      if text == "" || text == "null" then some .null else none

def any : Coercion := some

def float : Coercion := fun value =>
  match value with
  | .number value => some (.number value)
  | value => (Loose.number? value).map Json.ofNumber

def integerOf? : Number → Option Json
  | .integer value inRange => some (.number (.integer value inRange))
  | .float value => if value.isWhole then some (.ofNumber value) else none

def int : Coercion := fun value =>
  match float value with
  | some (.number value) => integerOf? value
  | _ => none

def isNonnegative : Json → Bool
  | .number value => Binary64.zero ≤ value.toBinary64
  | _ => false

def unsigned : Coercion := fun value => (int value).filter isNonnegative

def bool : Coercion := fun value => some (.bool (Loose.truth value))

def string : Coercion := fun value => some (.string (Loose.text value))

def email : Coercion := fun value =>
  let text := Loose.text value
  if Email.isAddress text.toList then some (.string text) else none

def hex : Coercion := fun value => (Loose.readRadix? 16 (Loose.text value).toList).map Json.ofNumber

-- Objects and lists stay as they are; other values may be the text of one.
def object : Coercion := fun value =>
  match value with
  | .null => none
  | .array items => some (.array items)
  | .object members => some (.object members)
  | value => (Json.parse? (Loose.text value)).filter Json.isContainer

def wholeOf? (value : Binary64) : Option Json :=
  if value.isWhole then some (.ofNumber value) else (Number.ofInt? value.whole).map Json.number

def timestamp : Coercion := fun value =>
  match value with
  | .number value => wholeOf? value.toBinary64
  | value => (Time.readMilliseconds? (Text.trim (Loose.text value).toList)).bind fun milliseconds =>
      (Number.ofInt? milliseconds).map Json.number

def url : Coercion := fun value => (Url.parse? (Loose.text value)).map fun url => .string url.text

end Coercion
end Conform
