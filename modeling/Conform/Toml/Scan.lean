import Conform.Json.Parser
import Conform.Number.Decimal
import Conform.Toml.Basic

namespace Conform.Toml

abbrev Step (α : Type) := List Char → Option (α × List Char)

def isBlank (c : Char) : Bool := c == ' ' || c == '\t'

def isControl (c : Char) : Bool := (c.toNat < 0x20 && c != '\t') || c == '\x7f'

def skipBlanks (text : List Char) : List Char := text.dropWhile isBlank

def skipComment (text : List Char) : Option (List Char) :=
  match text with
  | '#' :: rest =>
      let after := rest.dropWhile (· != '\n')
      let line := rest.takeWhile (· != '\n')
      let line := if after.isEmpty then line else if line.getLast? == some '\r' then line.dropLast else line
      if line.any isControl then none else some after
  | text => some text

def lineEnd (text : List Char) : Option (List Char) := do
  match ← skipComment (skipBlanks text) with
  | [] => some []
  | '\n' :: rest => some rest
  | '\r' :: '\n' :: rest => some rest
  | _ => none

def skipLines (fuel : Nat) (text : List Char) : Option (List Char) :=
  match fuel with
  | 0 => some text
  | fuel + 1 => match skipBlanks text with
      | '\n' :: rest => skipLines fuel rest
      | '\r' :: '\n' :: rest => skipLines fuel rest
      | '#' :: rest => (skipComment ('#' :: rest)).bind (skipLines fuel)
      | text => some text

def charOf? (digits : List Char) : Option Char := do
  let code ← digits.foldlM (fun value c => (Json.Token.hexValue? c).map (16 * value + ·)) 0
  if h : code.isValidChar then some (Char.ofNatAux code h) else none

def escape? (c : Char) : Option Char :=
  match c with
  | 'b' => some '\x08'
  | 't' => some '\t'
  | 'n' => some '\n'
  | 'f' => some '\x0c'
  | 'r' => some '\r'
  | '"' | '\\' => some c
  | _ => none

def endsLine (text : List Char) : Bool :=
  match skipBlanks text with
  | '\n' :: _ | '\r' :: '\n' :: _ => true
  | _ => false

-- A line end after a backslash, and all blanks after it, leave no trace: `joining` is whether this
-- is going on.
def basicText (several joining : Bool) (done : List Char) : Step (List Char)
  | [] => none
  | '\\' :: 'u' :: a :: b :: c :: d :: rest => do basicText several false ((← charOf? [a, b, c, d]) :: done) rest
  | '\\' :: 'U' :: a :: b :: c :: d :: e :: f :: g :: h :: rest => do
      basicText several false ((← charOf? [a, b, c, d, e, f, g, h]) :: done) rest
  | '\\' :: c :: rest =>
      if several && (c == '\n' || c == '\r' || isBlank c) && endsLine (c :: rest) then basicText several true done rest
      else do basicText several false ((← escape? c) :: done) rest
  | '\r' :: '\n' :: rest => if several then basicText several joining (if joining then done else '\n' :: done) rest else none
  | '\n' :: rest => if several then basicText several joining (if joining then done else '\n' :: done) rest else none
  | '"' :: rest =>
      if several then match rest with
        | '"' :: '"' :: '"' :: '"' :: rest => some (('"' :: '"' :: done).reverse, rest)
        | '"' :: '"' :: '"' :: rest => some (('"' :: done).reverse, rest)
        | '"' :: '"' :: rest => some (done.reverse, rest)
        | rest => basicText several false ('"' :: done) rest
      else some (done.reverse, rest)
  | c :: rest =>
      if isControl c then none
      else if joining && isBlank c then basicText several true done rest
      else basicText several false (c :: done) rest

def literalText (several : Bool) (done : List Char) : Step (List Char)
  | [] => none
  | '\r' :: '\n' :: rest => if several then literalText several ('\n' :: done) rest else none
  | '\n' :: rest => if several then literalText several ('\n' :: done) rest else none
  | '\'' :: rest =>
      if several then match rest with
        | '\'' :: '\'' :: '\'' :: '\'' :: rest => some (('\'' :: '\'' :: done).reverse, rest)
        | '\'' :: '\'' :: '\'' :: rest => some (('\'' :: done).reverse, rest)
        | '\'' :: '\'' :: rest => some (done.reverse, rest)
        | rest => literalText several ('\'' :: done) rest
      else some (done.reverse, rest)
  | c :: rest => if isControl c then none else literalText several (c :: done) rest

-- A line end right after three opening quotes does not count.
def dropFirstLineEnd : List Char → List Char
  | '\n' :: rest => rest
  | '\r' :: '\n' :: rest => rest
  | rest => rest

def quoted (text : List Char) : Option (String × List Char) :=
  let result := match text with
    | '"' :: '"' :: '"' :: rest => basicText true false [] (dropFirstLineEnd rest)
    | '"' :: rest => basicText false false [] rest
    | '\'' :: '\'' :: '\'' :: rest => literalText true [] (dropFirstLineEnd rest)
    | '\'' :: rest => literalText false [] rest
    | _ => none
  result.map fun (content, rest) => (.ofList content, rest)

def isBare (c : Char) : Bool := c.isAlphanum || c == '_' || c == '-'

def simpleKey (text : List Char) : Option (String × List Char) :=
  match text with
  | '"' :: rest => (basicText false false [] rest).map fun (key, rest) => (.ofList key, rest)
  | '\'' :: rest => (literalText false [] rest).map fun (key, rest) => (.ofList key, rest)
  | text =>
      let key := text.takeWhile isBare
      if key.isEmpty then none else some (.ofList key, text.dropWhile isBare)

def dottedKey (fuel : Nat) (text : List Char) : Option (List String × List Char) :=
  match fuel with
  | 0 => none
  | fuel + 1 => do
    let (key, rest) ← simpleKey (skipBlanks text)
    match skipBlanks rest with
    | '.' :: rest =>
        let (keys, rest) ← dottedKey fuel rest
        some (key :: keys, rest)
    | rest => some ([key], rest)

def digits? (isDigit : Char → Bool) (text : List Char) : Option (List Char) :=
  let rec go (afterDigit : Bool) : List Char → Option (List Char)
    | [] => if afterDigit then some [] else none
    | c :: rest =>
        if isDigit c then (go true rest).map (c :: ·)
        else if c == '_' && afterDigit then go false rest
        else none
  go false text

def isZeroPadded (digits : List Char) : Bool := digits.head? == some '0' && 1 < digits.length

def radixInteger? (radix : Nat) (digits : List Char) : Option Int := do
  let isDigit (c : Char) : Bool := (Json.Token.hexValue? c).any (· < radix)
  let value := (← digits? isDigit digits).foldl (fun value c => radix * value + (Json.Token.hexValue? c).getD 0) 0
  if value < Number.signedEnd then some value else none

def integer? (word : List Char) : Option Int :=
  match word with
  | '0' :: 'x' :: digits => radixInteger? 16 digits
  | '0' :: 'o' :: digits => radixInteger? 8 digits
  | '0' :: 'b' :: digits => radixInteger? 2 digits
  | word => do
      let (negative, digits) := Decimal.splitSign word
      let digits ← digits? Char.isDigit digits
      if isZeroPadded digits then none
      let value : Int := Decimal.ofDigits digits
      let value := if negative then -value else value
      if -Number.signedEnd ≤ value ∧ value < Number.signedEnd then some value else none

-- Too large a number is a fault.
def float? (word : List Char) : Option (Option Binary64) := do
  let (negative, body) := Decimal.splitSign word
  if body == "inf".toList || body == "nan".toList then return none
  let isMark (c : Char) : Bool := c == '.' || c == 'e' || c == 'E'
  let whole ← digits? Char.isDigit (body.takeWhile (!isMark ·))
  if isZeroPadded whole then none
  let (fraction, rest) ← match body.dropWhile (!isMark ·) with
    | '.' :: rest =>
        let isExponent (c : Char) : Bool := c == 'e' || c == 'E'
        (digits? Char.isDigit (rest.takeWhile (!isExponent ·))).map fun digits =>
          ('.' :: digits, rest.dropWhile (!isExponent ·))
    | [] => none
    | rest => some ([], rest)
  let exponent ← match rest with
    | [] => some []
    | _ :: '+' :: digits => (digits? Char.isDigit digits).map fun digits => 'e' :: digits
    | _ :: '-' :: digits => (digits? Char.isDigit digits).map fun digits => 'e' :: '-' :: digits
    | _ :: digits => (digits? Char.isDigit digits).map fun digits => 'e' :: digits
  let decimal ← Decimal.read? ((if negative then ['-'] else []) ++ whole ++ fraction ++ exponent)
  match decimal.toBinary64? with
  | some value => return some value
  | none => if negative then return none else failure

def twoDigits : Step Nat
  | a :: b :: rest => if a.isDigit && b.isDigit then some (Decimal.ofDigits [a, b], rest) else none
  | _ => none

def dayTime (text : List Char) : Option (DayTime × List Char) := do
  let (hour, rest) ← twoDigits text
  let rest ← match rest with
    | ':' :: rest => some rest
    | _ => none
  let (minute, rest) ← twoDigits rest
  let rest ← match rest with
    | ':' :: rest => some rest
    | _ => none
  let (second, rest) ← twoDigits rest
  if 23 < hour || 59 < minute || 60 < second then none
  match rest with
  | '.' :: rest =>
      let fraction := rest.takeWhile Char.isDigit
      if fraction.isEmpty then none
      let digits := fraction.take 9
      let nanoseconds := Decimal.ofDigits digits * Nat.pow 10 (9 - digits.length)
      some (⟨hour, minute, second, nanoseconds⟩, rest.dropWhile Char.isDigit)
  | rest => some (⟨hour, minute, second, 0⟩, rest)

def offset (text : List Char) : Option (Option (Option Int) × List Char) :=
  let minutes (negative : Bool) (text : List Char) : Option (Option (Option Int) × List Char) := do
    let (hours, rest) ← twoDigits text
    let rest ← match rest with
      | ':' :: rest => some rest
      | _ => none
    let (minutes, rest) ← twoDigits rest
    if 23 < hours || 59 < minutes then none
    let total : Int := hours * 60 + minutes
    some (some (some (if negative then -total else total)), rest)
  match text with
  | 'Z' :: rest | 'z' :: rest => some (some none, rest)
  | '+' :: rest => minutes false rest
  | '-' :: rest => minutes true rest
  | rest => some (none, rest)

def date (text : List Char) : Option ((Nat × Nat × Nat) × List Char) := do
  let (century, rest) ← twoDigits text
  let (years, rest) ← twoDigits rest
  let rest ← match rest with
    | '-' :: rest => some rest
    | _ => none
  let (month, rest) ← twoDigits rest
  let rest ← match rest with
    | '-' :: rest => some rest
    | _ => none
  let (day, rest) ← twoDigits rest
  let year := 100 * century + years
  if month == 0 || 12 < month || day == 0 || Time.monthLength year month < day then none
  some ((year, month, day), rest)

def readMoment (text : List Char) : Option (Moment × List Char) :=
  match date text with
  | some (day, mark :: rest) =>
      let timed := mark == 'T' || mark == 't' || (mark == ' ' && rest.head?.any Char.isDigit)
      if timed then do
        let (time, rest) ← dayTime rest
        let (offset, rest) ← offset rest
        some (⟨some day, some time, offset⟩, rest)
      else some (⟨some day, none, none⟩, mark :: rest)
  | some (day, []) => some (⟨some day, none, none⟩, [])
  | none => (dayTime text).map fun (time, rest) => (⟨none, some time, none⟩, rest)

def isWordChar (c : Char) : Bool := c.isAlphanum || c == '_' || c == '-' || c == '+' || c == '.'

def looksLikeMoment : List Char → Bool
  | a :: b :: ':' :: _ => a.isDigit && b.isDigit
  | a :: b :: c :: d :: '-' :: _ => [a, b, c, d].all Char.isDigit
  | _ => false

def word (text : List Char) : Option (Toml × List Char) :=
  if looksLikeMoment text then (readMoment text).map fun (value, rest) => (.moment value, rest)
  else
    let word := text.takeWhile isWordChar
    let value? :=
      if word == "true".toList then some (.boolean true)
      else if word == "false".toList then some (.boolean false)
      else match integer? word with
        | some value => some (.integer value)
        | none => (float? word).map Toml.float
    value?.map fun value => (value, text.dropWhile isWordChar)

end Conform.Toml
