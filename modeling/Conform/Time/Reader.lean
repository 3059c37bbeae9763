import Conform.Text.Blank
import Conform.Time.Calendar

namespace Conform.Time
open Conform.Text

-- A step of reading takes a value off the front of a text.
abbrev Step (α : Type) := List Char → Option (α × List Char)

def number (least most : Nat) : Step Nat := fun text =>
  let digits := (text.take most).takeWhile Char.isDigit
  if digits.length < least then none
  else some (digits.foldl (fun value c => 10 * value + (c.toNat - '0'.toNat)) 0, text.drop digits.length)

def longNumber (least : Nat) : Step Nat := fun text => number least text.length text

def exactly (c : Char) : Step Unit
  | [] => none
  | d :: rest => if c == d then some ((), rest) else none

def oneOf (choices : List Char) : Step Char
  | [] => none
  | d :: rest => if choices.contains d then some (d, rest) else none

def blanks : Step Unit := fun text =>
  match text with
  | c :: rest => if isBlank c then some ((), trimStart rest) else none
  | [] => none

-- In nanoseconds; digits after the ninth are dropped.
def fraction : Step Nat := fun text => do
  let (value, rest) ← number 1 9 text
  let count := text.length - rest.length
  some (value * Nat.pow 10 (9 - count), rest.dropWhile Char.isDigit)

def optionalFraction : Step Nat
  | '.' :: rest => fraction rest
  | rest => some (0, rest)

def shortName (names : List String) : Step Nat := fun text =>
  let letters := String.ofList ((text.take 3).map Char.toLower)
  (names.findIdx? (· == letters)).map (·, text.drop 3)

def sign (minuses : List Char) : Step Bool
  | '+' :: rest => some (false, rest)
  | c :: rest => if minuses.contains c then some (true, rest) else none
  | [] => none

def zoneDigits (minuses : List Char) (separator : Step Unit) : Step Int := fun text => do
  let (negative, text) ← sign minuses text
  let (hours, text) ← number 2 2 text
  let ((), text) ← separator text
  let (minutes, text) ← number 2 2 text
  let seconds : Int := hours * 3600 + minutes * 60
  if minutes < 60 then some (if negative then -seconds else seconds, text) else none

def internetZone : Step Int
  | 'Z' :: rest | 'z' :: rest => some (0, rest)
  | text => zoneDigits ['-', '\u2212'] (exactly ':') text

def dateDigits (text : List Char) : Option (Date × List Char) := do
  let (year, text) ← number 4 4 text
  let ((), text) ← exactly '-' text
  let (month, text) ← number 2 2 text
  let ((), text) ← exactly '-' text
  let (day, text) ← number 2 2 text
  some (⟨year, month, day⟩, text)

def readInternet (text : List Char) : Option Int := do
  let (date, text) ← dateDigits text
  let (_, text) ← oneOf ['t', 'T', ' '] text
  let (hour, text) ← number 2 2 text
  let ((), text) ← exactly ':' text
  let (minute, text) ← number 2 2 text
  let ((), text) ← exactly ':' text
  let (second, text) ← number 2 2 text
  let (nanosecond, text) ← optionalFraction text
  let (offset, text) ← internetZone text
  if text.isEmpty then epochMilliseconds? date ⟨hour, minute, second, nanosecond⟩ offset else none

def weekdayNames : List String := ["mon", "tue", "wed", "thu", "fri", "sat", "sun"]

def monthNames : List String :=
  ["jan", "feb", "mar", "apr", "may", "jun", "jul", "aug", "sep", "oct", "nov", "dec"]

-- Zones with names, in hours ahead of UTC.
def namedZones : List (String × Int) :=
  [("gmt", 0), ("ut", 0), ("z", 0), ("edt", -4), ("est", -5), ("cdt", -5), ("cst", -6), ("mdt", -6), ("mst", -7),
    ("pdt", -7), ("pst", -8)]

-- A single letter but `j` stands for no known offset, which counts as none.
def mailZone : Step Int := fun text =>
  let name := text.takeWhile Char.isAlpha
  let rest := text.dropWhile Char.isAlpha
  if name.isEmpty then zoneDigits ['-'] (fun text => some ((), text)) text
  else
    let lowered := name.map Char.toLower
    match namedZones.find? (·.1 == String.ofList lowered) with
    | some (_, hours) => some (hours * 3600, rest)
    | none => if lowered.length == 1 && lowered != ['j'] then some (0, rest) else none

-- The opening parenthesis has been read; a backslash takes the next character away.
def skipComment (depth : Nat) : List Char → Option (List Char)
  | [] => none
  | '\\' :: _ :: rest => skipComment depth rest
  | '(' :: rest => skipComment (depth + 1) rest
  | ')' :: rest => if depth == 0 then some rest else skipComment (depth - 1) rest
  | _ :: rest => skipComment depth rest

def skipComments : Nat → List Char → List Char
  | 0, text => text
  | count + 1, text =>
      match trimStart text with
      | '(' :: inside =>
          match skipComment 0 inside with
          | some rest => skipComments count rest
          | none => text
      | _ => text

-- Years of two digits are those of 1950 to 2049, and years of three digits count from 1900.
def fullYear (digits value : Nat) : Nat :=
  if digits == 2 then if value < 50 then 2000 + value else 1900 + value
  else if digits == 3 then 1900 + value
  else value

def mailWeekday : Step (Option Nat) := fun text =>
  match shortName weekdayNames text with
  | none => some (none, text)
  | some (weekday, rest) => (exactly ',' rest).map fun (_, rest) => (some weekday, rest)

def optionalSecond : Step Nat := fun text =>
  match exactly ':' (trimStart text) with
  | some (_, rest) => number 2 2 rest
  | none => some (0, text)

-- A weekday may stand in front and has to fit the date; comments may stand at the end.
def readMail (text : List Char) : Option Int := do
  let (weekday, text) ← mailWeekday (trimStart text)
  let (day, text) ← number 1 2 (trimStart text)
  let ((), text) ← blanks text
  let (month, text) ← shortName monthNames text
  let ((), text) ← blanks text
  let (year, after) ← longNumber 2 text
  let date : Date := ⟨fullYear (text.length - after.length) year, month + 1, day⟩
  let ((), text) ← blanks after
  let (hour, text) ← number 2 2 text
  let ((), text) ← exactly ':' (trimStart text)
  let (minute, text) ← number 2 2 (trimStart text)
  let (second, text) ← optionalSecond text
  let ((), text) ← blanks text
  let (offset, text) ← mailZone text
  if (skipComments text.length text).isEmpty && weekday.all (· == date.weekday) then
    epochMilliseconds? date ⟨hour, minute, second, 0⟩ offset
  else none

-- A year of up to four digits, or of any number of digits after a sign.
def signedYear : Step Int := fun text =>
  match trimStart text with
  | '-' :: rest => (longNumber 1 rest).map fun (year, rest) => (-year, rest)
  | '+' :: rest => (longNumber 1 rest).map fun (year, rest) => ((year : Int), rest)
  | text => (number 1 4 text).map fun (year, rest) => ((year : Int), rest)

def field : Step Nat := fun text => number 1 2 (trimStart text)

def plainDate (text : List Char) : Option (Date × List Char) := do
  let (year, text) ← signedYear text
  let ((), text) ← exactly '-' text
  let (month, text) ← field text
  let ((), text) ← exactly '-' text
  let (day, text) ← field text
  some (⟨year, month, day⟩, text)

-- What stands between a date and a time: a letter, or blanks, of which there may be none.
def letterT : Step Unit := exactly 'T'
def anyBlanks : Step Unit := fun text => some ((), trimStart text)

def readPlain (separator : Step Unit) (withSeconds : Bool) (text : List Char) : Option Int := do
  let (date, text) ← plainDate text
  let ((), text) ← separator text
  let (hour, text) ← field text
  let ((), text) ← exactly ':' text
  let (minute, text) ← field text
  let (second, text) ← if withSeconds then (exactly ':' text).bind fun (_, text) => field text else some (0, text)
  let (nanosecond, text) ← if withSeconds then optionalFraction text else some (0, text)
  if text.isEmpty then epochMilliseconds? date ⟨hour, minute, second, nanosecond⟩ 0 else none

def readDate (text : List Char) : Option Int := do
  let (date, text) ← plainDate text
  if text.isEmpty then epochMilliseconds? date ⟨0, 0, 0, 0⟩ 0 else none

def readMilliseconds? (text : List Char) : Option Int :=
  readInternet text
    |>.or (readMail text)
    |>.or (readPlain letterT true text)
    |>.or (readPlain anyBlanks true text)
    |>.or (readPlain letterT false text)
    |>.or (readPlain anyBlanks false text)
    |>.or (readDate text)

end Conform.Time
