import Conform.Json.Basic
import Conform.Time.Calendar

namespace Conform

-- Hours, minutes and seconds; `nanoseconds` is the fraction.
structure Toml.DayTime where
  hour : Nat
  minute : Nat
  second : Nat
  nanoseconds : Nat

structure Toml.Moment where
  date : Option (Nat × Nat × Nat)
  time : Option Toml.DayTime
  -- minutes, or nothing for the letter Z
  offset : Option (Option Int)

inductive Toml
  | string (value : String)
  | integer (value : Int)
  -- numbers that are not finite are possible here
  | float (value : Option Binary64)
  | boolean (value : Bool)
  | moment (value : Toml.Moment)
  | array (items : List Toml)
  | table (rows : List (String × Toml))

namespace Toml

def padded (width value : Nat) : String :=
  let digits := Nat.toDigits 10 value
  .ofList (List.replicate (width - digits.length) '0' ++ digits)

def DayTime.text (time : DayTime) : String :=
  let fraction := ((padded 9 time.nanoseconds).toList.reverse.dropWhile (· == '0')).reverse
  padded 2 time.hour ++ ":" ++ padded 2 time.minute ++ ":" ++ padded 2 time.second
    ++ if fraction.isEmpty then "" else .ofList ('.' :: fraction)

def offsetText : Option Int → String
  | none => "Z"
  | some minutes =>
      (if minutes < 0 then "-" else "+") ++ padded 2 (minutes.natAbs / 60) ++ ":" ++ padded 2 (minutes.natAbs % 60)

def Moment.text (moment : Moment) : String :=
  let date := match moment.date with
    | some (year, month, day) => padded 4 year ++ "-" ++ padded 2 month ++ "-" ++ padded 2 day
    | none => ""
  let time := match moment.time with
    | some time => (if moment.date.isSome then "T" else "") ++ time.text
    | none => ""
  date ++ time ++ ((moment.offset.map offsetText).getD "")

-- Moments are marked, since JSON has none.
def momentKey : String := "$__toml_private_datetime"

mutual

def toJson : Toml → Json
  | .string value => .string value
  | .integer value => ((Number.ofInt? value).map Json.number).getD .null
  | .float (some value) => .number (.float value)
  | .float none => .null
  | .boolean value => .bool value
  | .moment value => .object [(momentKey, .string value.text)]
  | .array items => .array (itemsToJson items)
  | .table rows => .object (rowsToJson rows)

def itemsToJson : List Toml → List Json
  | [] => []
  | item :: rest => toJson item :: itemsToJson rest

def rowsToJson : List (String × Toml) → List (String × Json)
  | [] => []
  | (key, value) :: rest => (key, toJson value) :: rowsToJson rest

end

end Toml
end Conform
