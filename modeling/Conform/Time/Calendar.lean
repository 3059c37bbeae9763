namespace Conform.Time

def isLeapYear (year : Int) : Bool := year % 4 == 0 && (year % 100 != 0 || year % 400 == 0)

def monthLength (year : Int) (month : Nat) : Nat :=
  match month with
  | 2 => if isLeapYear year then 29 else 28
  | 4 | 6 | 9 | 11 => 30
  | _ => 31

structure Date where
  year : Int
  month : Nat
  day : Nat
deriving DecidableEq

namespace Date

-- The years that dates may have.
def firstYear : Int := -262143
def lastYear : Int := 262142

def isValid (date : Date) : Bool :=
  firstYear ≤ date.year && date.year ≤ lastYear && 1 ≤ date.month && date.month ≤ 12
    && 1 ≤ date.day && date.day ≤ monthLength date.year date.month

-- Years are taken to begin in March, which puts a leap day at their end.
def dayNumber (date : Date) : Int :=
  let year := if date.month ≤ 2 then date.year - 1 else date.year
  let month : Int := (date.month + 9) % 12
  365 * year + year / 4 - year / 100 + year / 400 + (153 * month + 2) / 5 + date.day - 1 - 719468

def weekday (date : Date) : Nat := ((date.dayNumber + 3) % 7).toNat

end Date

-- The second may be 60, which is a leap second.
structure Clock where
  hour : Nat
  minute : Nat
  second : Nat
  nanosecond : Nat
deriving DecidableEq

namespace Clock

def isValid (clock : Clock) : Bool := clock.hour ≤ 23 && clock.minute ≤ 59 && clock.second ≤ 60

def milliseconds (clock : Clock) : Int :=
  (clock.hour * 3600 + clock.minute * 60 + clock.second) * 1000 + clock.nanosecond / 1000000

end Clock

-- `offset` is in seconds ahead of UTC. There is no result if a field is out of range, or if the
-- date in UTC is.
def epochMilliseconds? (date : Date) (clock : Clock) (offset : Int) : Option Int :=
  let seconds := clock.hour * 3600 + clock.minute * 60 + clock.second.min 59 - offset
  let day := date.dayNumber + seconds / 86400
  let first := (Date.mk Date.firstYear 1 1).dayNumber
  let last := (Date.mk Date.lastYear 12 31).dayNumber
  if date.isValid && clock.isValid && offset.natAbs < 86400 && first ≤ day && day ≤ last then
    some (date.dayNumber * 86400000 + clock.milliseconds - offset * 1000)
  else none

end Conform.Time
