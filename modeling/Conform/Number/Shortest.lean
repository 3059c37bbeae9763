import Conform.Number.Binary64

namespace Conform

structure Shortest where
  digits : List Char
  exponent : Int

namespace Binary64

def decimalExponent (units : Nat) : Int :=
  if one ≤ units then (Nat.toDigits 10 (units / one)).length - 1
  else -(Nat.toDigits 10 ((one - 1) / units)).length

-- A number reads back if it lies between the points halfway to the neighbours, which belong to the
-- interval when the significand is even. Lengths are quarters of units.
def readsBack (units candidate : Nat) (place : Int) : Bool :=
  let above := 2 * gap units
  let below := if units == twoTo units.log2 && gap units != 1 then gap units else 2 * gap units
  let numerator := 4 * candidate * Nat.pow 10 place.toNat * one
  let denominator := Nat.pow 10 (-place).toNat
  let low := (4 * units - below) * denominator
  let high := (4 * units + above) * denominator
  if units / gap units % 2 == 0 then low ≤ numerator && numerator ≤ high
  else low < numerator && numerator < high

def neighbours (units : Nat) (place : Int) : List Nat :=
  let numerator := units * Nat.pow 10 (-place).toNat
  let denominator := one * Nat.pow 10 place.toNat
  let lower := numerator / denominator
  if roundHalfEven numerator denominator == lower then [lower, lower + 1] else [lower + 1, lower]

-- Seventeen digits always suffice.
def shortestOnGrid (units : Nat) : Nat × Int :=
  let first := decimalExponent units
  let hits := (List.range 17).findSome? fun (extra : Nat) =>
    let place := first - extra
    ((neighbours units place).find? (readsBack units · place)).map (·, place)
  hits.getD (units, 0)

def shortest (x : Binary64) : Shortest :=
  if x.isZero then ⟨['0'], 0⟩
  else
    let (value, place) := shortestOnGrid x.units
    let digits := Nat.toDigits 10 value
    let kept := (digits.reverse.dropWhile (· == '0')).reverse
    ⟨kept, place + digits.length - 1⟩

end Binary64

namespace Shortest

def signText (negative : Bool) : List Char := if negative then ['-'] else []

def positional (number : Shortest) : List Char :=
  let count := number.digits.length
  if number.exponent < 0 then '0' :: '.' :: List.replicate (-number.exponent - 1).toNat '0' ++ number.digits
  else
    let before := number.exponent.toNat + 1
    if count ≤ before then number.digits ++ List.replicate (before - count) '0'
    else number.digits.take before ++ '.' :: number.digits.drop before

def integerText (value : Int) : List Char :=
  signText (value < 0) ++ Nat.toDigits 10 value.natAbs

def scientific (number : Shortest) (plus : Bool) : List Char :=
  let fraction := match number.digits.drop 1 with
    | [] => []
    | rest => '.' :: rest
  let sign := if number.exponent < 0 then ['-'] else if plus then ['+'] else []
  number.digits.take 1 ++ fraction ++ 'e' :: sign ++ Nat.toDigits 10 number.exponent.natAbs

end Shortest

structure FloatLayout where
  -- exponents from the first to below the second are written with the point in place
  positionalFrom : Int
  positionalBelow : Int
  -- whether an exponent that is not negative carries a sign
  plus : Bool

namespace FloatLayout

-- A fraction of one zero tells a whole number from an integer.
def write (layout : FloatLayout) (x : Binary64) : List Char :=
  let number := x.shortest
  let body :=
    if layout.positionalFrom ≤ number.exponent ∧ number.exponent < layout.positionalBelow then
      if x.isWhole then number.positional ++ ['.', '0'] else number.positional
    else number.scientific layout.plus
  Shortest.signText x.negative ++ body

end FloatLayout

-- A point but no exponent; a whole number below 10^21 is written out exactly.
def Binary64.plainText (x : Binary64) : List Char :=
  let body :=
    if x.isWhole ∧ x.units < Nat.pow 10 21 * Binary64.one then Nat.toDigits 10 (x.units / Binary64.one)
    else x.shortest.positional
  Shortest.signText x.negative ++ body

end Conform
