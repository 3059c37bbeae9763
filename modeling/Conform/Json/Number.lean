import Conform.Json.Basic
import Conform.Number.Decimal

namespace Conform.Json

-- Digits are taken in turn while the significand has room for them in 64 bits, and from the first that does not fit on
-- they only count.
def gather (significand : Nat) : List Char → Nat × Nat
  | [] => (significand, 0)
  | c :: rest =>
      let longer := 10 * significand + Decimal.digitValue c
      if (longer : Int) < Number.unsignedEnd then gather longer rest else (significand, rest.length + 1)

-- The greatest power of ten among the doubles.
def topPower : Nat := 308

def shrink? (x : Binary64) : Nat → Option Binary64
  | 0 => some x
  | count + 1 =>
      if x.isZero then some x
      else do shrink? (← x.div? (← Binary64.tenTo? topPower)) count

-- The significand is rounded to a double first, and each multiplication or division by a power of ten is rounded again,
-- so the outcome is not always the double nearest to the number as it is written.
def scale? (negative : Bool) (significand : Nat) (exponent : Int) : Option Binary64 := do
  let start ← Binary64.ofRatio? negative (significand * Binary64.one) 1
  if start.isZero then start
  else if 0 ≤ exponent then
    if exponent ≤ topPower then start.mul? (← Binary64.tenTo? exponent.toNat) else none
  else
    let below := (-exponent).toNat - 1
    (← shrink? start (below / topPower)).div? (← Binary64.tenTo? (below % topPower + 1))

def readFloat? (negative : Bool) (whole fraction : List Char) (exponent : Int) : Option Number :=
  let (significand, skipped) := gather 0 whole
  let (significand, ignored) := gather significand fraction
  (scale? negative significand (skipped - (fraction.length - ignored : Nat) + exponent)).map .float

-- Integers of more than 64 bits, and the zero with a minus, are doubles.
def readInteger? (negative : Bool) (digits : List Char) : Option Number :=
  let value := Decimal.ofDigits digits
  let float := readFloat? negative digits [] 0
  if negative && value == 0 then float else (Number.ofInt? (if negative then -(value : Int) else value)).or float

def splitMinus : List Char → Bool × List Char
  | '-' :: rest => (true, rest)
  | rest => (false, rest)

def readNumber? (word : List Char) : Option Number :=
  let (negative, body) := splitMinus word
  let whole := body.takeWhile Char.isDigit
  let rest := body.dropWhile Char.isDigit
  let (fraction, tail) := Decimal.splitFraction rest
  if whole.isEmpty || (whole.head? == some '0' && whole != ['0']) then none
  else if rest.isEmpty then readInteger? negative whole
  else if rest.head? == some '.' && fraction.isEmpty then none
  else (Decimal.readExponent? tail).bind (readFloat? negative whole fraction)

end Conform.Json
