import Conform.Number.Binary64

namespace Conform

structure Decimal where
  negative : Bool
  digits : Nat
  exponent : Int
deriving DecidableEq

namespace Decimal

def digitValue (c : Char) : Nat := c.toNat - '0'.toNat

def ofDigits (digits : List Char) : Nat := digits.foldl (fun value c => 10 * value + digitValue c) 0

def splitSign : List Char → Bool × List Char
  | '-' :: rest => (true, rest)
  | '+' :: rest => (false, rest)
  | rest => (false, rest)

def readExponent? : List Char → Option Int
  | [] => some 0
  | c :: rest =>
      let (negative, digits) := splitSign rest
      if (c == 'e' || c == 'E') && !digits.isEmpty && digits.all Char.isDigit then
        some (if negative then -(ofDigits digits : Int) else ofDigits digits)
      else none

def splitFraction : List Char → List Char × List Char
  | '.' :: rest => (rest.takeWhile Char.isDigit, rest.dropWhile Char.isDigit)
  | rest => ([], rest)

-- Digits must stand on at least one side of the point.
def read? (text : List Char) : Option Decimal :=
  let (negative, body) := splitSign text
  let whole := body.takeWhile Char.isDigit
  let (fraction, tail) := splitFraction (body.dropWhile Char.isDigit)
  if whole.isEmpty && fraction.isEmpty then none
  else (readExponent? tail).map fun exponent =>
    ⟨negative, ofDigits (whole ++ fraction), exponent - fraction.length⟩

-- A number of that many digits before the point, or that many zeros after it, is past every
-- double, so no power of ten beyond 10^400 is ever computed.
def toBinary64? (decimal : Decimal) : Option Binary64 :=
  let size := (Nat.toDigits 10 decimal.digits).length + decimal.exponent
  if decimal.digits = 0 ∨ size < -400 then some { Binary64.zero with negative := decimal.negative }
  else if 400 < size then none
  else if 0 ≤ decimal.exponent then
    Binary64.ofRatio? decimal.negative (decimal.digits * Nat.pow 10 decimal.exponent.toNat * Binary64.one) 1
  else Binary64.ofRatio? decimal.negative (decimal.digits * Binary64.one) (Nat.pow 10 (-decimal.exponent).toNat)

theorem ofDigits_zero_cons (digits : List Char) : ofDigits ('0' :: digits) = ofDigits digits := rfl

theorem ofDigits_leading_zeros (count : Nat) (digits : List Char) :
    ofDigits (List.replicate count '0' ++ digits) = ofDigits digits := by
  induction count with
  | zero => rfl
  | succ n ih => rw [List.replicate_succ, List.cons_append, ofDigits_zero_cons, ih]

end Decimal
end Conform
