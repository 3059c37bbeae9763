import Conform.Url.Basic
import Conform.Text.Split

namespace Conform.Url.Host
open Conform.Text

-- Decimal, octal after a zero, or hexadecimal after `0x`.
def readPart? (part : List Char) : Option Nat :=
  let digits (radix : Nat) (text : List Char) : Option Nat :=
    text.foldlM (fun value c => ((decodeBytes.hexValue? c).filter (· < radix)).map (radix * value + ·)) 0
  match part with
  | [] => none
  | '0' :: 'x' :: rest | '0' :: 'X' :: rest => digits 16 rest
  | '0' :: rest => digits 8 rest
  | part => digits 10 part

-- A host whose last label is a number has to be an address.
def endsInNumber (host : List Char) : Bool :=
  let labels := (split '.' host).reverse
  let last := match labels with
    | [] :: second :: _ => second
    | first :: _ => first
    | [] => []
  (!last.isEmpty && last.all Char.isDigit) || (readPart? last).isSome

-- The last part fills the bytes that are left.
def readIpv4? (host : List Char) : Option Nat := do
  let labels := split '.' host
  let labels := if labels.getLast? == some [] && 1 < labels.length then labels.dropLast else labels
  if 4 < labels.length then none
  let parts ← labels.mapM readPart?
  let last ← parts.getLast?
  let front := parts.dropLast
  if front.any (255 < ·) || Nat.pow 256 (4 - front.length) ≤ last then none
  some (front.foldr (fun part rest => part * 16777216 + rest / 256) 0 + last)

def readTail? (text : List Char) : Option (List Nat) :=
  let byte? (part : List Char) : Option Nat :=
    if part.isEmpty || 3 < part.length || !part.all Char.isDigit || (1 < part.length && part.head? == some '0') then none
    else some (part.foldl (fun value c => 10 * value + (c.toNat - '0'.toNat)) 0) |>.filter (· < 256)
  match (split '.' text).mapM byte? with
  | some [a, b, c, d] => some [a * 256 + b, c * 256 + d]
  | _ => none

def readPiece? (text : List Char) : Option Nat :=
  if text.isEmpty || 4 < text.length then none
  else text.foldlM (fun value c => (decodeBytes.hexValue? c).map (16 * value + ·)) 0

def readPieces? (text : List Char) : Option (List Nat) :=
  if text.isEmpty then some []
  else
    let parts := split ':' text
    match parts.reverse with
    | last :: front =>
        if last.contains '.' then do
          let front ← front.reverse.mapM readPiece?
          let tail ← readTail? last
          some (front ++ tail)
        else parts.mapM readPiece?
    | [] => none

def cutDoubleColon : List Char → Option (List Char × List Char)
  | ':' :: ':' :: rest => some ([], rest)
  | c :: rest => (cutDoubleColon rest).map fun (before, after) => (c :: before, after)
  | [] => none

-- At least one run of zeros may be left out between two colons.
def readIpv6? (text : List Char) : Option (List Nat) := do
  match cutDoubleColon text with
  | none =>
      let pieces ← readPieces? text
      if pieces.length == 8 then some pieces else none
  | some (before, after) =>
      if before.contains '.' then none
      let front ← readPieces? before
      let back ← readPieces? after
      if front.length + back.length < 8 then
        some (front ++ List.replicate (8 - front.length - back.length) 0 ++ back)
      else none

end Conform.Url.Host
