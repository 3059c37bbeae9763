import Conform.Text.Blank
import Conform.Text.CaseTable

namespace Conform.Text

def CaseRun.covers (run : CaseRun) (c : Char) : Bool :=
  run.first ≤ c.toNat && c.toNat ≤ run.last && (c.toNat - run.first) % run.step == 0

def mapped (runs : List CaseRun) (c : Char) : Char :=
  match runs.find? (·.covers c) with
  | some run => Char.ofNat (c.toNat + run.offset).toNat
  | none => c

-- The dotted capital I keeps its dot as a mark.
def lowerChar (c : Char) : List Char := if c == '\u0130' then ['i', '\u0307'] else [mapped lowerRuns c]

def upperChar (c : Char) : List Char :=
  match upperExpansions.find? (·.1 == c.toNat) with
  | some (_, letters) => letters.map Char.ofNat
  | none => [mapped upperRuns c]

def inRanges (ranges : List (Nat × Nat)) (c : Char) : Bool :=
  ranges.any fun range => range.1 ≤ c.toNat && c.toNat ≤ range.2

def letterFirst (text : List Char) : Bool :=
  match text.dropWhile (inRanges caseIgnorableRanges) with
  | c :: _ => inRanges casedRanges c
  | [] => false

def lowerFrom (before : List Char) : List Char → List Char
  | [] => []
  | c :: rest =>
      let mapped := if c == 'Σ' then [if letterFirst before && !letterFirst rest then 'ς' else 'σ'] else lowerChar c
      mapped ++ lowerFrom (c :: before) rest

def lower (text : List Char) : List Char := lowerFrom [] text

def upper (text : List Char) : List Char := text.flatMap upperChar

def isWordStart (c : Char) : Bool := c.isAlphanum || c == '_'

-- A word goes from its first ASCII letter, digit or underscore to the next blank.
def titleFrom (inWord : Bool) : List Char → List Char
  | [] => []
  | c :: rest =>
      if inWord then if isBlank c then c :: titleFrom false rest else lowerChar c ++ titleFrom true rest
      else if isWordStart c then upperChar c ++ titleFrom true rest
      else c :: titleFrom false rest

def title (text : List Char) : List Char := titleFrom false text

def lowered (text : String) : String := .ofList (lower text.toList)
def uppered (text : String) : String := .ofList (upper text.toList)
def titled (text : String) : String := .ofList (title text.toList)

end Conform.Text
