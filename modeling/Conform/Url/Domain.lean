import Conform.Url.LetterTable
import Conform.Url.Punycode
import Conform.Text.Case
import Conform.Text.Split

namespace Conform.Url.Domain
open Conform.Text

def isIgnored (c : Char) : Bool :=
  ['\u00ad', '\u034f', '\u200b', '\u2060', '\u2064', '\ufeff'].contains c || ('\ufe00' ≤ c && c ≤ '\ufe0f')

def isDot (c : Char) : Bool := ['.', '\u3002', '\uff0e', '\uff61'].contains c

def letter (c : Char) : List Char :=
  if isIgnored c then []
  else if isDot c then ['.']
  else if c == '\u1e9e' then ['ß']
  else if plainRuns.any (·.covers c) then [mapped plainRuns c]
  else lowerChar c

-- Two Hangul parts make one character by their numbers alone.
def composeHangul? (first second : Nat) : Option Nat :=
  if 0x1100 ≤ first && first < 0x1113 && 0x1161 ≤ second && second < 0x1176 then
    some (0xAC00 + ((first - 0x1100) * 21 + (second - 0x1161)) * 28)
  else if 0xAC00 ≤ first && first < 0xD7A4 && (first - 0xAC00) % 28 == 0 && 0x11A8 ≤ second && second < 0x11C3 then
    some (first + (second - 0x11A7))
  else none

def composePair? (first second : Char) : Option Char :=
  match compositions.find? (·.1 == second) with
  | some (_, letters, composed) => ((letters.toList.zip composed.toList).find? (·.1 == first)).map (·.2)
  | none => (composeHangul? first.toNat second.toNat).map Char.ofNat

def compose (text : List Char) : List Char :=
  (text.foldl (fun done c =>
    match done with
    | last :: before => match composePair? last c with
        | some both => both :: before
        | none => c :: done
    | [] => [c]) []).reverse

def isMark (c : Char) : Bool :=
  [('\u0300', '\u036f'), ('\u0483', '\u0489'), ('\u0591', '\u05bd'), ('\u064b', '\u065f'), ('\u093a', '\u093c'),
   ('\u093e', '\u094f'), ('\u1ab0', '\u1aff'), ('\u1dc0', '\u1dff'), ('\u20d0', '\u20ff'), ('\u3099', '\u309a'),
   ('\ufe20', '\ufe2f')].any fun range => range.1 ≤ c && c ≤ range.2

def isRefused (c : Char) : Bool :=
  c.toNat ≤ 0x20 || "%#/:<>?@[\\]^|".toList.contains c || (0x7f ≤ c.toNat && c.toNat < 0xa0) || isBlank c
    || ('\u200c' ≤ c && c ≤ '\u200f') || ('\u202a' ≤ c && c ≤ '\u202e') || ('\u2061' ≤ c && c ≤ '\u206f')
    || ('\ue000' ≤ c && c.toNat < 0xf900) || ('\ufff9' ≤ c && c.toNat ≤ 0xffff)
    || ('\ufdd0' ≤ c && c ≤ '\ufdef') || 0xe0000 ≤ c.toNat

def isAscii (text : List Char) : Bool := text.all (·.toNat < 128)

def isPlain (label : List Char) : Bool :=
  !label.any isRefused && !(label.head?.any isMark) && compose (label.flatMap letter) == label

-- A label that is encoded already has to stand for a plain label that needs it.
def labelText? (label : List Char) : Option (List Char) :=
  match label with
  | 'x' :: 'n' :: '-' :: '-' :: encoded => do
      let plain ← Punycode.decode? encoded
      if isAscii plain || !isPlain plain then none else some label
  | label =>
      if label.any isRefused || label.head?.any isMark then none
      else if isAscii label then some label
      else some ("xn--".toList ++ Punycode.encode label)

def toAscii? (name : List Char) : Option (List Char) :=
  ((split '.' (compose (name.flatMap letter))).mapM labelText?).map (join ['.'])

end Conform.Url.Domain
