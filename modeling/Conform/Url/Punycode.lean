namespace Conform.Url.Punycode

def digitChar (digit : Nat) : Char := if digit < 26 then Char.ofNat (digit + 97) else Char.ofNat (digit - 26 + 48)

def digitValue? (c : Char) : Option Nat :=
  if c.isLower then some (c.toNat - 97)
  else if c.isUpper then some (c.toNat - 65)
  else if c.isDigit then some (c.toNat - 48 + 26)
  else none

-- The least digit at this place that does not end a number.
def threshold (place bias : Nat) : Nat := max 1 (min 26 (place - bias))

def shrink (delta steps : Nat) : Nat :=
  if 455 < delta then shrink (delta / 35) (steps + 1) else 36 * steps + 36 * delta / (delta + 38)
termination_by delta
decreasing_by omega

def adapt (delta count : Nat) (first : Bool) : Nat :=
  let delta := if first then delta / 700 else delta / 2
  shrink (delta + delta / count) 0

def digits (value place bias : Nat) : List Char :=
  let least := threshold place bias
  if value < least then [digitChar value]
  else digitChar (least + (value - least) % (36 - least)) :: digits ((value - least) / (36 - least)) (place + 36) bias
termination_by value
decreasing_by
  have : 0 < threshold place bias := by unfold threshold; omega
  exact Nat.lt_of_le_of_lt (Nat.div_le_self _ _) (by omega)

-- How far the writing has come: the last character, the distance since then, and how many are done.
structure Progress where
  delta : Nat
  bias : Nat
  done : Nat
  written : List Char

-- Passes over the whole label once for one character, wherever that stands.
def writeChar (basic : Nat) (code : Nat) (progress : Progress) (c : Char) : Progress :=
  if c.toNat < code then { progress with delta := progress.delta + 1 }
  else if c.toNat == code then
    { delta := 0
      bias := adapt progress.delta (progress.done + 1) (progress.done == basic)
      done := progress.done + 1
      written := progress.written ++ digits progress.delta 36 progress.bias }
  else progress

def encode (label : List Char) : List Char :=
  let basic := label.filter (·.toNat < 128)
  let codes := ((label.map Char.toNat).filter (128 ≤ ·)).mergeSort.eraseDups
  let start : Progress × Nat := (⟨0, 72, basic.length, basic ++ if basic.isEmpty then [] else ['-']⟩, 128)
  let (progress, _) := codes.foldl (fun (progress, previous) code =>
    let opened := { progress with delta := progress.delta + (code - previous) * (progress.done + 1) }
    let passed := label.foldl (writeChar basic.length code) opened
    ({ passed with delta := passed.delta + 1 }, code + 1)) start
  progress.written

def readNumber? (bias place weight : Nat) : List Char → Option (Nat × List Char)
  | [] => none
  | c :: rest =>
      (digitValue? c).bind fun digit =>
        let least := threshold place bias
        if digit < least then some (digit * weight, rest)
        else (readNumber? bias (place + 36) (weight * (36 - least)) rest).map fun (more, rest) =>
          (digit * weight + more, rest)

theorem readNumber_length {bias place weight value : Nat} {text rest : List Char}
    (read : readNumber? bias place weight text = some (value, rest)) : rest.length < text.length := by
  induction text generalizing place weight value with
  | nil => cases read
  | cons c after ih =>
      unfold readNumber? at read
      obtain ⟨digit, _, read⟩ := Option.bind_eq_some_iff.mp read
      dsimp only at read
      split at read
      · cases read; simp
      · obtain ⟨result, h, same⟩ := Option.map_eq_some_iff.mp read
        cases same
        have := ih h
        simp only [List.length_cons]; omega

def insertAll (code index bias : Nat) (first : Bool) (label text : List Char) : Option (List Char) :=
  if text.isEmpty then some label
  else
    match _read : readNumber? bias 36 1 text with
    | none => none
    | some (delta, rest) =>
        let position := index + delta
        let count := label.length + 1
        let next := code + position / count
        if next < 0x110000 && !(0xD800 ≤ next && next < 0xE000) then
          let place := position % count
          insertAll next (place + 1) (adapt delta count first) false
            (label.take place ++ Char.ofNat next :: label.drop place) rest
        else none
termination_by text.length
decreasing_by exact readNumber_length _read

def decode? (text : List Char) : Option (List Char) :=
  let tail := (text.reverse.takeWhile (· != '-')).reverse
  let basic := (text.take (text.length - tail.length)).dropLast
  if text.any (128 ≤ ·.toNat) then none else insertAll 128 0 72 true basic tail

end Conform.Url.Punycode
