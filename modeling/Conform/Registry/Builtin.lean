import Conform.Registry.Basic

namespace Conform.Registry

def builtinTypes : Table TypeEntry := .ofList [
  (Leaf.nullName, ⟨Coercion.null, true⟩),
  ("any", ⟨Coercion.any, false⟩),
  ("float", ⟨Coercion.float, false⟩),
  ("num", ⟨Coercion.float, false⟩),
  ("int", ⟨Coercion.int, false⟩),
  ("unsigned", ⟨Coercion.unsigned, false⟩),
  ("bool", ⟨Coercion.bool, false⟩),
  ("string", ⟨Coercion.string, false⟩),
  ("email", ⟨Coercion.email, false⟩),
  ("hex", ⟨Coercion.hex, false⟩),
  ("object", ⟨Coercion.object, false⟩),
  ("timestamp", ⟨Coercion.timestamp, false⟩),
  ("url", ⟨Coercion.url, false⟩)]

structure Range (α : Type) [LE α] where
  low : Option α
  high : Option α
  given : low.isSome ∨ high.isSome
  ordered : ∀ lo ∈ low, ∀ hi ∈ high, lo ≤ hi

namespace Range
variable {α : Type} [LE α] [DecidableLE α]

def of? (low high : Option α) : Option (Range α) :=
  if h : (low.isSome ∨ high.isSome) ∧ ∀ lo ∈ low, ∀ hi ∈ high, lo ≤ hi then some ⟨low, high, h.1, h.2⟩ else none

def holds (range : Range α) (value : α) : Bool :=
  range.low.all (decide <| · ≤ value) && range.high.all (decide <| value ≤ ·)

def text (write : α → String) (range : Range α) : String :=
  let side (bound : Option α) : String := (bound.map write).getD "null"
  "[" ++ side range.low ++ ", " ++ side range.high ++ "]"

end Range

-- The types here are always the builtin ones. A missing argument is no bound.
def readBound? (names : List String) (argument : Option String) : Option (Option Binary64) :=
  let value := match argument with
    | some text => Json.string (Text.trimmed text)
    | none => .null
  match firstMatch? builtinTypes names value with
  | some .null => some none
  | some (.number bound) => some (some bound.toBinary64)
  | _ => none

def readRange? [LE α] [DecidableLE α] (names : List String) (convert : Binary64 → α) (arguments : List String) :
    Option (Range α) := do
  let low ← readBound? names arguments[0]?
  let high ← readBound? names arguments[1]?
  Range.of? (low.map convert) (high.map convert)

def numRange (arguments : List String) : Except String Transform :=
  match readRange? [Leaf.nullName, "float"] id arguments with
  | none => .error "Invalid NumRange range values"
  | some range => .ok fun value =>
      match value with
      | .number number =>
          if range.holds number.toBinary64 then .ok value
          else .error ("Expected range " ++ range.text fun bound => String.ofList bound.plainText)
      | _ => .error "NumRange expects a numeric value"

-- Lengths stop at the largest number of 64 bits.
def lengthBound (bound : Binary64) : Nat := min bound.whole.toNat (Number.unsignedEnd.toNat - 1)

def strRange (arguments : List String) : Except String Transform :=
  match readRange? [Leaf.nullName, "unsigned"] lengthBound arguments with
  | none => .error "Invalid StrRange range values"
  | some range => .ok fun value =>
      match value with
      | .string text =>
          if range.holds text.length then .ok value else .error ("Expected strlen " ++ range.text toString)
      | _ => .error "StrRange expects a string value"

def onText (label : String) (change : String → String) : Transform := fun value =>
  match value with
  | .string text => .ok (.string (change text))
  | _ => .error (label ++ " expects a string value")

def textFactory (label : String) (change : String → String) : Transform.Factory :=
  .shared label (onText label change)

def builtinTransforms : Table Transform.Factory := .ofList [
  ("num_range", .configurable numRange),
  ("str_range", .configurable strRange),
  ("str_lower", textFactory "StrLower" Text.lowered),
  ("str_upper", textFactory "StrUpper" Text.uppered),
  ("str_title", textFactory "StrTitle" Text.titled),
  ("to_str", .shared "ToStr" fun value => .ok (.string (Loose.text value)))]

def builtin : Registry := ⟨builtinTypes, builtinTransforms⟩

end Conform.Registry
