import Conform.Leaf.Basic
import Conform.Text.Blank
import Conform.Text.Split

namespace Conform.Leaf
open Conform.Text

def endsName (c : Char) : Bool := c == '(' || c == ')' || c == '@'

-- The offset in bytes at which a suffix of a text begins.
def offset (whole suffix : List Char) : Nat := byteLength whole - byteLength suffix

-- Without a closing parenthesis this gives the text that is left: it is empty, or begins with the
-- parenthesis that must not be there.
def readArguments (current : List Char) : List Char → Except (List Char) (List String × List Char)
  | [] => .error []
  | c :: rest =>
      if c = ')' then .ok ([.ofList current.reverse], rest)
      else if c = ',' then
        (readArguments [] rest).map fun (values, after) => (.ofList current.reverse :: values, after)
      else if c = '(' then .error (c :: rest)
      else readArguments (c :: current) rest

def faultAt (whole input suffix : List Char) (kind : Fault.Kind) : Fault :=
  ⟨kind, .ofList (input.takeWhile (· != '@')), offset whole suffix⟩

def nameCall (whole input after : List Char) (arguments : List String) : Except Fault (Call × List Char) :=
  let name := trim (input.takeWhile (!endsName ·))
  if name.isEmpty then .error (faultAt whole input input .missingName)
  else .ok (⟨.ofList name, arguments, .ofList (input.take (input.length - after.length))⟩, after)

-- Reads at the start of `input`, which is a suffix of `whole`.
def readCall (whole input : List Char) : Except Fault (Call × List Char) :=
  match input.dropWhile (!endsName ·) with
  | ')' :: rest => .error (faultAt whole input (')' :: rest) .unopened)
  | '(' :: inside =>
      match readArguments [] inside with
      | .error [] => .error (faultAt whole input ('(' :: inside) .unterminated)
      | .error stopped => .error (faultAt whole input stopped .nested)
      | .ok (arguments, []) => nameCall whole input [] arguments
      | .ok (arguments, found :: after) =>
          if found = '@' then nameCall whole input (found :: after) arguments
          else .error (faultAt whole input (found :: after) (.trailing found))
  | after => nameCall whole input after []

theorem readArguments_length {current input after : List Char} {values : List String}
    (read : readArguments current input = .ok (values, after)) : after.length < input.length := by
  induction input generalizing current values with
  | nil => cases read
  | cons c rest ih =>
      unfold readArguments at read
      split at read
      · cases read; simp
      · split at read
        · cases h : readArguments [] rest with
          | error stopped => rw [h] at read; cases read
          | ok result =>
              rw [h] at read; cases read
              have := ih h
              simp only [List.length_cons]; omega
        · split at read
          · cases read
          · have := ih read
            simp only [List.length_cons]; omega

theorem nameCall_rest {whole input after rest : List Char} {arguments : List String} {call : Call}
    (named : nameCall whole input after arguments = .ok (call, rest)) : rest = after := by
  unfold nameCall at named
  dsimp only at named
  split at named
  · cases named
  · cases named; rfl

theorem readCall_length {whole input after : List Char} {call : Call}
    (read : readCall whole input = .ok (call, after)) : after.length ≤ input.length := by
  have dropped := (List.dropWhile_sublist (l := input) (!endsName ·)).length_le
  unfold readCall at read
  split at read
  · cases read
  · rename_i inside h
    rw [h, List.length_cons] at dropped
    split at read
    · cases read
    · cases read
    · have := nameCall_rest read; subst this; simp
    · rename_i values found rest arguments
      have := readArguments_length arguments
      split at read
      · have := nameCall_rest read; subst this; omega
      · cases read
  · have := nameCall_rest read; subst this; exact dropped

-- The calls before a fault are kept.
def readCalls (whole input : List Char) : List Call × Option Fault :=
  match input with
  | '@' :: rest =>
      match _read : readCall whole rest with
      | .ok (call, after) =>
          let (calls, fault) := readCalls whole after
          (call :: calls, fault)
      | .error fault => ([], some fault)
  | _ => ([], none)
termination_by input.length
decreasing_by
  have := readCall_length _read
  simp only [List.length_cons]; omega

def readNames (text : List Char) : List String := (split '|' text).map fun piece => .ofList (trim piece)

def readPartial (text : String) : Leaf × Option Fault :=
  let names := readNames (text.toList.takeWhile (· != '@'))
  let (calls, fault) := readCalls text.toList (text.toList.dropWhile (· != '@'))
  (⟨(names.filter fun name => name != "" && name != nullName).eraseDups, names.contains nullName, calls⟩, fault)

def read (text : String) : Except Fault Leaf :=
  match readPartial text with
  | (leaf, none) => .ok leaf
  | (_, some fault) => .error fault

def Call.read (text : String) : Except Fault Call :=
  match readCall text.toList text.toList with
  | .error fault => .error fault
  | .ok (call, []) => .ok call
  | .ok (_, found :: after) => .error ⟨.trailing found, text, offset text.toList (found :: after)⟩

end Conform.Leaf
