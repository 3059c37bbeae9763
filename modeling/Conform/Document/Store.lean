import Conform.Failure
import Conform.Files.Host

namespace Conform.Document
open Conform.Files

section
variable [Codecs]

def parse (path text : String) : Except Failure Json :=
  match Format.ofPath? path with
  | none => .error (.wrongFormat path none)
  | some format => match format.parse? text with
      | some value => .ok value
      | none => .error (.wrongFormat path (some format))

-- JSON first, since YAML takes in more.
def parseTyped (text : String) : Except Failure Json :=
  match Format.json.parse? text with
  | some value => .ok value
  | none => match Format.yaml.parse? text with
      | some value => .ok value
      | none => .error (.malformed .yaml)

-- The path that stands for what is typed in.
def inputName : String := "-"

def unwritten (path : String) : Format → Failure
  | .toml => .notEncodable path
  | format => .malformed format

def encode (path : String) (value : Json) : Except Failure String :=
  let format := (Format.ofPath? path).getD .json
  match format.write? value with
  | some text => .ok text
  | none => .error (unwritten path format)

variable {m : Type → Type} [Monad m] [Host m]

def textOf? (text : Option String) : Except Failure String :=
  match text with
  | some text => .ok text
  | none => .error .inaccessible

def load (path : String) : ExceptT Failure m Json := do
  if isName path inputName then
    parseTyped (← textOf? (← (Host.input? : m (Option String))))
  else if ← (Host.contains path : m Bool) then
    parse path (← textOf? (← (Host.read? path : m (Option String))))
  else throw (.notFound path)

-- A value that has no text leaves all files and folders as they were.
def save (path : String) (value : Json) : ExceptT Failure m Unit := do
  let text ← encode path value
  unless ← (Host.write path text : m Bool) do throw .inaccessible

end

end Conform.Document
