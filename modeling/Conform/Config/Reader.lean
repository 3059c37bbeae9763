import Conform.Config.Basic
import Conform.Config.Source
import Conform.Document.Format

namespace Conform.Config
open Source

variable {α : Type}

def setting? (read : α → Option β) (default : β) (value : Option α) : Option β :=
  match value with
  | none => some default
  | some value => read value

def openSetting? (source : Source α) (read : α → Option β) (value : Option α) : Option (Option β) :=
  match value with
  | none => some none
  | some value => if source.isOpen value then some none else (read value).map some

def formatOf? (source : Source α) (value : α) : Option Output.Format := (source.choice? value).bind Output.Format.ofName?

def output? (source : Source α) (value : α) : Option (Output.Format × Bool) := do
  match ← source.rows? ["format", "color"] value with
  | [format, color] =>
      some (← setting? (formatOf? source) Config.default.format format, ← setting? source.flag? Config.default.color color)
  | _ => none

def logging? (source : Source α) (value : α) : Option Logging.Settings := do
  match ← source.rows? ["level", "format"] value with
  | [level, format] =>
      let logFormat? (value : α) : Option Logging.Format := (source.choice? value).bind Logging.Format.ofName?
      some ⟨← openSetting? source source.text? level, ← openSetting? source logFormat? format⟩
  | _ => none

def ofSource? (source : Source α) (value : α) : Option Config := do
  match ← source.rows? ["output", "logging", "schemas_dir"] value with
  | [output, logging, schemas] =>
      let (format, color) ← setting? (output? source) (Config.default.format, Config.default.color) output
      let logging ← setting? (logging? source) Config.default.logging logging
      some ⟨format, color, logging, ← openSetting? source source.text? schemas⟩
  | _ => none

def parse? : Document.Format → String → Option Config
  | .json, text => (Json.parseAsWritten? text).bind (ofSource? json)
  | .yaml, text => (Yaml.parse? text).bind (ofSource? yaml)
  | .toml, text => (Toml.parse? text).bind (ofSource? toml)

end Conform.Config
