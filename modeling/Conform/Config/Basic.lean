import Conform.Logging
import Conform.Output.Format

namespace Conform

structure Config where
  format : Output.Format
  color : Bool
  logging : Logging.Settings
  -- where schemas are looked for by name
  schemas : Option String

namespace Config

def default : Config := ⟨.human, true, .empty, none⟩

def orNull (text : Option String) : Json := (text.map Json.string).getD .null

def toJson (config : Config) : Json :=
  .object [
    ("output", .object [("format", .string config.format.name), ("color", .bool config.color)]),
    ("logging", .object [("level", orNull config.logging.level), ("format", orNull (config.logging.format.map (·.name)))]),
    ("schemas_dir", orNull config.schemas)]

end Config
end Conform
