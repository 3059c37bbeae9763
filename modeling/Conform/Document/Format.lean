import Conform.Files.Path
import Conform.Json.Parser
import Conform.Json.Printer
import Conform.Toml.Printer
import Conform.Toml.Reader
import Conform.Yaml.Printer
import Conform.Yaml.Reader

namespace Conform.Document

inductive Format
  | json
  | yaml
  | toml
deriving DecidableEq

-- Readers of the three formats, and writers of the two whose texts are not made here. A reader gives nothing for what is
-- no text of its format, and a writer gives nothing for a value that its format has no text for.
class Codecs where
  readJson? : String → Option Json
  readYaml? : String → Option Json
  readToml? : String → Option Json
  writeYaml? : Json → Option String
  writeToml? : Json → Option String

-- TOML has no text for null, for integers of more than 63 bits and for what is no object.
instance : Codecs where
  readJson? := Json.parse?
  readYaml? text := (Yaml.parse? text).bind Yaml.Node.toJson?
  readToml? text := (Toml.parse? text).map Toml.toJson
  writeYaml? value := some (Yaml.write value)
  writeToml? := Toml.write?

namespace Format

def name : Format → String
  | .json => "JSON"
  | .yaml => "YAML"
  | .toml => "TOML"

def ofPath? (path : String) : Option Format :=
  match Files.extension? path with
  | some "json" => some .json
  | some "yaml" | some "yml" => some .yaml
  | some "toml" => some .toml
  | _ => none

section
variable [Codecs]

def parse? : Format → String → Option Json
  | .json => Codecs.readJson?
  | .yaml => Codecs.readYaml?
  | .toml => Codecs.readToml?

def write? : Format → Json → Option String
  | .json, value => some (value.toPrettyText ++ "\n")
  | .yaml, value => Codecs.writeYaml? value
  | .toml, value => Codecs.writeToml? value

end

end Format
end Conform.Document
