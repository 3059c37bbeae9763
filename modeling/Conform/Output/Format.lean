import Conform.Json.Printer
import Conform.Yaml.Printer

namespace Conform.Output

inductive Format
  | human
  | json
  | jsonPretty
  | yaml
deriving DecidableEq

namespace Format

def name : Format → String
  | .human => "human"
  | .json => "json"
  | .jsonPretty => "json-pretty"
  | .yaml => "yaml"

def all : List Format := [.human, .json, .jsonPretty, .yaml]

def ofName? (name : String) : Option Format := all.find? (·.name == name)

def encode : Format → Json → String
  | .json, value => value.toText
  | .yaml, value => Yaml.write value
  | .human, value | .jsonPretty, value => value.toPrettyText

end Format
end Conform.Output
