import Conform.Document.Format
import Conform.Report.Basic

namespace Conform

inductive Failure
  -- a file or folder cannot be read or written
  | inaccessible
  | notFound (path : String)
  -- a document is not in the format of its extension, or has an extension of no format
  | wrongFormat (path : String) (expected : Option Document.Format)
  | invalidSchema (path : String) (report : Report)
  | rejected (count : Nat)
  -- a text without a path of its own, or settings, in a format
  | malformed (format : Document.Format)
  | notEncodable (path : String)

namespace Failure

def formatsText : Option Document.Format → String
  | some format => format.name
  | none => "JSON, YAML or TOML"

def message : Failure → String
  | .inaccessible => "IO error: the path cannot be used"
  | .notFound path => "File not found: " ++ path
  | .wrongFormat path expected =>
      "Invalid file format for " ++ path ++ ": expected " ++ formatsText expected ++ " format"
  | .invalidSchema path report => "Invalid schema " ++ path ++ ":\n" ++ report.text
  | .rejected count => "Validation failed with " ++ toString count ++ " error(s)"
  | .malformed format => format.name ++ " error: the text cannot be read"
  | .notEncodable path => "Cannot encode " ++ path ++ " as TOML: the value has no such form"

def exitCode : Failure → Nat
  | .inaccessible => 1
  | .rejected _ => 2
  | .notFound _ => 3
  | .wrongFormat .. => 4
  | .invalidSchema .. => 6
  | .malformed .json => 12
  | .malformed .yaml => 13
  | .malformed .toml => 14
  | .notEncodable _ => 99

-- A rejected document was reported where it was validated, so nothing is left to say.
def isReported : Failure → Bool
  | .rejected _ => true
  | _ => false

end Failure
end Conform
