import Conform.Json.Basic
import Conform.Text.Case

namespace Conform

inductive Logging.Format
  | compact
  | full
  | json
deriving DecidableEq

namespace Logging.Format

def name : Format → String
  | .compact => "compact"
  | .full => "full"
  | .json => "json"

def all : List Format := [.compact, .full, .json]

def ofName? (name : String) : Option Format := all.find? (·.name == name)

def ofAnyCase? (name : String) : Option Format := ofName? (Text.lowered name)

end Logging.Format

-- Settings of a configuration, either of which may be left open.
structure Logging.Settings where
  level : Option String
  format : Option Logging.Format

structure Logging where
  level : String
  format : Logging.Format
  -- whether styles may be used on a terminal
  console : Bool
  threadIds : Bool
  sourceLocation : Bool

namespace Logging

def Settings.empty : Settings := ⟨none, none⟩

def ofVerbosity : Nat → Logging
  | 0 => ⟨"warn", .compact, true, false, false⟩
  | 1 => ⟨"info", .compact, true, false, false⟩
  | 2 => ⟨"debug", .compact, true, false, true⟩
  | _ => ⟨"trace", .full, true, true, true⟩

-- A level that is set counts only where no verbosity was asked for.
def withSettings (logging : Logging) (settings : Settings) (verbosity : Nat) : Logging :=
  { logging with
    level := if verbosity = 0 then settings.level.getD logging.level else logging.level
    format := settings.format.getD logging.format }

def toJson (logging : Logging) : Json :=
  .object [("level", .string logging.level), ("format", .string logging.format.name), ("console", .bool logging.console),
    ("thread_ids", .bool logging.threadIds), ("source_location", .bool logging.sourceLocation)]

end Logging
end Conform
