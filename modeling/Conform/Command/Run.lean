import Conform.Command.Arguments
import Conform.Config.Search
import Conform.Output.Writer
import Conform.Registry.Builtin
import Conform.Schema.Validator

namespace Conform.Command
open Files Output

-- What the program knows before it begins.
structure Environment where
  config : Option String
  logFormat : Option String
  home : Option String
  configHome : Option String
  -- whether results go to a terminal
  terminal : Bool

section
variable {m : Type → Type} [Monad m] [Host m]

def print (text : String) : ExceptT Failure m Unit := do
  if text != "" then
    unless ← (Host.print text : m Bool) do throw .inaccessible

variable [Document.Codecs]

def loadValidator (registry : Registry) (config : Config) (schema : String) : ExceptT Failure m (String × Validator) := do
  let path ← config.resolve schema
  match Validator.compile registry (← Document.load path) with
  | .ok validator => return (path, validator)
  | .error report => throw (.invalidSchema path report)

def validateDocument (registry : Registry) (config : Config) (writer : Writer) (input schema : String) (saveTo : Option String) :
    ExceptT Failure m Unit := do
  let (path, validator) ← loadValidator registry config schema
  print (writer.info ("Validating " ++ input ++ " against " ++ path))
  match validator.validate (← Document.load input) with
  | .ok canonical => match saveTo with
      | some target =>
          Document.save target canonical
          print (writer.success ("✓ Canonical document saved to " ++ target))
      | none => print (writer.data canonical)
  | .error report =>
      print (writer.report report)
      throw (.rejected report.records.length)

def checkSchema (registry : Registry) (config : Config) (writer : Writer) (schema : String) : ExceptT Failure m Unit := do
  let (path, _) ← loadValidator registry config schema
  if writer.format == .human then print (writer.success ("✓ Schema " ++ path ++ " is valid"))
  else print (writer.data (.object [("schema", .string path), ("valid", .bool true)]))

-- Scripts for shells come from elsewhere, so nothing is printed for them.
def execute (registry : Registry) (config : Config) (writer : Writer) : Command → ExceptT Failure m Unit
  | .validate input schema saveTo => validateDocument registry config writer input schema saveTo
  | .check schema => checkSchema registry config writer schema
  | .types => print (writer.listing registry)
  | .completions _ => return

def failureText (color : Bool) (failure : Failure) : String :=
  (if color then Style.boldRed.apply "Error:" else "Error:") ++ " " ++ failure.message ++ "\n"

def finish (color : Bool) (result : Except Failure Unit) : m Nat := do
  match result with
  | .ok () => return 0
  | .error failure =>
      unless failure.isReported do Host.warn (failureText color failure)
      return failure.exitCode

def warnOfLogFormat (environment : Environment) : m Unit := do
  match environment.logFormat with
  | none => return
  | some name =>
      if (Logging.Format.ofAnyCase? name).isNone then
        Host.warn ("Warning: Invalid log format: " ++ name ++ ", using default\n")

def findConfig (environment : Environment) (options : Options) : m (Except Failure Config) := do
  match options.config with
  | some path => (Config.load path).run
  | none => return .ok (← Config.loadFirst (Config.defaultPaths (Config.userFolder? environment.home environment.configHome)))

def run (registry : Registry) (environment : Environment) (options : Options) (command : Command) : m Nat := do
  let color := !options.noColor && environment.terminal
  match ← findConfig environment options with
  | .error failure => finish color (.error failure)
  | .ok config =>
      let color := color && config.color
      warnOfLogFormat environment
      let writer : Writer := ⟨options.output.getD config.format, color, options.quiet⟩
      finish color (← (execute registry config writer command).run)

def usage : String := "Usage: " ++ Arguments.programName ++ " [OPTIONS] <COMMAND>\n"

def invoke (registry : Registry) (environment : Environment) (invocation : Invocation) : m Nat := do
  match invocation with
  | .run options command => run registry environment options command
  | .version program =>
      let _ ← (Host.print (program ++ " " ++ Arguments.version ++ "\n") : m Bool)
      return 0
  | .help =>
      let _ ← (Host.print usage : m Bool)
      return 0
  | .misuse =>
      Host.warn usage
      return 2

end

end Conform.Command
