import Conform.Config.Reader
import Conform.Document.Store

namespace Conform.Config
open Files

section
variable {m : Type → Type} [Monad m] [Host m]

-- A file is taken for JSON where its extension tells no format.
def load (path : String) : ExceptT Failure m Config := do
  unless ← (Host.contains path : m Bool) do throw (.notFound path)
  let text ← Document.textOf? (← (Host.read? path : m (Option String)))
  let format := (Document.Format.ofPath? path).getD .json
  match parse? format text with
  | some config => return config
  | none => throw (.malformed format)

-- Files that hold no configuration are warned of.
def loadFirst : List String → m Config
  | [] => return .default
  | path :: paths => do
      if ← Host.contains path then
        match ← (load path).run with
        | .ok config => return config
        | .error failure =>
            Host.warn ("Warning: Failed to load config from " ++ path ++ ": " ++ failure.message ++ "\n")
            loadFirst paths
      else loadFirst paths

end

-- The folder that a user has named counts only if it is absolute.
def userFolder? (home named : Option String) : Option String :=
  match named.filter isAbsolute with
  | some folder => some folder
  | none => (home.filter (· != "")).map (within · ".config")

def defaultPaths (userFolder : Option String) : List String :=
  let own := match userFolder with
    | none => []
    | some folder => ["yaml", "json", "toml"].map fun extension =>
        within (within folder "dataval") ("config." ++ extension)
  [".dataval.yaml", ".dataval.json", ".dataval.toml"] ++ own

def schemaExtensions : List String := ["json", "yaml", "yml", "toml"]

def schemaCandidates (folder schema : String) : List String :=
  let path := within folder schema
  path :: schemaExtensions.map (withExtension path)

section
variable {m : Type → Type} [Monad m] [Host m]

def firstFile? : List String → m (Option String)
  | [] => return none
  | path :: paths => do if ← Host.isFile path then return some path else firstFile? paths

def resolve (config : Config) (schema : String) : ExceptT Failure m String := do
  let candidates := schema :: (match config.schemas with
    | some folder => schemaCandidates folder schema
    | none => [])
  match ← (firstFile? candidates : m (Option String)) with
  | some path => return path
  | none => throw (.notFound schema)

end

end Conform.Config
