import Conform.Output.Format

namespace Conform

inductive Shell
  | bash
  | zsh
  | fish
  | powerShell
  | elvish
deriving DecidableEq

namespace Shell

def name : Shell → String
  | .bash => "bash"
  | .zsh => "zsh"
  | .fish => "fish"
  | .powerShell => "power-shell"
  | .elvish => "elvish"

def all : List Shell := [.bash, .zsh, .fish, .powerShell, .elvish]

def ofName? (name : String) : Option Shell := all.find? (·.name == name)

end Shell

inductive Command
  | validate (input schema : String) (saveTo : Option String)
  | check (schema : String)
  | types
  | completions (shell : Shell)
deriving DecidableEq

structure Options where
  verbosity : Nat
  quiet : Bool
  config : Option String
  output : Option Output.Format
  noColor : Bool
deriving DecidableEq

inductive Invocation
  | run (options : Options) (command : Command)
  | version (program : String)
  | help
  -- the arguments make no sense
  | misuse
deriving DecidableEq

end Conform
