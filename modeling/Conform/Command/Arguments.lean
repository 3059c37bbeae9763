import Conform.Command.Basic

namespace Conform.Arguments

inductive OptionName
  | verbose
  | quiet
  | config
  | output
  | noColor
  | help
  | version
  | schema
  | saveTo
deriving DecidableEq

structure OptionForm where
  name : OptionName
  letter : Option Char
  word : String
  takesValue : Bool

-- Options of every command.
def globalForms : List OptionForm := [
  ⟨.verbose, some 'v', "verbose", false⟩, ⟨.quiet, some 'q', "quiet", false⟩, ⟨.config, some 'c', "config", true⟩,
  ⟨.output, some 'o', "output", true⟩, ⟨.noColor, none, "no-color", false⟩, ⟨.help, some 'h', "help", false⟩,
  ⟨.version, some 'V', "version", false⟩]

inductive CommandName
  | validate
  | check
  | types
  | completions
deriving DecidableEq

namespace CommandName

def text : CommandName → String
  | .validate => "validate"
  | .check => "check"
  | .types => "types"
  | .completions => "completions"

def ofText? (text : String) : Option CommandName :=
  [validate, check, types, completions].find? (·.text == text)

def forms : CommandName → List OptionForm
  | .validate => globalForms ++ [⟨.schema, some 's', "schema", true⟩, ⟨.saveTo, none, "save-to", true⟩]
  | _ => globalForms

def operandCount : CommandName → Nat
  | .types => 0
  | _ => 1

def accepts : CommandName → String → Bool
  | .completions, text => (Shell.ofName? text).isSome
  | _, text => text != ""

end CommandName

inductive Item
  | flag (name : OptionName)
  | value (name : OptionName) (text : String)
  -- `plain` tells whether it stands before any `--`; the arguments after it go along
  | operand (plain : Bool) (text : String) (rest : List String)
  -- an option that is unknown, or whose value is missing or not wanted
  | bad

def isOperand (text : List Char) : Bool :=
  match text with
  | '-' :: _ :: _ => false
  | _ => true

def separateValue (name : OptionName) (rest : List String) : Item × List String :=
  match rest with
  | value :: rest => if isOperand value.toList then (.value name value, rest) else (.bad, [])
  | [] => (.bad, [])

def word (forms : List OptionForm) (text : List Char) (rest : List String) : Item × List String :=
  let name := String.ofList (text.takeWhile (· != '='))
  match forms.find? (·.word == name), text.dropWhile (· != '=') with
  | none, _ => (.bad, [])
  | some form, '=' :: value => if form.takesValue then (.value form.name (.ofList value), rest) else (.bad, [])
  | some form, _ => if form.takesValue then separateValue form.name rest else (.flag form.name, rest)

def letters (forms : List OptionForm) (rest : List String) : List Char → List Item × List String
  | [] => ([], rest)
  | c :: more =>
      match forms.find? (·.letter == some c) with
      | none => ([.bad], [])
      | some form =>
          if form.takesValue then match more with
            | [] =>
                let (item, rest) := separateValue form.name rest
                ([item], rest)
            | '=' :: value => ([.value form.name (.ofList value)], rest)
            | value => ([.value form.name (.ofList value)], rest)
          else
            let (items, rest) := letters forms rest more
            (.flag form.name :: items, rest)

theorem separateValue_length (name : OptionName) (rest : List String) :
    (separateValue name rest).2.length ≤ rest.length := by
  unfold separateValue
  split
  · split <;> simp
  · simp

theorem word_length (forms : List OptionForm) (text : List Char) (rest : List String) :
    (word forms text rest).2.length ≤ rest.length := by
  unfold word
  simp only
  split
  · simp
  · split <;> simp
  · split
    · exact separateValue_length _ _
    · simp

theorem letters_length (forms : List OptionForm) (rest : List String) (text : List Char) :
    (letters forms rest text).2.length ≤ rest.length := by
  induction text with
  | nil => simp [letters]
  | cons c more ih =>
      unfold letters
      split
      · simp
      · split
        · split
          · exact separateValue_length _ _
          · simp
          · simp
        · exact ih

def items (forms : List OptionForm) (arguments : List String) : List Item :=
  match arguments with
  | [] => []
  | argument :: rest => match argument.toList with
      | ['-', '-'] => rest.map fun text => .operand false text []
      | '-' :: '-' :: text =>
          have := word_length forms text rest
          (word forms text rest).1 :: items forms (word forms text rest).2
      | '-' :: c :: text =>
          have := letters_length forms rest (c :: text)
          (letters forms rest (c :: text)).1 ++ items forms (letters forms rest (c :: text)).2
      | _ => .operand true argument rest :: items forms rest
termination_by arguments.length
decreasing_by all_goals (simp only [List.length_cons]; omega)

-- What the arguments read so far give.
structure Given where
  verbosity : Nat
  quiet : Bool
  noColor : Bool
  config : Option String
  output : Option Output.Format
  schema : Option String
  saveTo : Option String
  operands : List String

def Given.nothing : Given := ⟨0, false, false, none, none, none, none, []⟩

def once (before : Option String) (text : String) : Except Invocation (Option String) :=
  if before.isSome || text == "" then .error .misuse else .ok (some text)

-- What is asked for the version or for help gets it, unless something was wrong before.
def Given.add (program : String) (command : Option CommandName) (given : Given) (item : Item) : Except Invocation Given :=
  match item with
  | .bad => .error .misuse
  | .flag .verbose => .ok { given with verbosity := given.verbosity + 1 }
  | .flag .quiet => if given.quiet then .error .misuse else .ok { given with quiet := true }
  | .flag .noColor => if given.noColor then .error .misuse else .ok { given with noColor := true }
  | .flag .help => .error .help
  | .flag .version => .error (.version program)
  | .flag _ => .error .misuse
  | .value .config text => do return { given with config := ← once given.config text }
  | .value .schema text => do return { given with schema := ← once given.schema text }
  | .value .saveTo text => do return { given with saveTo := ← once given.saveTo text }
  | .value .output text => match given.output, Output.Format.ofName? text with
      | none, some format => .ok { given with output := some format }
      | _, _ => .error .misuse
  | .value _ _ => .error .misuse
  | .operand _ text _ =>
      if command.any fun name => given.operands.length < name.operandCount && name.accepts text then
        .ok { given with operands := given.operands ++ [text] }
      else .error .misuse

def command? (name : CommandName) (given : Given) : Option Command :=
  match name, given.operands with
  | .validate, [input] => given.schema.map fun schema => .validate input schema given.saveTo
  | .check, [schema] => some (.check schema)
  | .types, [] => some .types
  | .completions, [shell] => (Shell.ofName? shell).map .completions
  | _, _ => none

def Given.conflicts (given : Given) : Bool := given.quiet && 0 < given.verbosity

-- Options before and after the name of the command; the later ones count.
def options (before after : Given) (preset : Option String) : Options :=
  { verbosity := if 0 < after.verbosity then after.verbosity else before.verbosity
    quiet := before.quiet || after.quiet
    config := (after.config.or before.config).or preset
    output := after.output.or before.output
    noColor := before.noColor || after.noColor }

-- The name under which the program tells its version.
def programName : String := "dataval"

def version : String := "0.1.0"

def Item.isOperand : Item → Bool
  | .operand .. => true
  | _ => false

-- `preset` is a configuration that is named elsewhere; as an empty text it is wrong, unless it is
-- named both before and after the command.
def read (preset : Option String) (arguments : List String) : Invocation :=
  let result : Except Invocation Invocation := do
    let all := items globalForms arguments
    let before ← (all.takeWhile (!·.isOperand)).foldlM (Given.add programName none) .nothing
    match all.dropWhile (!·.isOperand) with
    | .operand true "help" _ :: _ => throw .help
    | .operand true text rest :: _ =>
        let some name := CommandName.ofText? text | throw .misuse
        let after ← (items name.forms rest).foldlM (Given.add (programName ++ "-" ++ text) (some name)) .nothing
        let some command := command? name after | throw .misuse
        if before.conflicts || after.conflicts then throw .misuse
        if preset == some "" && !(before.config.isSome && after.config.isSome) then throw .misuse
        return .run (options before after preset) command
    | _ => throw .misuse
  match result with
  | .ok invocation | .error invocation => invocation

end Conform.Arguments
