import Conform.Command.Run
import Conform.Proofs.Document.Encoding

namespace Conform
open Files

-- A run that may fail, within a session.
abbrev Action (α : Type) := ExceptT Failure (StateM Session) α

theorem bind_eq_ok_iff {result : Except ε α} {next : α → Except ε β} {value : β} :
    (result >>= next) = .ok value ↔ ∃ middle, result = .ok middle ∧ next middle = .ok value := by
  cases result <;> simp [bind, Except.bind]

namespace Files.Session

def printing (session : Session) (text : String) : Session := { session with printed := session.printed ++ text }

def warning (session : Session) (text : String) : Session := { session with warned := session.warned ++ text }

@[simp] theorem printing_empty (session : Session) : session.printing "" = session := by
  simp [printing]

@[simp] theorem warning_empty (session : Session) : session.warning "" = session := by
  simp [warning]

@[simp] theorem warning_warning (session : Session) (first second : String) :
    (session.warning first).warning second = session.warning (first ++ second) := by
  simp [warning, String.append_assoc]

@[simp] theorem workspace_printing (session : Session) (text : String) :
    (session.printing text).workspace = session.workspace := rfl

-- What is typed in can be read once.
def reading (session : Session) (path : String) : Session :=
  if isName path Document.inputName then { session with input := "" } else session

theorem reading_of_not_named (session : Session) {path : String} (named : isName path Document.inputName = false) :
    session.reading path = session := by
  simp [reading, named]

@[simp] theorem workspace_reading (session : Session) (path : String) :
    (session.reading path).workspace = session.workspace := by
  unfold reading
  split <;> rfl

end Files.Session

namespace Action

def runIn (action : Action α) (session : Session) : Except Failure α × Session := (ExceptT.run action).run session

theorem runIn_bind (action : Action α) (next : α → Action β) (session : Session) :
    runIn (action >>= next) session = match action.runIn session with
      | (.ok value, later) => (next value).runIn later
      | (.error failure, later) => (.error failure, later) := by
  change (match ExceptT.run action session with
    | (result, later) => ExceptT.bindCont next result later) = match ExceptT.run action session with
      | (.ok value, later) => (next value).runIn later
      | (.error failure, later) => (.error failure, later)
  obtain ⟨result, later⟩ := ExceptT.run action session
  cases result <;> rfl

section
variable (session : Session)

@[simp] theorem runIn_result (result : Except Failure α) :
    runIn (liftM result : Action α) session = (result, session) := rfl

@[simp] theorem runIn_input :
    runIn (liftM (Host.input? : StateM Session (Option String))) session =
      (.ok (some session.input), { session with input := "" }) := rfl

@[simp] theorem runIn_contains (path : String) : runIn (liftM (Host.contains path : StateM Session Bool)) session =
    (.ok (session.workspace.contains path), session) := rfl

@[simp] theorem runIn_read (path : String) : runIn (liftM (Host.read? path : StateM Session (Option String))) session =
    (.ok (session.workspace.read? path), session) := rfl

@[simp] theorem runIn_write (path text : String) : runIn (liftM (Host.write path text : StateM Session Bool)) session =
    (.ok (session.workspace.write path text).1, { session with workspace := (session.workspace.write path text).2 }) := rfl

@[simp] theorem runIn_print (text : String) : runIn (Command.print text : Action Unit) session =
    (.ok (), session.printing text) := by
  unfold Command.print
  by_cases none : text = ""
  · subst none
    rw [Session.printing_empty]
    rfl
  · rw [if_pos (bne_iff_ne.mpr none)]
    rfl

end

end Action

namespace Files

-- A file with a text of this value, in the format that its extension tells.
def Workspace.Holds [Document.Codecs] (workspace : Workspace) (path : String) (value : Json) : Prop :=
  ∃ text, workspace.read? path = some text ∧ Document.DecodedAs path text value

theorem Workspace.contains_of_read {workspace : Workspace} {path text : String} (read : workspace.read? path = some text) :
    workspace.contains path = true := by
  unfold Workspace.read? at read
  unfold Workspace.contains
  cases found : workspace.locate? path with
  | none =>
      rw [found] at read
      cases read
  | some place => rfl

namespace Session
open Conform.Action

section Documents
variable [Document.Codecs]

-- A value that is read: what a file holds, or what is typed in, as JSON or else as YAML.
inductive Gives (session : Session) (path : String) (value : Json) : Prop
  | held (named : isName path Document.inputName = false) (holds : session.workspace.Holds path value)
  | json (named : isName path Document.inputName = true)
      (read : Document.Codecs.readJson? session.input = some value)
  | yaml (named : isName path Document.inputName = true) (other : Document.Codecs.readJson? session.input = none)
      (read : Document.Codecs.readYaml? session.input = some value)

-- What a path holds, as a document.
def document (session : Session) (path : String) : Except Failure Json :=
  if isName path Document.inputName then Document.parseTyped session.input
  else if session.workspace.contains path then
    (Document.textOf? (session.workspace.read? path)).bind (Document.parse path)
  else .error (.notFound path)

theorem runIn_load (session : Session) (path : String) :
    runIn (Document.load path) session = (session.document path, session.reading path) := by
  unfold Document.load document reading
  split
  · simp only [runIn_bind, runIn_input, Document.textOf?, runIn_result]
  · simp only [runIn_bind, runIn_contains]
    split
    · simp only [runIn_bind, runIn_read, runIn_result]
      cases session.workspace.read? path <;> rfl
    · rfl

theorem runIn_save (session : Session) (path : String) (value : Json) :
    runIn (Document.save path value) session = match Document.encode path value with
      | .error failure => (.error failure, session)
      | .ok text => match session.workspace.write path text with
          | (true, workspace) => (.ok (), { session with workspace })
          | (false, workspace) => (.error .inaccessible, { session with workspace }) := by
  unfold Document.save
  simp only [runIn_bind, runIn_result]
  cases Document.encode path value with
  | error failure => rfl
  | ok text =>
      simp only [runIn_write]
      obtain ⟨written, workspace⟩ := session.workspace.write path text
      cases written <;> rfl

@[simp] theorem document_printing (session : Session) (text path : String) :
    (session.printing text).document path = session.document path := rfl

theorem parseTyped_eq_ok_iff {text : String} {value : Json} : Document.parseTyped text = .ok value ↔
    Document.Codecs.readJson? text = some value ∨
      Document.Codecs.readJson? text = none ∧ Document.Codecs.readYaml? text = some value := by
  unfold Document.parseTyped
  simp only [Document.Format.parse?]
  cases Document.Codecs.readJson? text with
  | some json => simp
  | none => cases Document.Codecs.readYaml? text <;> simp

theorem document_eq_ok_iff (session : Session) {path : String} {value : Json} :
    session.document path = .ok value ↔ session.Gives path value := by
  unfold document
  constructor
  · intro given
    split at given
    · rename_i named
      rcases parseTyped_eq_ok_iff.mp given with json | ⟨other, yaml⟩
      · exact .json named json
      · exact .yaml named other yaml
    · rename_i named
      split at given
      · cases read : session.workspace.read? path with
        | none =>
            rw [read] at given
            cases given
        | some text =>
            rw [read] at given
            exact .held (Bool.eq_false_iff.mpr named) ⟨text, read, Document.parse_eq_ok_iff.mp given⟩
      · cases given
  · rintro (⟨named, text, read, decoded⟩ | ⟨named, read⟩ | ⟨named, other, read⟩)
    · rw [named, if_neg (by decide), if_pos (Workspace.contains_of_read read), read]
      exact Document.parse_eq_ok_iff.mpr decoded
    · rw [if_pos named]
      exact parseTyped_eq_ok_iff.mpr (.inl read)
    · rw [if_pos named]
      exact parseTyped_eq_ok_iff.mpr (.inr ⟨other, read⟩)

end Documents

-- The places where a schema is looked for.
def candidates (config : Config) (schema : String) : List String :=
  schema :: (match config.schemas with
    | some folder => Config.schemaCandidates folder schema
    | none => [])

def schemaPath (session : Session) (config : Config) (schema : String) : Except Failure String :=
  match (candidates config schema).find? session.workspace.isFile with
  | some path => .ok path
  | none => .error (.notFound schema)

theorem runIn_firstFile (session : Session) (paths : List String) :
    runIn (liftM (Config.firstFile? paths : StateM Session (Option String))) session =
      (.ok (paths.find? session.workspace.isFile), session) := by
  have run : (Config.firstFile? paths : StateM Session (Option String)).run session =
      (paths.find? session.workspace.isFile, session) := by
    induction paths with
    | nil => rfl
    | cons path rest ih =>
        rw [Config.firstFile?, StateT.run_bind, List.find?_cons]
        change (if session.workspace.isFile path = true then (pure (some path) : StateM Session (Option String))
          else Config.firstFile? rest).run session = _
        cases session.workspace.isFile path with
        | true => rfl
        | false => exact ih
  exact congrArg (fun result => (Except.ok result.1, result.2)) run

theorem runIn_resolve (session : Session) (config : Config) (schema : String) :
    runIn (config.resolve schema) session = (session.schemaPath config schema, session) := by
  unfold Config.resolve schemaPath candidates
  simp only [runIn_bind, runIn_firstFile]
  cases List.find? session.workspace.isFile _ <;> rfl

-- The session after the schema was read, if there is one.
def opened (session : Session) (config : Config) (schema : String) : Session :=
  match session.schemaPath config schema with
  | .ok path => session.reading path
  | .error _ => session

@[simp] theorem workspace_opened (session : Session) (config : Config) (schema : String) :
    (session.opened config schema).workspace = session.workspace := by
  unfold opened
  split
  · exact workspace_reading ..
  · rfl

section Validation
variable [Document.Codecs]

-- A schema in a file, ready for use, and the path of the file.
def validator (session : Session) (registry : Registry) (config : Config) (schema : String) :
    Except Failure (String × Validator) := do
  let path ← session.schemaPath config schema
  match Validator.compile registry (← session.document path) with
  | .ok validator => .ok (path, validator)
  | .error report => .error (.invalidSchema path report)

theorem validator_eq_ok_iff (session : Session) {registry : Registry} {config : Config} {schema path : String}
    {validator : Validator} : session.validator registry config schema = .ok (path, validator) ↔ ∃ document,
      session.schemaPath config schema = .ok path ∧ session.Gives path document ∧
      Validator.compile registry document = .ok validator := by
  simp only [Session.validator, bind_eq_ok_iff, document_eq_ok_iff]
  constructor
  · rintro ⟨path', place, document, given, built⟩
    cases compiled : Validator.compile registry document with
    | error report =>
        rw [compiled] at built
        cases built
    | ok validator' =>
        rw [compiled] at built
        cases built
        exact ⟨document, place, given, compiled⟩
  · rintro ⟨document, place, given, compiled⟩
    exact ⟨path, place, document, given, by rw [compiled]⟩

theorem runIn_loadValidator (session : Session) (registry : Registry) (config : Config) (schema : String) :
    runIn (Command.loadValidator registry config schema) session =
      (session.validator registry config schema, session.opened config schema) := by
  unfold Command.loadValidator validator opened
  simp only [runIn_bind, runIn_resolve, runIn_load]
  cases session.schemaPath config schema with
  | error failure => rfl
  | ok path =>
      simp only [bind, Except.bind]
      cases session.document path with
      | error failure => rfl
      | ok document =>
          simp only
          cases Validator.compile registry document <;> rfl

-- What is done with the canonical form of a document.
def delivery (writer : Output.Writer) (canonical : Json) : Option String → Action Unit
  | some target => do
      Document.save target canonical
      Command.print (writer.success ("✓ Canonical document saved to " ++ target))
  | none => Command.print (writer.data canonical)

-- What a document comes to, and the session that comes of it.
def judged (session : Session) (writer : Output.Writer) (validator : Validator) (input : String)
    (saveTo : Option String) : Except Failure Unit × Session :=
  match session.document input with
  | .error failure => (.error failure, session.reading input)
  | .ok document => match validator.validate document with
      | .ok canonical => runIn (delivery writer canonical saveTo) (session.reading input)
      | .error report =>
          (.error (.rejected report.records.length), (session.reading input).printing (writer.report report))

theorem runIn_validateDocument (session : Session) (registry : Registry) (config : Config) (writer : Output.Writer)
    (input schema : String) (saveTo : Option String) :
    runIn (Command.validateDocument registry config writer input schema saveTo) session =
      match session.validator registry config schema with
      | .error failure => (.error failure, session.opened config schema)
      | .ok (path, validator) =>
          ((session.opened config schema).printing (writer.info ("Validating " ++ input ++ " against " ++ path))).judged
            writer validator input saveTo := by
  unfold Command.validateDocument
  simp only [runIn_bind, runIn_loadValidator]
  cases session.validator registry config schema with
  | error failure => rfl
  | ok found =>
      obtain ⟨path, validator⟩ := found
      simp only [runIn_print, runIn_load, judged]
      cases Session.document _ input with
      | error failure => rfl
      | ok document =>
          dsimp only
          cases validator.validate document with
          | error report =>
              dsimp only
              rw [runIn_bind, runIn_print]
              rfl
          | ok canonical => cases saveTo <;> rfl

-- What a document comes to that is validated and not saved, and what is then printed.
def validated (session : Session) (writer : Output.Writer) (validator : Validator) (input : String) :
    Except Failure Unit × String :=
  match session.document input with
  | .error failure => (.error failure, "")
  | .ok document => match validator.validate document with
      | .ok canonical => (.ok (), writer.data canonical)
      | .error report => (.error (.rejected report.records.length), writer.report report)

theorem judged_none (session : Session) (writer : Output.Writer) (validator : Validator) {input : String}
    (named : isName input Document.inputName = false) :
    session.judged writer validator input none =
      ((session.validated writer validator input).1,
        session.printing (session.validated writer validator input).2) := by
  unfold judged validated
  rw [reading_of_not_named session named]
  cases session.document input with
  | error failure => simp only [printing_empty]
  | ok document =>
      dsimp only
      cases validator.validate document with
      | error report => rfl
      | ok canonical => exact runIn_print session (writer.data canonical)

end Validation

theorem run_loadFirst (session : Session) {paths : List String}
    (absent : ∀ path ∈ paths, session.workspace.contains path = false) :
    (Config.loadFirst paths : StateM Session Config).run session = (.default, session) := by
  induction paths with
  | nil => rfl
  | cons path rest ih =>
      rw [List.forall_mem_cons] at absent
      rw [Config.loadFirst, StateT.run_bind]
      change (if session.workspace.contains path = true then _ else (Config.loadFirst rest : StateM Session Config)).run
        session = _
      rw [absent.1]
      exact ih absent.2

-- The exit code of a result, and what is then printed for faults.
def told (color : Bool) : Except Failure Unit → Nat × String
  | .ok () => (0, "")
  | .error failure => (failure.exitCode, if failure.isReported then "" else Command.failureText color failure)

theorem run_finish (session : Session) (color : Bool) (result : Except Failure Unit) :
    (Command.finish color result : StateM Session Nat).run session =
      ((told color result).1, session.warning (told color result).2) := by
  unfold Command.finish told
  cases result with
  | ok =>
      dsimp only
      rw [warning_empty]
      rfl
  | error failure =>
      dsimp only
      cases failure.isReported with
      | true => exact congrArg (Prod.mk failure.exitCode) session.warning_empty.symm
      | false => rfl

end Session
end Files

end Conform
