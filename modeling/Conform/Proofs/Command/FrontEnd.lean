import Conform.Proofs.Command.Session
import Conform.Proofs.Output.Run
import Conform.Proofs.Schema.Level

namespace Conform
open Files

namespace Files

theorem Workspace.isFile_iff {workspace : Workspace} {path : String} :
    workspace.isFile path = true ↔ ∃ text, workspace.read? path = some text := by
  unfold isFile read?
  cases workspace.locate? path with
  | none => simp
  | some place => simp [isFileAt, Option.isSome_iff_exists]

namespace Session
variable [Document.Codecs] (session : Session)

section Document
variable {path : String} (named : isName path Document.inputName = false)
include named

theorem document_of_read {text : String} (read : session.workspace.read? path = some text) :
    session.document path = Document.parse path text := by
  unfold document
  rw [named, if_neg (by decide), if_pos (Workspace.contains_of_read read), read]
  rfl

theorem document_of_absent (absent : session.workspace.contains path = false) :
    session.document path = .error (.notFound path) := by
  unfold document
  rw [named, if_neg (by decide), if_neg (by rw [absent]; decide)]

theorem document_of_holds {value : Json} (holds : session.workspace.Holds path value) :
    session.document path = .ok value :=
  session.document_eq_ok_iff.mpr (.held named holds)

theorem document_of_undecoded (file : session.workspace.isFile path = true)
    (undecoded : ∀ value, ¬ session.workspace.Holds path value) :
    ∃ expected, session.document path = .error (.wrongFormat path expected) := by
  obtain ⟨text, read⟩ := Workspace.isFile_iff.mp file
  rw [document_of_read session named read]
  cases parsed : Document.parse path text with
  | ok value => exact absurd ⟨text, read, Document.parse_eq_ok_iff.mp parsed⟩ (undecoded value)
  | error failure =>
      obtain ⟨expected, rfl⟩ := Document.exists_of_parse_error parsed
      exact ⟨expected, rfl⟩

end Document

section Schema
variable (registry : Registry) {schema : String}

omit [Document.Codecs] in
theorem schemaPath_default : session.schemaPath .default schema =
    if session.workspace.isFile schema then .ok schema else .error (.notFound schema) := by
  unfold schemaPath candidates
  cases found : session.workspace.isFile schema <;> simp [Config.default, found]

theorem validator_of_absent (absent : session.workspace.isFile schema = false) :
    session.validator registry .default schema = .error (.notFound schema) := by
  unfold validator
  rw [schemaPath_default, if_neg (by rw [absent]; decide)]
  rfl

variable (named : isName schema Document.inputName = false)
include named

omit [Document.Codecs] in
theorem opened_default : session.opened .default schema = session := by
  unfold opened
  rw [schemaPath_default]
  split
  · rename_i path found
    split at found
    · cases found
      exact session.reading_of_not_named named
    · cases found
  · rfl

theorem validator_of_undecoded (file : session.workspace.isFile schema = true)
    (undecoded : ∀ value, ¬ session.workspace.Holds schema value) :
    ∃ expected, session.validator registry .default schema = .error (.wrongFormat schema expected) := by
  obtain ⟨expected, failed⟩ := document_of_undecoded session named file undecoded
  unfold validator
  rw [schemaPath_default, if_pos file]
  exact ⟨expected, by simp only [bind, Except.bind, failed]⟩

theorem validator_of_holds {value : Json} (holds : session.workspace.Holds schema value) :
    session.validator registry .default schema = match Validator.compile registry value with
      | .ok validator => .ok (schema, validator)
      | .error report => .error (.invalidSchema schema report) := by
  have file : session.workspace.isFile schema = true := by
    obtain ⟨text, read, _⟩ := holds
    exact Workspace.isFile_iff.mpr ⟨text, read⟩
  unfold validator
  rw [schemaPath_default, if_pos file]
  have read := document_of_holds session named holds
  cases compiled : Validator.compile registry value <;> simp only [bind, Except.bind, read, compiled]

end Schema

end Session
end Files

namespace Arguments

theorem items_operand (forms : List OptionForm) {text : String} (operand : isOperand text.toList = true)
    (rest : List String) : items forms (text :: rest) = .operand true text rest :: items forms rest := by
  rw [items]
  split
  · rename_i dashes
    rw [dashes] at operand
    cases operand
  · rename_i dashes
    rw [dashes] at operand
    cases operand
  · rename_i dash
    rw [dash] at operand
    cases operand
  · rfl

theorem items_output (rest : List String) :
    items globalForms ("-o" :: "json" :: rest) = .value .output "json" :: items globalForms rest := by
  rw [items]
  rfl

theorem items_schema {schema : String} (operand : isOperand schema.toList = true) (rest : List String) :
    items CommandName.validate.forms ("--schema" :: schema :: rest) =
      .value .schema schema :: items CommandName.validate.forms rest := by
  have taken : word CommandName.validate.forms "schema".toList (schema :: rest) = (.value .schema schema, rest) := by
    change separateValue .schema (schema :: rest) = _
    rw [separateValue, if_pos operand]
  rw [items]
  change (word CommandName.validate.forms "schema".toList (schema :: rest)).1 ::
    items CommandName.validate.forms (word CommandName.validate.forms "schema".toList (schema :: rest)).2 = _
  rw [taken]

-- The usual way to ask for a validation.
theorem read_validate {preset : Option String} {input schema : String} (inputOperand : isOperand input.toList = true)
    (schemaOperand : isOperand schema.toList = true) (inputSome : input ≠ "") (schemaSome : schema ≠ "")
    (presetSome : preset ≠ some "") :
    read preset ["-o", "json", "validate", input, "--schema", schema] =
      .run ⟨0, false, preset, some .json, false⟩ (.validate input schema none) := by
  have before : items globalForms ["-o", "json", "validate", input, "--schema", schema] =
      .value .output "json" :: .operand true "validate" [input, "--schema", schema] ::
        items globalForms [input, "--schema", schema] := by
    rw [items_output, items_operand globalForms rfl]
  have after : items CommandName.validate.forms [input, "--schema", schema] =
      [.operand true input ["--schema", schema], .value .schema schema] := by
    rw [items_operand _ inputOperand, items_schema schemaOperand, items]
  have command : CommandName.ofText? "validate" = some .validate := rfl
  have json : Given.add programName none .nothing (.value .output "json") =
      .ok ⟨0, false, false, none, some .json, none, none, []⟩ := rfl
  have operand : Given.add (programName ++ "-" ++ "validate") (some .validate) .nothing
      (.operand true input ["--schema", schema]) = .ok ⟨0, false, false, none, none, none, none, [input]⟩ := by
    simp [Given.add, Given.nothing, CommandName.operandCount, CommandName.accepts, inputSome]
  have named : Given.add (programName ++ "-" ++ "validate") (some .validate)
      ⟨0, false, false, none, none, none, none, [input]⟩ (.value .schema schema) =
        .ok ⟨0, false, false, none, none, some schema, none, [input]⟩ := by
    simp [Given.add, once, schemaSome, bind, Except.bind, pure, Except.pure]
  unfold read
  rw [before]
  simp [List.takeWhile, List.dropWhile, Item.isOperand, bind, Except.bind, pure, Except.pure, json, command, after,
    operand, named, command?, Given.conflicts, options, presetSome]

end Arguments

namespace Command
open Conform.Action

section Faults

-- The line that tells of a fault.
def faultLine (color : Bool) (message : String) : String :=
  (if color then "\x1b[1;31mError:\x1b[0m" else "Error:") ++ " " ++ message ++ "\n"

def shownSegment : Segment → String
  | .index position => "[" ++ toString position ++ "]"
  | .key name => "[" ++ name ++ "]"

def shownRecord (record : Record) : String :=
  if record.path = [] then record.message else String.join (record.path.map shownSegment) ++ ": " ++ record.message

-- A schema that is refused is named, and each record of the report has a line of its own.
def refusal (schema : String) (report : Report) : String :=
  "Invalid schema " ++ schema ++ ":\n" ++ "\n".intercalate (report.records.map shownRecord)

theorem failureText_eq (color : Bool) (failure : Failure) :
    failureText color failure = faultLine color failure.message := by
  cases color <;> rfl

theorem shownRecord_eq (record : Record) : shownRecord record = record.text := by
  have joined : ∀ (path : Path) (before : String), path.foldl (fun text segment => text ++ "[" ++ segment.text ++ "]") before =
      (path.map shownSegment).foldl (· ++ ·) before := by
    intro path
    induction path with
    | nil => exact fun _ => rfl
    | cons segment rest ih =>
        intro before
        rw [List.foldl_cons, List.map_cons, List.foldl_cons, ih]
        cases segment <;> simp [shownSegment, Segment.text, String.append_assoc]
  unfold shownRecord Record.text
  cases path : record.path with
  | nil => rfl
  | cons segment rest =>
      rw [if_neg (List.cons_ne_nil _ _), String.join, ← joined]
      rfl

theorem explained_compile (registry : Registry) (document : Json) :
    Report.Explained (Validator.compile registry document) := by
  unfold Validator.compile Schema.compileRoot
  split
  · exact Report.explained_map (Schema.Node.explained_compile registry document)
  · exact Report.explained_map (Report.explained_message _)

theorem message_of_refused {registry : Registry} {document : Json} {report : Report} (schema : String)
    (refused : Validator.compile registry document = .error report) :
    (Failure.invalidSchema schema report).message = refusal schema report := by
  have filled := explained_compile registry document report refused
  have records : report.records.map shownRecord = report.records.map Record.text :=
    List.map_congr_left fun record _ => shownRecord_eq record
  have text : report.text = "\n".intercalate (report.records.map Record.text) := by
    unfold Report.text
    rw [filled, if_neg (by decide)]
  rw [refusal, records, ← text]
  rfl

end Faults

-- No configuration is named, none is in the usual files, and no log format is asked for in vain.
structure Unconfigured (environment : Environment) (options : Options) (workspace : Workspace) : Prop where
  unnamed : options.config = none
  absent : ∀ path ∈ Config.defaultPaths (Config.userFolder? environment.home environment.configHome),
    workspace.contains path = false
  silent : ∀ name, environment.logFormat = some name → (Logging.Format.ofAnyCase? name).isSome = true

def colored (environment : Environment) (options : Options) : Bool := !options.noColor && environment.terminal

def writer (environment : Environment) (options : Options) : Output.Writer :=
  ⟨options.output.getD .human, colored environment options, options.quiet⟩

section Run
variable {environment : Environment} {options : Options} {session : Session}

theorem run_findConfig (bare : Unconfigured environment options session.workspace) :
    (findConfig environment options : StateM Session (Except Failure Config)).run session =
      (.ok .default, session) := by
  unfold findConfig
  rw [bare.unnamed]
  dsimp only
  rw [StateT.run_bind, Session.run_loadFirst session bare.absent]
  rfl

theorem run_warnOfLogFormat (bare : Unconfigured environment options session.workspace) :
    (warnOfLogFormat environment : StateM Session Unit).run session = ((), session) := by
  unfold warnOfLogFormat
  cases given : environment.logFormat with
  | none => rfl
  | some name =>
      have fine : (Logging.Format.ofAnyCase? name).isNone = false := by simpa using bare.silent name given
      dsimp only
      rw [fine]
      rfl

variable [Document.Codecs]

theorem run_command (bare : Unconfigured environment options session.workspace) (registry : Registry)
    (command : Command) {result : Except Failure Unit} {later : Session}
    (ran : runIn (execute registry .default (writer environment options) command) session = (result, later)) :
    (invoke registry environment (.run options command) : StateM Session Nat).run session =
      (finish (colored environment options) result : StateM Session Nat).run later := by
  have color : (colored environment options && Config.default.color) = colored environment options := Bool.and_true _
  change (run registry environment options command : StateM Session Nat).run session = _
  unfold run
  dsimp only
  rw [StateT.run_bind, run_findConfig bare]
  change ((warnOfLogFormat environment : StateM Session Unit) >>= fun _ => _).run session = _
  rw [StateT.run_bind, run_warnOfLogFormat bare]
  change ((ExceptT.run (execute registry .default ⟨_, colored environment options && Config.default.color, _⟩ command) :
    StateM Session (Except Failure Unit)) >>= fun result =>
      finish (colored environment options && Config.default.color) result).run session = _
  rw [color]
  exact congrArg (fun ended => (finish (colored environment options) ended.1 : StateM Session Nat).run ended.2) ran

end Run

section Ending
variable [Document.Codecs] (session : Session) (registry : Registry) (writer : Output.Writer) (input schema : String)

-- The result of a validation, and what it prints.
def ending : Except Failure Unit × String :=
  match session.validator registry .default schema with
  | .error failure => (.error failure, "")
  | .ok (_, validator) => session.validated writer validator input

theorem ending_of_refused {failure : Failure} (failed : session.validator registry .default schema = .error failure) :
    ending session registry writer input schema = (.error failure, "") := by
  rw [ending, failed]

theorem ending_of_ok {path : String} {validator : Validator}
    (compiled : session.validator registry .default schema = .ok (path, validator)) :
    ending session registry writer input schema = session.validated writer validator input := by
  rw [ending, compiled]

variable {session input schema}

theorem ending_of_compiled (named : isName schema Document.inputName = false) {document : Json} {validator : Validator}
    (held : session.workspace.Holds schema document) (compiled : Validator.compile registry document = .ok validator) :
    ending session registry writer input schema = session.validated writer validator input := by
  have found := session.validator_of_holds registry named held
  rw [compiled] at found
  rw [ending, found]

-- Nothing that is typed in is read.
theorem runIn_validate (json : writer.format = .json) (schemaNamed : isName schema Document.inputName = false)
    (inputNamed : isName input Document.inputName = false) :
    runIn (validateDocument registry .default writer input schema none) session =
      ((ending session registry writer input schema).1,
        session.printing (ending session registry writer input schema).2) := by
  rw [Session.runIn_validateDocument, Session.opened_default session schemaNamed]
  cases found : session.validator registry .default schema with
  | error failure => rw [ending_of_refused _ _ _ _ _ found, Session.printing_empty]
  | ok pair =>
      obtain ⟨path, validator⟩ := pair
      dsimp only
      rw [ending_of_ok _ _ _ _ _ found, Output.Writer.info_json json, Session.printing_empty,
        Session.judged_none _ _ _ inputNamed]

end Ending

-- What is seen of validating a value with results as JSON: an exit code, results and faults.
structure Verdict (validator : Validator) (value : Json) (code : Nat) (out err : String) : Prop where
  silent : err = ""
  accepted : ∀ canonical, code = 0 ∧ out = canonical.toText ++ "\n" ↔ validator.validate value = .ok canonical
  reported : ∀ report, validator.validate value = .error report → code = 2 ∧ out = report.toJson.toText ++ "\n"
  rejected : ∀ report, report.Small →
    (code = 2 ∧ out = report.toJson.toText ++ "\n" ↔ validator.validate value = .error report)

-- The line for a file whose text cannot be read in the format of its extension.
def Unfit (color : Bool) (path err : String) : Prop :=
  ∃ formats ∈ ["JSON", "YAML", "TOML", "JSON, YAML or TOML"],
    err = faultLine color ("Invalid file format for " ++ path ++ ": expected " ++ formats ++ " format")

-- What is seen of validating a file against another: nothing is validated unless the schema can be read and compiled.
structure FrontEnd [Document.Codecs] (registry : Registry) (workspace : Workspace) (color : Bool) (input schema : String)
    (code : Nat) (out err : String) : Prop where
  schemaAbsent : workspace.isFile schema = false →
    code = 3 ∧ out = "" ∧ err = faultLine color ("File not found: " ++ schema)
  schemaUnfit : workspace.isFile schema = true → (∀ document, ¬ workspace.Holds schema document) →
    code = 4 ∧ out = "" ∧ Unfit color schema err
  schemaRefused : ∀ document report, workspace.Holds schema document →
    Validator.compile registry document = .error report →
    code = 6 ∧ out = "" ∧ err = faultLine color (refusal schema report)
  inputAbsent : ∀ document validator, workspace.Holds schema document →
    Validator.compile registry document = .ok validator → workspace.isFile input = false →
    code = 3 ∧ out = "" ∧ err = faultLine color ("File not found: " ++ input)
  inputUnfit : ∀ document validator, workspace.Holds schema document →
    Validator.compile registry document = .ok validator → workspace.isFile input = true →
    (∀ value, ¬ workspace.Holds input value) → code = 4 ∧ out = "" ∧ Unfit color input err
  judged : ∀ document validator value, workspace.Holds schema document →
    Validator.compile registry document = .ok validator → workspace.Holds input value →
    Verdict validator value code out err

theorem line_injective {value value' : Json} (same : value.toText ++ "\n" = value'.toText ++ "\n") :
    value = value' := by
  refine Json.toText_injective (String.toList_injective ?_)
  have texts := congrArg String.toList same
  rw [String.toList_append, String.toList_append] at texts
  exact List.append_cancel_right texts

theorem unfit_told (color : Bool) (path : String) (expected : Option Document.Format) :
    Unfit color path (Session.told color (.error (.wrongFormat path expected))).2 := by
  refine ⟨Failure.formatsText expected, ?_, failureText_eq color _⟩
  cases expected with
  | none => decide
  | some format => cases format <;> decide

namespace Verdict
variable {validator : Validator} {value : Json}

theorem of_ok {canonical : Json} (accepted : validator.validate value = .ok canonical) :
    Verdict validator value 0 (canonical.toText ++ "\n") "" where
  silent := rfl
  accepted canonical' := by
    rw [accepted, Except.ok.injEq]
    exact ⟨fun ended => line_injective ended.2, fun same => ⟨rfl, by rw [same]⟩⟩
  reported report rejected := by
    rw [accepted] at rejected
    cases rejected
  rejected report _ := by
    rw [accepted]
    exact ⟨fun ended => absurd ended.1 (by decide), nofun⟩

theorem of_error {report : Report} (rejected : validator.validate value = .error report) :
    Verdict validator value 2 (report.toJson.toText ++ "\n") "" where
  silent := rfl
  accepted canonical := by
    rw [rejected]
    exact ⟨fun ended => absurd ended.1 (by decide), nofun⟩
  reported report' rejected' := by
    rw [rejected] at rejected'
    cases rejected'
    exact ⟨rfl, rfl⟩
  rejected report' small := by
    rw [rejected, Except.error.injEq]
    refine ⟨fun ended => ?_, fun same => ⟨rfl, by rw [same]⟩⟩
    exact (Report.toJson_inj small (line_injective ended.2).symm).symm

theorem code_mem {code : Nat} {out err : String} (verdict : Verdict validator value code out err) : code = 0 ∨ code = 2 := by
  cases judged : validator.validate value with
  | ok canonical => exact .inl ((verdict.accepted canonical).mpr judged).1
  | error report => exact .inr (verdict.reported report judged).1

end Verdict

namespace FrontEnd
variable [Document.Codecs]

-- The fields of the structure leave no case out.
theorem code_mem {registry : Registry} {workspace : Workspace} {color : Bool} {input schema : String} {code : Nat}
    {out err : String} (told : FrontEnd registry workspace color input schema code out err) :
    code ∈ [0, 2, 3, 4, 6] := by
  have known : code = 0 ∨ code = 2 ∨ code = 3 ∨ code = 4 ∨ code = 6 := by
    cases schemaFile : workspace.isFile schema with
    | false => exact .inr (.inr (.inl (told.schemaAbsent schemaFile).1))
    | true =>
        by_cases schemaHeld : ∃ document, workspace.Holds schema document
        · obtain ⟨document, held⟩ := schemaHeld
          cases compiled : Validator.compile registry document with
          | error report => exact .inr (.inr (.inr (.inr (told.schemaRefused document report held compiled).1)))
          | ok validator =>
              cases inputFile : workspace.isFile input with
              | false => exact .inr (.inr (.inl (told.inputAbsent document validator held compiled inputFile).1))
              | true =>
                  by_cases inputHeld : ∃ value, workspace.Holds input value
                  · obtain ⟨value, given⟩ := inputHeld
                    exact (told.judged document validator value held compiled given).code_mem.imp_right .inl
                  · rw [not_exists] at inputHeld
                    exact .inr (.inr (.inr (.inl (told.inputUnfit document validator held compiled inputFile inputHeld).1)))
        · rw [not_exists] at schemaHeld
          exact .inr (.inr (.inr (.inl (told.schemaUnfit schemaFile schemaHeld).1)))
  simpa using known

section Ending
variable (registry : Registry) {workspace : Workspace} (typed : String) (color : Bool) {writer : Output.Writer}
  (json : writer.format = .json) {input schema : String} (schemaNamed : isName schema Document.inputName = false)
  (inputNamed : isName input Document.inputName = false)
  (plain : workspace.contains input = true → workspace.isFile input = true)
include json schemaNamed inputNamed plain

theorem of_ending : FrontEnd registry workspace color input schema
    (Session.told color (ending ⟨workspace, typed, "", ""⟩ registry writer input schema).1).1
    (ending ⟨workspace, typed, "", ""⟩ registry writer input schema).2
    (Session.told color (ending ⟨workspace, typed, "", ""⟩ registry writer input schema).1).2 where
  schemaAbsent absent := by
    rw [ending_of_refused _ _ _ _ _ (Session.validator_of_absent _ registry absent)]
    exact ⟨rfl, rfl, failureText_eq color _⟩
  schemaUnfit file undecoded := by
    obtain ⟨expected, failed⟩ :=
      Session.validator_of_undecoded ⟨workspace, typed, "", ""⟩ registry schemaNamed file undecoded
    rw [ending_of_refused _ _ _ _ _ failed]
    exact ⟨rfl, rfl, unfit_told color schema expected⟩
  schemaRefused document report held refused := by
    have failed := Session.validator_of_holds ⟨workspace, typed, "", ""⟩ registry schemaNamed held
    rw [refused] at failed
    rw [ending_of_refused _ _ _ _ _ failed, ← message_of_refused schema refused]
    exact ⟨rfl, rfl, failureText_eq color _⟩
  inputAbsent document validator held compiled absent := by
    have missing : workspace.contains input = false := by
      by_contra there
      rw [plain (by simpa using there)] at absent
      cases absent
    rw [ending_of_compiled registry writer schemaNamed held compiled, Session.validated,
      Session.document_of_absent _ inputNamed missing]
    exact ⟨rfl, rfl, failureText_eq color _⟩
  inputUnfit document validator held compiled file undecoded := by
    obtain ⟨expected, failed⟩ :=
      Session.document_of_undecoded ⟨workspace, typed, "", ""⟩ inputNamed file undecoded
    rw [ending_of_compiled registry writer schemaNamed held compiled, Session.validated, failed]
    exact ⟨rfl, rfl, unfit_told color input expected⟩
  judged document validator value held compiled given := by
    rw [ending_of_compiled registry writer schemaNamed held compiled, Session.validated,
      Session.document_of_holds _ inputNamed given]
    cases result : validator.validate value with
    | ok canonical =>
        simp only [result, Output.Writer.data_json json]
        exact .of_ok result
    | error report =>
        simp only [result, Output.Writer.report_json json]
        exact .of_error result

end Ending

end FrontEnd

-- Exit code, results and faults say what compiling the schema and validating the input came to. Neither path is the one
-- that stands for typed text, and the input is a file if there is anything.
theorem validate_is_front_end [Document.Codecs] {environment : Environment} {arguments : List String} {options : Options}
    {input schema : String} {workspace : Workspace}
    (asked : Arguments.read environment.config arguments = .run options (.validate input schema none))
    (json : options.output = some .json) (bare : Unconfigured environment options workspace)
    (schemaNamed : isName schema Document.inputName = false) (inputNamed : isName input Document.inputName = false)
    (plain : workspace.contains input = true → workspace.isFile input = true) (registry : Registry) (typed : String) :
    ∃ code out err,
      (invoke registry environment (Arguments.read environment.config arguments) : StateM Session Nat).run
        ⟨workspace, typed, "", ""⟩ = (code, ⟨workspace, typed, out, err⟩) ∧
      code ∈ [0, 2, 3, 4, 6] ∧
      FrontEnd registry workspace (colored environment options) input schema code out err := by
  have format : (writer environment options).format = .json := by rw [writer, json]; rfl
  have told := FrontEnd.of_ending registry typed (colored environment options) format schemaNamed inputNamed plain
  refine ⟨_, _, _, ?_, told.code_mem, told⟩
  rw [asked, run_command bare registry (.validate input schema none)
    (runIn_validate registry (writer environment options) format schemaNamed inputNamed), Session.run_finish]
  simp only [Session.printing, Session.warning, String.empty_append]

def portFiles : Workspace where
  current := ["work".toList]
  files := [(["work".toList, "schema.json".toList], "\x7b\"port\": \"int\"\x7d"),
    (["work".toList, "broken.yaml".toList], "port: integer\n"),
    (["work".toList, "input.json".toList], "\x7b\"port\": 80\x7d"),
    (["work".toList, "words.toml".toList], "port = \"eighty\"\n")]
  folders := [[], ["work".toList]]

def plainEnvironment : Environment := ⟨none, none, none, none, false⟩

def portRun (input schema : String) : Nat × Session :=
  (invoke .builtin plainEnvironment (Arguments.read none ["-o", "json", "validate", input, "--schema", schema]) :
    StateM Session Nat).run ⟨portFiles, "", "", ""⟩

-- The code and what was printed to either place, with the files as they were.
def Ended (input schema : String) (code : Nat) (out err : String) : Prop :=
  portRun input schema = (code, ⟨portFiles, "", out, err⟩) ∧ FrontEnd .builtin portFiles false input schema code out err

-- A number is accepted, a word is not, and a schema that asks for an unknown type is refused before the input, which is
-- not even there, is looked for.
theorem port_validated :
    Ended "input.json" "schema.json" 0 "\x7b\"port\":80\x7d\n" "" ∧
    Ended "words.toml" "schema.json" 2
      "\x7b\"records\":[\x7b\"path\":[\"port\"],\"message\":\"Expected type: int; Received: \\\"eighty\\\"\"\x7d]\x7d\n" "" ∧
    Ended "absent.json" "broken.yaml" 6 "" "Error: Invalid schema broken.yaml:\n[port]: Unknown type 'integer'\n" := by
  have seen : ∀ {input schema : String} {code : Nat} {out err : String},
      (Arguments.isOperand input.toList && Arguments.isOperand schema.toList && input != "" && schema != "") = true →
      (isName input Document.inputName || isName schema Document.inputName) = false →
      (portFiles.contains input = true → portFiles.isFile input = true) →
      ((portRun input schema).1, (portRun input schema).2.printed, (portRun input schema).2.warned) = (code, out, err) →
      Ended input schema code out err := by
    intro input schema code out err operands named plain shown
    simp only [Bool.and_eq_true, bne_iff_ne, Bool.or_eq_false_iff] at operands named
    obtain ⟨code', out', err', ran, -, told⟩ := @validate_is_front_end _ plainEnvironment _ _ _ _ _
      (Arguments.read_validate operands.1.1.1 operands.1.1.2 operands.1.2 operands.2 (by decide)) rfl
      ⟨rfl, by decide, fun _ given => by cases given⟩ named.2 named.1 plain .builtin ""
    change portRun input schema = _ at ran
    rw [ran] at shown
    cases shown
    exact ⟨ran, told⟩
  exact ⟨seen (by decide) (by decide) (by decide) (by decide +kernel),
    seen (by decide) (by decide) (by decide) (by decide +kernel),
    seen (by decide) (by decide) (by decide) (by decide +kernel)⟩

end Command

end Conform
