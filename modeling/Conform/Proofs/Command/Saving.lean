import Conform.Proofs.Command.FrontEnd
import Conform.Proofs.Document.Encoding
import Conform.Proofs.Files.Write

namespace Conform
open Files

namespace Files.Session
open Conform.Action

section Warning
variable (session : Session)

theorem opened_warning (config : Config) (schema text : String) :
    (session.warning text).opened config schema = (session.opened config schema).warning text := by
  have path : (session.warning text).schemaPath config schema = session.schemaPath config schema := rfl
  unfold opened reading
  rw [path]
  split
  · split <;> rfl
  · rfl

theorem exists_runIn_load (path : String) : ∃ found, runIn (Config.load path) session = (found, session) := by
  unfold Config.load
  simp only [runIn_bind, runIn_contains]
  split
  · simp only [runIn_bind, runIn_read, runIn_result]
    cases Document.textOf? (session.workspace.read? path) with
    | error failure => exact ⟨_, rfl⟩
    | ok text =>
        dsimp only
        split <;> exact ⟨_, rfl⟩
  · exact ⟨_, rfl⟩

-- Files that are there and hold no configuration are warned of, and nothing else happens.
theorem exists_run_loadFirst (paths : List String) :
    ∃ config text, (Config.loadFirst paths : StateM Session Config).run session = (config, session.warning text) := by
  induction paths generalizing session with
  | nil => exact ⟨_, "", by rw [warning_empty]; rfl⟩
  | cons path rest ih =>
      obtain ⟨found, loaded⟩ := exists_runIn_load session path
      have opened : ((Config.load path : Action Config).run : StateM Session (Except Failure Config)).run session =
          (found, session) := loaded
      rw [Config.loadFirst, StateT.run_bind]
      change ∃ config text, (if session.workspace.contains path = true then _
        else (Config.loadFirst rest : StateM Session Config)).run session = (config, session.warning text)
      split
      · rw [StateT.run_bind, opened]
        cases found with
        | ok config => exact ⟨config, "", by rw [warning_empty]; rfl⟩
        | error failure =>
            let told := "Warning: Failed to load config from " ++ path ++ ": " ++ failure.message ++ "\n"
            obtain ⟨config, text, later⟩ := ih (session.warning told)
            rw [warning_warning] at later
            exact ⟨config, told ++ text, later⟩
      · exact ih session

theorem exists_run_findConfig (environment : Command.Environment) (options : Options) : ∃ found text,
    (Command.findConfig environment options : StateM Session (Except Failure Config)).run session =
      (found, session.warning text) := by
  unfold Command.findConfig
  cases options.config with
  | some path =>
      obtain ⟨found, loaded⟩ := exists_runIn_load session path
      exact ⟨found, "", by rw [warning_empty]; exact loaded⟩
  | none =>
      obtain ⟨config, text, found⟩ := exists_run_loadFirst session
        (Config.defaultPaths (Config.userFolder? environment.home environment.configHome))
      refine ⟨.ok config, text, ?_⟩
      dsimp only
      rw [StateT.run_bind, found]
      rfl

theorem exists_run_warnOfLogFormat (environment : Command.Environment) : ∃ text,
    (Command.warnOfLogFormat environment : StateM Session Unit).run session = ((), session.warning text) := by
  unfold Command.warnOfLogFormat
  cases environment.logFormat with
  | none => exact ⟨"", by rw [warning_empty]; rfl⟩
  | some name =>
      dsimp only
      split
      · exact ⟨_, rfl⟩
      · exact ⟨"", by rw [warning_empty]; rfl⟩

end Warning

section Saved
variable [Document.Codecs] (session : Session) (registry : Registry) (config : Config) (input schema target : String)

-- The schema is found and compiled, and the document is read and accepted.
def Accepts (canonical : Json) : Prop :=
  ∃ path document validator value, session.schemaPath config schema = .ok path ∧ session.Gives path document ∧
    Validator.compile registry document = .ok validator ∧ (session.opened config schema).Gives input value ∧
    validator.validate value = .ok canonical

-- What comes of saving: its result, and what there is after it.
def saved : Except Failure Unit × Workspace :=
  match session.validator registry config schema with
  | .error failure => (.error failure, session.workspace)
  | .ok (_, validator) => match (session.opened config schema).document input with
    | .error failure => (.error failure, session.workspace)
    | .ok document => match validator.validate document with
      | .error report => (.error (.rejected report.records.length), session.workspace)
      | .ok canonical => match Document.encode target canonical with
        | .error failure => (.error failure, session.workspace)
        | .ok text => match session.workspace.write target text with
          | (true, workspace) => (.ok (), workspace)
          | (false, workspace) => (.error .inaccessible, workspace)

theorem saved_of_accepts {canonical : Json} {text : String} (accepted : session.Accepts registry config input schema canonical)
    (encoded : Document.EncodedAs target canonical text) : session.saved registry config input schema target =
      match session.workspace.write target text with
        | (true, workspace) => (.ok (), workspace)
        | (false, workspace) => (.error .inaccessible, workspace) := by
  obtain ⟨path, document, validator, value, place, schemaGiven, compiled, given, valid⟩ := accepted
  have found := session.validator_eq_ok_iff.mpr ⟨document, place, schemaGiven, compiled⟩
  have read := (session.opened config schema).document_eq_ok_iff.mpr given
  simp only [saved, found, read, valid, Document.encode_of_encodedAs encoded]

-- All that saving may come to. Without a text to write, nothing is done.
inductive Outcome : Except Failure Unit × Workspace → Prop
  | written {canonical : Json} {text : String} {workspace : Workspace} {place : Place}
      (accepted : session.Accepts registry config input schema canonical)
      (encoded : Document.EncodedAs target canonical text)
      (filed : Workspace.Written session.workspace target text workspace place) : Outcome (.ok (), workspace)
  | unwritable {canonical : Json} {text : String} {workspace : Workspace}
      (accepted : session.Accepts registry config input schema canonical)
      (encoded : Document.EncodedAs target canonical text)
      (wrote : session.workspace.write target text = (false, workspace)) : Outcome (.error .inaccessible, workspace)
  | nothing (failure : Failure) : Outcome (.error failure, session.workspace)

theorem outcome_saved : session.Outcome registry config input schema target
    (session.saved registry config input schema target) := by
  unfold saved
  cases found : session.validator registry config schema with
  | error failure => exact .nothing failure
  | ok pair =>
      obtain ⟨path, validator⟩ := pair
      dsimp only
      cases read : (session.opened config schema).document input with
      | error failure => exact .nothing failure
      | ok value =>
          dsimp only
          cases valid : validator.validate value with
          | error report => exact .nothing _
          | ok canonical =>
              dsimp only
              cases encoded : Document.encode target canonical with
              | error failure => exact .nothing failure
              | ok text =>
                  obtain ⟨document, place, schemaGiven, compiled⟩ := session.validator_eq_ok_iff.mp found
                  have given := (session.opened config schema).document_eq_ok_iff.mp read
                  have accepted : session.Accepts registry config input schema canonical :=
                    ⟨path, document, validator, value, place, schemaGiven, compiled, given, valid⟩
                  have encodedAs := Document.encodedAs_of_encode encoded
                  dsimp only
                  cases wrote : session.workspace.write target text with
                  | mk done workspace => cases done with
                      | true =>
                          obtain ⟨place, filed⟩ := Workspace.exists_written wrote
                          exact .written accepted encodedAs filed
                      | false => exact .unwritable accepted encodedAs wrote

theorem saved_warning (text : String) : (session.warning text).saved registry config input schema target =
    session.saved registry config input schema target := by
  unfold saved
  rw [opened_warning]
  rfl

-- The command does what was said, and nothing else to files.
theorem exists_runIn_validateDocument (writer : Output.Writer) : ∃ later,
    runIn (Command.validateDocument registry config writer input schema (some target)) session =
      ((session.saved registry config input schema target).1, later) ∧
    later.workspace = (session.saved registry config input schema target).2 := by
  rw [runIn_validateDocument, saved]
  cases session.validator registry config schema with
  | error failure => exact ⟨_, rfl, workspace_opened ..⟩
  | ok found =>
      obtain ⟨path, validator⟩ := found
      have kept : ∀ info, (((session.opened config schema).printing info).reading input).workspace = session.workspace := by
        simp
      dsimp only
      unfold judged
      rw [document_printing]
      cases (session.opened config schema).document input with
      | error failure => exact ⟨_, rfl, kept _⟩
      | ok document =>
          dsimp only
          cases validator.validate document with
          | error report => exact ⟨_, rfl, kept _⟩
          | ok canonical =>
              simp only [delivery, runIn_bind, runIn_save, kept]
              cases Document.encode target canonical with
              | error failure => exact ⟨_, rfl, kept _⟩
              | ok text =>
                  dsimp only
                  obtain ⟨written, workspace⟩ := session.workspace.write target text
                  cases written with
                  | false => exact ⟨_, rfl, rfl⟩
                  | true =>
                      dsimp only
                      rw [runIn_print]
                      exact ⟨_, rfl, rfl⟩

end Saved

end Files.Session

namespace Command
open Conform.Action

theorem exitCode_ne_zero (failure : Failure) : failure.exitCode ≠ 0 := by
  cases failure with
  | malformed format => cases format <;> simp [Failure.exitCode]
  | _ => simp [Failure.exitCode]

theorem told_eq_zero_iff (color : Bool) (result : Except Failure Unit) :
    (Session.told color result).1 = 0 ↔ result = .ok () := by
  cases result with
  | ok => exact ⟨fun _ => rfl, fun _ => rfl⟩
  | error failure => exact ⟨fun zero => absurd zero (exitCode_ne_zero failure), nofun⟩

section Run
variable (session : Session) (environment : Environment) (options : Options)

-- The configuration that a run has.
def configuration : Except Failure Config :=
  ((findConfig environment options : StateM Session (Except Failure Config)).run session).1

variable [Document.Codecs]

theorem exists_run (registry : Registry) (command : Command) : ∃ color writer told,
    (invoke registry environment (.run options command) : StateM Session Nat).run session =
      match configuration session environment options with
      | .error failure => (finish color (.error failure) : StateM Session Nat).run (session.warning told)
      | .ok config =>
          (finish color (runIn (execute registry config writer command) (session.warning told)).1 : StateM Session Nat).run
            (runIn (execute registry config writer command) (session.warning told)).2 := by
  obtain ⟨found, first, looked⟩ := session.exists_run_findConfig environment options
  have known : configuration session environment options = found := congrArg Prod.fst looked
  rw [known]
  change ∃ color writer told, (run registry environment options command : StateM Session Nat).run session = _
  unfold run
  dsimp only
  rw [StateT.run_bind, looked]
  cases found with
  | error failure => exact ⟨!options.noColor && environment.terminal, ⟨.json, false, false⟩, first, rfl⟩
  | ok config =>
      obtain ⟨second, warned⟩ := (session.warning first).exists_run_warnOfLogFormat environment
      rw [Session.warning_warning] at warned
      let color := !options.noColor && environment.terminal && config.color
      refine ⟨color, ⟨options.output.getD config.format, color, options.quiet⟩, first ++ second, ?_⟩
      change ((warnOfLogFormat environment : StateM Session Unit) >>= fun _ => _).run (session.warning first) = _
      rw [StateT.run_bind, warned]
      rfl

end Run

section Saving
variable [Document.Codecs] (registry : Registry) (environment : Environment) (options : Options)
  (input schema target : String) (session : Session)

-- What is to be saved: the text of the canonical form of a document that was accepted.
def ToSave (canonical : Json) (text : String) : Prop :=
  ∃ config, configuration session environment options = .ok config ∧
    session.Accepts registry config input schema canonical ∧ Document.EncodedAs target canonical text

-- What a validation that is to save leaves behind: nothing new, or the encoded canonical form in one file. Only where the
-- file itself could not be written may there be new folders, which were made for it.
structure AllOrNothing (code : Nat) (later : Session) : Prop where
  failed : code ≠ 0 → later.workspace.files = session.workspace.files ∧
    (later.workspace = session.workspace ∨ ∃ canonical text,
      ToSave registry environment options input schema target session canonical text ∧
      session.workspace.write? target text = none)
  saved : code = 0 → ∃ canonical text place, ToSave registry environment options input schema target session canonical text ∧
    later.workspace.locate? target = some place ∧ later.workspace.files.lookup place = some text ∧
    (∀ other, other ≠ place → later.workspace.files.lookup other = session.workspace.files.lookup other) ∧
    (extension? target ∈ [some "json", some "yaml", some "yml", some "toml"] → Document.Keeps target canonical →
      later.workspace.Holds target canonical)
  succeeds : ∀ canonical text workspace, ToSave registry environment options input schema target session canonical text →
    session.workspace.write? target text = some workspace → code = 0

namespace AllOrNothing
variable {registry environment options input schema target session} {later : Session} {code : Nat}

theorem of_unconfigured {failure : Failure} (unconfigured : configuration session environment options = .error failure)
    (nonzero : code ≠ 0) (kept : later.workspace = session.workspace) :
    AllOrNothing registry environment options input schema target session code later where
  failed _ := ⟨by rw [kept], .inl kept⟩
  saved zero := absurd zero nonzero
  succeeds canonical text workspace toSave _ := by
    obtain ⟨config, configured, _⟩ := toSave
    rw [unconfigured] at configured
    cases configured

theorem of_saved {config : Config} (configured : configuration session environment options = .ok config)
    (outcome : code = 0 ↔ (session.saved registry config input schema target).1 = .ok ())
    (kept : later.workspace = (session.saved registry config input schema target).2) :
    AllOrNothing registry environment options input schema target session code later := by
  have succeeds : ∀ canonical text workspace,
      ToSave registry environment options input schema target session canonical text →
      session.workspace.write? target text = some workspace → code = 0 := by
    rintro canonical text workspace ⟨config', configured', accepted, encoded⟩ writable
    rw [configured] at configured'
    cases configured'
    rw [outcome, session.saved_of_accepts registry config input schema target accepted encoded,
      Workspace.write?_eq_some_iff.mp writable]
  have came := session.outcome_saved registry config input schema target
  generalize session.saved registry config input schema target = ended at came outcome kept
  cases came with
  | @written canonical text _ place accepted encoded filed =>
      refine ⟨fun nonzero => absurd (outcome.mpr rfl) nonzero, fun _ => ?_, succeeds⟩
      rw [kept]
      refine ⟨canonical, text, place, ⟨config, configured, accepted, encoded⟩, filed.located, filed.lookup,
        fun other different => filed.lookup_of_ne different, fun format keeps => ?_⟩
      exact ⟨text, filed.read, encoded.decodedAs keeps format⟩
  | @unwritable canonical text _ accepted encoded wrote =>
      refine ⟨fun _ => ?_, fun zero => absurd (outcome.mp zero) nofun, succeeds⟩
      have unwritable : session.workspace.write? target text = none := by rw [Workspace.write?, wrote]
      rw [kept]
      exact ⟨(Workspace.grown_of_not_written wrote).files,
        .inr ⟨canonical, text, ⟨config, configured, accepted, encoded⟩, unwritable⟩⟩
  | nothing failure =>
      exact ⟨fun _ => ⟨by rw [kept], .inl kept⟩, fun zero => absurd (outcome.mp zero) nofun, succeeds⟩

end AllOrNothing

end Saving

-- Either the code tells of a failure and no file was touched, or the canonical form was saved and nothing else was.
theorem saving_is_all_or_nothing [Document.Codecs] {environment : Environment} {arguments : List String} {options : Options}
    {input schema target : String}
    (asked : Arguments.read environment.config arguments = .run options (.validate input schema (some target)))
    (registry : Registry) (session : Session) : ∃ code later,
      (invoke registry environment (Arguments.read environment.config arguments) : StateM Session Nat).run session =
        (code, later) ∧
      AllOrNothing registry environment options input schema target session code later := by
  obtain ⟨color, writer, told, ran⟩ :=
    exists_run session environment options registry (.validate input schema (some target))
  rw [asked, ran]
  cases configured : configuration session environment options with
  | error failure =>
      exact ⟨_, _, Session.run_finish .., .of_unconfigured configured (exitCode_ne_zero failure) rfl⟩
  | ok config =>
      obtain ⟨later, result, kept⟩ :=
        (session.warning told).exists_runIn_validateDocument registry config input schema target writer
      rw [Session.saved_warning] at result kept
      dsimp only [execute]
      rw [result]
      exact ⟨_, _, Session.run_finish .., .of_saved configured (told_eq_zero_iff ..) kept⟩

def saveFiles : Workspace where
  current := ["work".toList]
  files := [(["work".toList, "schema.json".toList], "\x7b\"port\": \"int|null\"\x7d"),
    (["work".toList, "in".toList, "port.toml".toList], "port = 8080\n"),
    (["work".toList, "in".toList, "none.yaml".toList], "port: null\n")]
  folders := [[], ["work".toList], ["work".toList, "in".toList]]

def plainOptions : Options := ⟨0, false, none, none, false⟩

def saveArguments (input target : String) : List String :=
  ["validate", input, "--schema", "schema.json", "--save-to", target]

def saveRun (input target : String) : Nat × Session :=
  (invoke .builtin plainEnvironment (Arguments.read none (saveArguments input target)) : StateM Session Nat).run
    ⟨saveFiles, "", "", ""⟩

def portValue : Json := .object [("port", .number (.integer 8080 (by decide)))]

theorem portValue_kept (target : String) : Document.Keeps target portValue := by
  have known : ∀ read : Option Json, read.map Json.toText = (some portValue).map Json.toText → read = some portValue :=
    fun _ shown => Option.map_injective (fun _ _ => Json.toText_injective) shown
  have yaml : Document.Codecs.writeYaml? portValue = some "port: 8080\n" := by decide +kernel
  have toml : Document.Codecs.writeToml? portValue = some "port = 8080\n" := by decide +kernel
  refine ⟨fun _ => known _ (by decide +kernel), fun _ text written => ?_, fun _ text written => ?_⟩
  · rw [yaml, Option.some_inj] at written
    rw [← written]
    exact known _ (by decide +kernel)
  · rw [toml, Option.some_inj] at written
    rw [← written]
    exact known _ (by decide +kernel)

-- The code, and what there is after the run.
def Leaves (input target : String) (code : Nat) (later : Session) : Prop :=
  saveRun input target = (code, later) ∧
    AllOrNothing .builtin plainEnvironment plainOptions input "schema.json" target ⟨saveFiles, "", "", ""⟩ code later

-- A good end, with a text that is read back.
def Saves (target text : String) : Prop :=
  ∃ later, Leaves "in/port.toml" target 0 later ∧ later.workspace.read? target = some text ∧
    later.workspace.Holds target portValue

-- A number is written in each format and read back. Null has no text as TOML, so not even the folder is made; it is made
-- where only the file itself cannot be written.
theorem port_saved :
    Saves "out/clean.yaml" "port: 8080\n" ∧ Saves "out/clean.toml" "port = 8080\n" ∧
    Saves "out/clean.json" "\x7b\n  \"port\": 8080\n\x7d\n" ∧
    (∃ later, Leaves "in/none.yaml" "out/clean.toml" 99 later ∧ later.workspace.folders = saveFiles.folders) ∧
    (∃ later, Leaves "in/none.yaml" "out/.." 1 later ∧
      later.workspace.folders = ["work".toList, "out".toList] :: saveFiles.folders) := by
  have seen : ∀ input target code, Arguments.read none (saveArguments input target) =
      .run plainOptions (.validate input "schema.json" (some target)) →
      (saveRun input target).1 = code → Leaves input target code (saveRun input target).2 := by
    rintro input target code asked rfl
    obtain ⟨code, later, ran, kept⟩ :=
      @saving_is_all_or_nothing _ plainEnvironment _ _ _ _ _ asked .builtin ⟨saveFiles, "", "", ""⟩
    change saveRun input target = _ at ran
    rw [ran]
    exact ⟨ran, kept⟩
  have saves : ∀ {target text : String}, Arguments.read none (saveArguments "in/port.toml" target) =
      .run plainOptions (.validate "in/port.toml" "schema.json" (some target)) →
      ((saveRun "in/port.toml" target).1, (saveRun "in/port.toml" target).2.workspace.read? target) = (0, some text) →
      Document.EncodedAs target portValue text →
      extension? target ∈ [some "json", some "yaml", some "yml", some "toml"] → Saves target text := by
    intro target text asked shown encoded known
    obtain ⟨code, read⟩ := Prod.ext_iff.mp shown
    exact ⟨_, seen _ target 0 asked code, read, text, read, encoded.decodedAs (portValue_kept target) known⟩
  exact ⟨saves (by decide +kernel) (by decide +kernel) (.yaml (by decide) (by decide +kernel)) (by decide),
    saves (by decide +kernel) (by decide +kernel) (.toml (by decide) (by decide +kernel)) (by decide),
    saves (by decide +kernel) (by decide +kernel) (.json (by decide) (by decide +kernel)) (by decide),
    ⟨_, seen "in/none.yaml" "out/clean.toml" 99 (by decide +kernel) (by decide +kernel), by decide +kernel⟩,
    ⟨_, seen "in/none.yaml" "out/.." 1 (by decide +kernel) (by decide +kernel), by decide +kernel⟩⟩

end Command

end Conform
