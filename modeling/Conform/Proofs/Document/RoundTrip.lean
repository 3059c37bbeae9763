import Conform.Proofs.Command.FrontEnd
import Conform.Proofs.Document.Encoding
import Conform.Proofs.Files.Write
import Conform.Proofs.Json.Pretty

namespace Conform.Document
open Files Conform.Action

-- A name without an extension, so the text that is typed in never stands for a file of a known format.
theorem extension?_of_isName {path : String} (named : isName path inputName = true) : extension? path = none := by
  unfold isName at named
  unfold extension?
  cases last : splitLast? path with
  | none => rfl
  | some found =>
      obtain ⟨before, name⟩ := found
      rw [last] at named
      simp only [Bool.and_eq_true, beq_iff_eq] at named
      obtain ⟨rfl, _⟩ := named
      rfl

-- What is at a path that had its document saved as JSON, and what comes of reading it.
structure Kept (path : String) (value : Json) (session later : Session) : Prop where
  text : later.workspace.read? path = some (value.toPrettyText ++ "\n")
  parsed : Json.parse? (value.toPrettyText ++ "\n") = some value
  json : extension? path = some "json" → runIn (load path) later = (.ok value, later)
  typed : isName path inputName = true → runIn (load path) later = (parseTyped session.input, { later with input := "" })
  refused : isName path inputName = false → extension? path ≠ some "json" →
    runIn (load path) later = (.error (.wrongFormat path none), later)

section Saved
variable {path : String} (extension : ∀ known ∈ ["yaml", "yml", "toml"], extension? path ≠ some known) {value : Json}
  {session later : Session}
include extension

theorem runIn_save_json (saved : runIn (save path value) session = (.ok (), later)) :
    ∃ workspace, session.workspace.write path (value.toPrettyText ++ "\n") = (true, workspace) ∧
      later = { session with workspace } := by
  rw [Session.runIn_save, encode_of_encodedAs (.json extension rfl)] at saved
  dsimp only at saved
  split at saved
  · rename_i workspace wrote
    cases saved
    exact ⟨workspace, wrote, rfl⟩
  · cases saved

theorem saved_is_kept {room : Nat} (fits : Json.Exact room value) (small : room ≤ Json.Stage.depthLimit)
    (saved : runIn (save path value) session = (.ok (), later)) :
    Kept path value session later := by
  obtain ⟨workspace, wrote, rfl⟩ := runIn_save_json extension saved
  obtain ⟨place, written⟩ := Workspace.exists_written wrote
  have parsed := Json.parse?_toPrettyText fits small
  have filed : ∀ named : isName path inputName = false, runIn (load path) { session with workspace } =
      (parse path (value.toPrettyText ++ "\n"), { session with workspace }) := by
    intro named
    rw [Session.runIn_load, Session.document_of_read _ named written.read, Session.reading_of_not_named _ named]
  refine ⟨written.read, parsed, fun json => ?_, fun named => ?_, fun named other => ?_⟩
  · have named : isName path inputName = false := by
      by_contra typed
      rw [extension?_of_isName (by simpa using typed)] at json
      cases json
    rw [filed named]
    exact congrArg (·, _) (parse_eq_ok_iff.mpr (.json json parsed))
  · rw [Session.runIn_load, Session.document, Session.reading, if_pos named, if_pos named]
  · rw [filed named, parse, Format.ofPath?_eq_none (List.forall_mem_cons.mpr ⟨other, extension⟩)]

end Saved

def portDocument : Json := .object [("port", .number (.integer 80 (by decide))), ("hosts", .array [.string "a", .null])]

theorem exact_portDocument (room : Nat) : Json.Exact (room + 2) portDocument := by
  refine .object (by decide) (List.forall_mem_cons.mpr ⟨.integer, List.forall_mem_singleton.mpr (.array ?_)⟩)
  exact List.forall_mem_cons.mpr ⟨.string, List.forall_mem_singleton.mpr .null⟩

def nowhere : Session := ⟨.empty [], "", "", ""⟩

theorem port_document_kept : ∃ later, runIn (save "out/port.json" portDocument) nowhere = (.ok (), later) ∧
    Kept "out/port.json" portDocument nowhere later ∧ runIn (load "out/port.json") later = (.ok portDocument, later) := by
  have saved : runIn (save "out/port.json" portDocument) nowhere =
      (.ok (), (runIn (save "out/port.json" portDocument) nowhere).2) := Prod.ext rfl rfl
  have kept := saved_is_kept (by decide) (exact_portDocument 98) (by decide) saved
  exact ⟨_, saved, kept, kept.json (by decide)⟩

-- What is saved as JSON because its path tells of no format is refused when it is read, for the same reason.
theorem port_text_refused : ¬ ∀ (path : String) (value : Json) (session later : Session), isAbsolute path = false →
    (∀ known ∈ ["yaml", "yml", "toml"], extension? path ≠ some known) → Json.Exact 100 value →
    runIn (save path value) session = (.ok (), later) → (runIn (load path) later).1 = .ok value := by
  intro reads
  have saved : runIn (save "port.txt" portDocument) nowhere =
      (.ok (), (runIn (save "port.txt" portDocument) nowhere).2) := Prod.ext rfl rfl
  have read := reads _ _ _ _ (by decide) (by decide) (exact_portDocument 98) saved
  have refused : (runIn (load "port.txt") (runIn (save "port.txt" portDocument) nowhere).2).1 =
      .error (.wrongFormat "port.txt" none) := rfl
  rw [refused] at read
  cases read

end Conform.Document
