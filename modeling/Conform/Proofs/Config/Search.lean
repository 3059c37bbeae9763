import Conform.Proofs.Command.Session
import Conform.Proofs.Files.Path

namespace Conform.Config
open Files Conform.Action

-- A name in a folder as it is, and what comes of it without its extension with each of those that schemas have.
def schemasNamed (folder name short : String) : List String :=
  within folder name :: schemaExtensions.map fun extension => within folder (short ++ "." ++ extension)

theorem schemaCandidates_eq (folder : String) {name : String} (component : IsComponent name) :
    schemaCandidates folder name = schemasNamed folder name (stem name) := by
  have single : ∀ extension ∈ schemaExtensions, '/' ∉ extension.toList := by decide
  unfold schemaCandidates schemasNamed
  refine congrArg (within folder name :: ·) (List.map_congr_left fun extension known => ?_)
  exact withExtension_within folder component (single extension known)

-- The first of these paths that is a file, or that there is none for this name.
def firstFile (session : Session) (paths : List String) (name : String) : Except Failure String :=
  match paths.find? session.workspace.isFile with
  | some path => .ok path
  | none => .error (.notFound name)

-- How a name that is no file itself is looked for. Without an extension of its own it gets each of those that schemas
-- have; the extension of any other name gives way to them.
theorem name_resolves_by_stem {config : Config} {folder name : String} {session : Session}
    (given : config.schemas = some folder) (component : IsComponent name)
    (absent : session.workspace.isFile name = false) :
    runIn (config.resolve name) session = (firstFile session (schemasNamed folder name (stem name)) name, session) ∧
    (stem name = name ↔ '.' ∉ name.toList.tail) ∧
    ∀ front last : String, name = front ++ "." ++ last → front ≠ "" → '.' ∉ last.toList → stem name = front := by
  refine ⟨?_, stem_eq_iff, ?_⟩
  · rw [Session.runIn_resolve, Session.schemaPath, Session.candidates, given, List.find?_cons_of_neg (by simp [absent])]
    dsimp only
    rw [schemaCandidates_eq folder component]
    rfl
  · rintro front last rfl filled plain
    exact stem_dotted filled plain

def userSchemas : Session where
  workspace := {
    current := ["work".toList]
    files := [(["work".toList, "schemas".toList, "user.json".toList], "\x7b\"name\": \"string\"\x7d")]
    folders := [[], ["work".toList], ["work".toList, "schemas".toList]] }
  input := ""
  printed := ""
  warned := ""

theorem user_found : runIn (resolve ⟨.human, true, .empty, some "schemas"⟩ "user") userSchemas =
    (firstFile userSchemas (schemasNamed "schemas" "user" (stem "user")) "user", userSchemas) ∧
    firstFile userSchemas (schemasNamed "schemas" "user" (stem "user")) "user" = .ok "schemas/user.json" :=
  ⟨(name_resolves_by_stem rfl ⟨by decide, by decide, by decide⟩ (by decide)).1, by rfl⟩

-- No file has this name, with or without an extension of schemas after it, and yet one is found.
theorem later_version_finds_user :
    (∀ path ∈ schemasNamed "schemas" "user.v1" "user.v1", userSchemas.workspace.isFile path = false) ∧
    runIn (resolve ⟨.human, true, .empty, some "schemas"⟩ "user.v1") userSchemas =
      (.ok "schemas/user.json", userSchemas) := by
  refine ⟨by decide, ?_⟩
  rfl

end Conform.Config
