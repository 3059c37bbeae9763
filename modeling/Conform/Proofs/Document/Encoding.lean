import Conform.Document.Store

namespace Conform.Document
open Files

variable {path text : String} {value : Json}

namespace Format

theorem ofPath?_yaml (extension : extension? path = some "yaml" ∨ extension? path = some "yml") :
    ofPath? path = some .yaml := by
  rcases extension with known | known <;> simp only [ofPath?, known]

theorem ofPath?_toml (extension : extension? path = some "toml") : ofPath? path = some .toml := by
  simp only [ofPath?, extension]

theorem ofPath?_json (extension : extension? path = some "json") : ofPath? path = some .json := by
  simp only [ofPath?, extension]

theorem ofPath?_eq_none (extension : ∀ known ∈ ["json", "yaml", "yml", "toml"], extension? path ≠ some known) :
    ofPath? path = none := by
  simp only [List.forall_mem_cons] at extension
  unfold ofPath?
  split <;> simp_all

theorem ofPath?_getD (extension : ∀ known ∈ ["yaml", "yml", "toml"], extension? path ≠ some known) :
    (ofPath? path).getD .json = .json := by
  simp only [List.forall_mem_cons] at extension
  unfold ofPath?
  split <;> simp_all

-- The extensions that tell of a format.
theorem extension?_of_ofPath? {format : Format} (told : ofPath? path = some format) : match format with
    | .json => extension? path = some "json"
    | .yaml => extension? path = some "yaml" ∨ extension? path = some "yml"
    | .toml => extension? path = some "toml" := by
  unfold ofPath? at told
  split at told <;> cases told
  all_goals simp_all

end Format

variable [Codecs]

-- The value of a text at a path. A path that tells of no format has none.
inductive DecodedAs (path text : String) (value : Json) : Prop
  | json (extension : extension? path = some "json") (read : Codecs.readJson? text = some value)
  | yaml (extension : extension? path = some "yaml" ∨ extension? path = some "yml")
      (read : Codecs.readYaml? text = some value)
  | toml (extension : extension? path = some "toml") (read : Codecs.readToml? text = some value)

-- The text of a value at a path, which is JSON where it is neither YAML nor TOML.
inductive EncodedAs (path : String) (value : Json) (text : String) : Prop
  | yaml (extension : extension? path = some "yaml" ∨ extension? path = some "yml")
      (written : Codecs.writeYaml? value = some text)
  | toml (extension : extension? path = some "toml") (written : Codecs.writeToml? value = some text)
  | json (extension : ∀ known ∈ ["yaml", "yml", "toml"], extension? path ≠ some known)
      (written : text = value.toPrettyText ++ "\n")

-- The format of a path gives this value back from the text that it has for it.
structure Keeps (path : String) (value : Json) : Prop where
  json : extension? path = some "json" → Codecs.readJson? (value.toPrettyText ++ "\n") = some value
  yaml : extension? path = some "yaml" ∨ extension? path = some "yml" →
    ∀ text, Codecs.writeYaml? value = some text → Codecs.readYaml? text = some value
  toml : extension? path = some "toml" →
    ∀ text, Codecs.writeToml? value = some text → Codecs.readToml? text = some value

theorem EncodedAs.decodedAs (encoded : EncodedAs path value text) (keeps : Keeps path value)
    (known : extension? path ∈ [some "json", some "yaml", some "yml", some "toml"]) : DecodedAs path text value := by
  cases encoded with
  | yaml extension written => exact .yaml extension (keeps.yaml extension text written)
  | toml extension written => exact .toml extension (keeps.toml extension text written)
  | json extension written =>
      have json : extension? path = some "json" := by simp_all
      rw [written]
      exact .json json (keeps.json json)

theorem parse_eq_ok_iff : parse path text = .ok value ↔ DecodedAs path text value := by
  constructor
  · intro parsed
    unfold parse at parsed
    split at parsed
    · cases parsed
    · rename_i format told
      have extension := Format.extension?_of_ofPath? told
      split at parsed
      · rename_i read
        cases parsed
        cases format with
        | json => exact .json extension read
        | yaml => exact .yaml extension read
        | toml => exact .toml extension read
      · cases parsed
  · rintro (⟨extension, read⟩ | ⟨extension, read⟩ | ⟨extension, read⟩)
    · simp only [parse, Format.ofPath?_json extension, Format.parse?, read]
    · simp only [parse, Format.ofPath?_yaml extension, Format.parse?, read]
    · simp only [parse, Format.ofPath?_toml extension, Format.parse?, read]

theorem exists_of_parse_error {failure : Failure} (failed : parse path text = .error failure) :
    ∃ expected, failure = .wrongFormat path expected := by
  unfold parse at failed
  split at failed
  · cases failed
    exact ⟨none, rfl⟩
  · split at failed
    · cases failed
    · cases failed
      exact ⟨_, rfl⟩

theorem encode_of_encodedAs (encoded : EncodedAs path value text) : encode path value = .ok text := by
  unfold encode
  cases encoded with
  | yaml extension written => simp only [Format.ofPath?_yaml extension, Option.getD_some, Format.write?, written]
  | toml extension written => simp only [Format.ofPath?_toml extension, Option.getD_some, Format.write?, written]
  | json extension written => simp only [Format.ofPath?_getD extension, Format.write?, written]

theorem encodedAs_of_encode (encoded : encode path value = .ok text) : EncodedAs path value text := by
  unfold encode at encoded
  dsimp only at encoded
  split at encoded
  · rename_i written
    cases encoded
    by_cases yaml : extension? path = some "yaml" ∨ extension? path = some "yml"
    · rw [Format.ofPath?_yaml yaml] at written
      exact .yaml yaml written
    · by_cases toml : extension? path = some "toml"
      · rw [Format.ofPath?_toml toml] at written
        exact .toml toml written
      · have other : ∀ known ∈ ["yaml", "yml", "toml"], extension? path ≠ some known := by
          rw [not_or] at yaml
          simp [yaml, toml]
        rw [Format.ofPath?_getD other] at written
        exact .json other (Option.some.inj written).symm
  · cases encoded

end Conform.Document
