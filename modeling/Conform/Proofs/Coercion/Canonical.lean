import Conform.Proofs.Coercion.Null
import Conform.Proofs.Number.Whole
import Conform.Proofs.Time.Range

namespace Conform.Coercion

-- What a coercion returns it takes again, as it is.
def Idempotent (coerce : Coercion) : Prop :=
  ∀ value canonical, coerce value = some canonical → coerce canonical = some canonical

-- Null comes from what stands for null, and from nothing else.
def SparesNull (coerce : Coercion) : Prop :=
  ∀ value canonical, null value = none → coerce value = some canonical → null canonical = none

-- Null itself comes from what stands for null, though a text that stands for more may be read as an empty list.
def KeepsNull (coerce : Coercion) : Prop := ∀ value, coerce value = some .null → StandsForNull value

theorem SparesNull.keepsNull {coerce : Coercion} (spares : SparesNull coerce) : KeepsNull coerce := by
  intro value accepted
  rw [← null_isSome_iff]
  cases known : null value with
  | some canonical => rfl
  | none => cases spares value .null known accepted

-- Coercions whose results are all numbers return nothing that stands for null.
def Numeric (coerce : Coercion) : Prop :=
  ∀ value canonical, coerce value = some canonical → ∃ number, canonical = .number number

theorem Numeric.sparesNull {coerce : Coercion} (numeric : Numeric coerce) : SparesNull coerce := by
  intro value canonical _ accepted
  obtain ⟨number, rfl⟩ := numeric value canonical accepted
  exact null_number number

theorem float_numeric : Numeric float := by
  intro value canonical accepted
  unfold float at accepted
  split at accepted
  · cases accepted
    exact ⟨_, rfl⟩
  · obtain ⟨x, _, rfl⟩ := Option.map_eq_some_iff.mp accepted
    exact ⟨.ofBinary64 x, rfl⟩

theorem float_idempotent : Idempotent float := by
  intro value canonical accepted
  obtain ⟨number, rfl⟩ := float_numeric value canonical accepted
  rfl

theorem integerOf?_again {number : Number} {canonical : Json} (accepted : integerOf? number = some canonical) :
    ∃ stored, canonical = .number stored ∧ integerOf? stored = some canonical := by
  cases number with
  | integer value inRange => cases accepted; exact ⟨_, rfl, rfl⟩
  | float x =>
      rw [integerOf?] at accepted
      split at accepted
      · rename_i whole
        cases accepted
        refine ⟨_, rfl, ?_⟩
        rcases Number.ofBinary64_cases x with ⟨_, same⟩ | same
        · rw [Json.ofNumber, same]
          rfl
        · rw [Json.ofNumber, same, integerOf?, if_pos whole, Json.ofNumber, same]
      · cases accepted

theorem int_eq_some {value canonical : Json} :
    int value = some canonical ↔
      ∃ number, float value = some (.number number) ∧ integerOf? number = some canonical := by
  unfold int
  constructor
  · intro accepted
    split at accepted
    · rename_i number read
      exact ⟨number, read, accepted⟩
    · cases accepted
  · intro read
    obtain ⟨number, read, whole⟩ := read
    rw [read]
    exact whole

theorem int_numeric : Numeric int := by
  intro value canonical accepted
  obtain ⟨_, _, whole⟩ := int_eq_some.mp accepted
  obtain ⟨stored, same, _⟩ := integerOf?_again whole
  exact ⟨stored, same⟩

theorem int_idempotent : Idempotent int := by
  intro value canonical accepted
  obtain ⟨_, _, whole⟩ := int_eq_some.mp accepted
  obtain ⟨stored, rfl, again⟩ := integerOf?_again whole
  exact int_eq_some.mpr ⟨stored, rfl, again⟩

theorem unsigned_numeric : Numeric unsigned :=
  fun value canonical accepted => int_numeric value canonical (Option.eq_some_of_filter_eq_some accepted)

theorem unsigned_idempotent : Idempotent unsigned := by
  intro value canonical accepted
  obtain ⟨whole, nonnegative⟩ := Option.filter_eq_some_iff.mp accepted
  exact Option.filter_eq_some_iff.mpr ⟨int_idempotent value canonical whole, nonnegative⟩

theorem any_idempotent : Idempotent any := fun _ _ _ => rfl

theorem any_sparesNull : SparesNull any := by
  intro value canonical absent accepted
  cases accepted
  exact absent

theorem bool_idempotent : Idempotent bool := by
  intro value canonical accepted
  cases accepted
  rfl

theorem bool_sparesNull : SparesNull bool := by
  intro value canonical _ accepted
  cases accepted
  exact null_bool _

theorem string_idempotent : Idempotent string := by
  intro value canonical accepted
  cases accepted
  rfl

theorem string_sparesNull : SparesNull string := by
  intro value canonical absent accepted
  cases accepted
  exact null_text absent

theorem email_eq_some {value canonical : Json} :
    email value = some canonical ↔
      Email.isAddress (Loose.text value).toList = true ∧ canonical = .string (Loose.text value) := by
  unfold email
  dsimp only
  split
  · rename_i address
    simp [address, eq_comm]
  · rename_i other
    simp [other]

theorem email_idempotent : Idempotent email := by
  intro value canonical accepted
  obtain ⟨address, rfl⟩ := email_eq_some.mp accepted
  exact email_eq_some.mpr ⟨address, rfl⟩

theorem email_sparesNull : SparesNull email := by
  intro value canonical absent accepted
  obtain ⟨_, rfl⟩ := email_eq_some.mp accepted
  exact null_text absent

theorem isContainer_of_object {value canonical : Json} (accepted : object value = some canonical) :
    canonical.isContainer = true := by
  cases value with
  | null => cases accepted
  | array | object => cases accepted; rfl
  | _ => exact (Option.filter_eq_some_iff.mp accepted).2

theorem object_idempotent : Idempotent object := by
  intro value canonical accepted
  have container := isContainer_of_object accepted
  cases canonical with
  | array | object => rfl
  | _ => cases container

theorem object_keepsNull : KeepsNull object := by
  intro value accepted
  cases isContainer_of_object accepted

theorem hex_numeric : Numeric hex := by
  intro value canonical accepted
  obtain ⟨x, _, rfl⟩ := Option.map_eq_some_iff.mp accepted
  exact ⟨.ofBinary64 x, rfl⟩

theorem url_keepsNull : KeepsNull url := by
  intro value accepted
  obtain ⟨address, _, same⟩ := Option.map_eq_some_iff.mp accepted
  cases same

theorem null_keepsNull : KeepsNull null := fun _ accepted => (null_eq_some_iff.mp accepted).1

theorem null_idempotent : Idempotent null := by
  intro value canonical accepted
  rw [null_eq_some accepted]
  rfl

theorem wholeOf?_integer {value : Int} (small : value.natAbs ≤ Binary64.safe) :
    wholeOf? (Number.integer value (Number.inRange_of_natAbs_le_safe small)).toBinary64 =
      some (.number (.integer value (Number.inRange_of_natAbs_le_safe small))) := by
  rw [Number.toBinary64, wholeOf?, if_pos (Binary64.isWhole_ofInt _ small), Json.ofNumber,
    Number.ofBinary64_ofInt _ small]

-- A double that is stored as no integer stays as it is; a fraction is dropped below 2^53 only.
theorem wholeOf?_again {x : Binary64} {canonical : Json} (accepted : wholeOf? x = some canonical) :
    ∃ stored, canonical = .number stored ∧ wholeOf? stored.toBinary64 = some canonical := by
  have kept := accepted
  rw [wholeOf?] at accepted
  split at accepted
  · cases accepted
    refine ⟨_, rfl, ?_⟩
    rcases Number.ofBinary64_cases x with ⟨small, same⟩ | same
    · rw [Json.ofNumber, same]
      exact wholeOf?_integer (Binary64.whole_natAbs_le small)
    · rw [same]
      exact kept
  · rename_i fractional
    have small := Binary64.whole_natAbs_le (Binary64.isSafe_of_not_isWhole fractional)
    rw [Number.ofInt?_eq_some small] at accepted
    cases accepted
    exact ⟨_, rfl, wholeOf?_integer small⟩

theorem timestamp_again {value canonical : Json} (accepted : timestamp value = some canonical) :
    ∃ stored, canonical = .number stored ∧ wholeOf? stored.toBinary64 = some canonical := by
  unfold timestamp at accepted
  split at accepted
  · exact wholeOf?_again accepted
  · obtain ⟨ms, read, stored⟩ := Option.bind_eq_some_iff.mp accepted
    have small := Time.readMilliseconds?_le _ ms read
    rw [Number.ofInt?_eq_some small] at stored
    cases stored
    exact ⟨_, rfl, wholeOf?_integer small⟩

theorem timestamp_numeric : Numeric timestamp := by
  intro value canonical accepted
  obtain ⟨stored, same, _⟩ := timestamp_again accepted
  exact ⟨stored, same⟩

theorem timestamp_idempotent : Idempotent timestamp := by
  intro value canonical accepted
  obtain ⟨stored, rfl, again⟩ := timestamp_again accepted
  exact again

end Conform.Coercion
