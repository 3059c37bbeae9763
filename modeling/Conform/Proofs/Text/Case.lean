import Conform.Text.Case

namespace Conform.Text

theorem toNat_toLower (c : Char) :
    c.toLower.toNat = if 65 ≤ c.toNat ∧ c.toNat ≤ 90 then c.toNat + 32 else c.toNat := by
  have capital : c.val ≥ 'A'.val ∧ c.val ≤ 'Z'.val ↔ 65 ≤ c.toNat ∧ c.toNat ≤ 90 := by
    rw [ge_iff_le, UInt32.le_iff_toNat_le, UInt32.le_iff_toNat_le]
    exact Iff.rfl
  unfold Char.toLower
  by_cases large : 65 ≤ c.toNat ∧ c.toNat ≤ 90
  · rw [dif_pos (capital.mpr large), if_pos large]
    show (c.val + ('a'.val - 'A'.val)).toNat = c.toNat + 32
    rw [UInt32.toNat_add, show ('a'.val - 'A'.val).toNat = 32 from rfl, show c.val.toNat = c.toNat from rfl]
    omega
  · rw [dif_neg (mt capital.mp large), if_neg large]

-- The letters of which there is no other capital than that of ASCII; a k is also the lower case of the Kelvin sign.
def PlainLetter (c : Char) : Prop := 97 ≤ c.toNat ∧ c.toNat ≤ 122 ∧ c ≠ 'k'

instance (c : Char) : Decidable (PlainLetter c) := inferInstanceAs (Decidable (_ ∧ _ ∧ _))

-- The capitals of ASCII are a run of their own, and no other run but that of the Kelvin sign leads to ASCII.
theorem lowerRuns_split : ∀ run ∈ lowerRuns,
    (run.first = 65 ∧ run.last = 90 ∧ run.step = 1 ∧ run.offset = 32) ∨
    (128 ≤ run.first ∧ 128 ≤ run.first + run.offset) ∨
    (run.first = 8490 ∧ run.last = 8490 ∧ run.offset = -8383) := by decide +kernel

theorem covers_iff {run : CaseRun} {c : Char} : run.covers c = true ↔
    run.first ≤ c.toNat ∧ c.toNat ≤ run.last ∧ (c.toNat - run.first) % run.step = 0 := by
  simp [CaseRun.covers, and_assoc]

theorem mapped_cases (runs : List CaseRun) (c : Char) :
    (∃ run ∈ runs, run.covers c = true ∧ mapped runs c = Char.ofNat (c.toNat + run.offset).toNat) ∨
    ((∀ run ∈ runs, ¬ run.covers c = true) ∧ mapped runs c = c) := by
  unfold mapped
  cases found : runs.find? (·.covers c) with
  | some run => exact .inl ⟨run, List.mem_of_find?_eq_some found, @List.find?_some _ (CaseRun.covers · c) _ _ found, rfl⟩
  | none => exact .inr ⟨List.find?_eq_none.mp found, rfl⟩

theorem toNat_ofNat_cases (code : Nat) : (Char.ofNat code).toNat = code ∨ (Char.ofNat code).toNat = 0 := by
  by_cases valid : code.isValidChar
  · rw [Char.ofNat, dif_pos valid]
    exact .inl rfl
  · rw [Char.ofNat, dif_neg valid]
    exact .inr rfl

def capitals : CaseRun := ⟨0x41, 0x5A, 1, 32⟩

def smalls : CaseRun := ⟨0x61, 0x7A, 1, -32⟩

-- The first run of a table is that of ASCII.
theorem lowerRuns_beyond : lowerRuns = capitals :: lowerRuns.tail ∧ ∀ run ∈ lowerRuns.tail, 128 ≤ run.first :=
  ⟨rfl, by decide +kernel⟩

theorem upperRuns_beyond : upperRuns = smalls :: upperRuns.tail ∧ ∀ run ∈ upperRuns.tail, 128 ≤ run.first :=
  ⟨rfl, by decide +kernel⟩

theorem upperExpansions_beyond : ∀ entry ∈ upperExpansions, 128 ≤ entry.1 := by decide +kernel

theorem ascii_letters (c : Char) (ascii : c.toNat < 128) :
    (if capitals.covers c = true then Char.ofNat (c.toNat + capitals.offset).toNat else c) = c.toLower ∧
    (if smalls.covers c = true then Char.ofNat (c.toNat + smalls.offset).toNat else c) = c.toUpper := by
  have all : ∀ code < 128, let c := Char.ofNat code
      (if capitals.covers c = true then Char.ofNat (c.toNat + capitals.offset).toNat else c) = c.toLower ∧
      (if smalls.covers c = true then Char.ofNat (c.toNat + smalls.offset).toNat else c) = c.toUpper := by
    decide +kernel
  have known := all c.toNat ascii
  rwa [Char.ofNat_toNat] at known

section Ascii
variable {c : Char} (ascii : c.toNat < 128)
include ascii

theorem mapped_of_ascii {run : CaseRun} {more : List CaseRun} (beyond : ∀ other ∈ more, 128 ≤ other.first) :
    mapped (run :: more) c = if run.covers c = true then Char.ofNat (c.toNat + run.offset).toNat else c := by
  rcases mapped_cases (run :: more) c with ⟨other, within, covered, image⟩ | ⟨missing, image⟩
  · rcases List.mem_cons.mp within with rfl | later
    · rw [image, if_pos covered]
    · have low := (covers_iff.mp covered).1
      have far := beyond other later
      omega
  · rw [image, if_neg (missing run (List.mem_cons_self ..))]

theorem lowerChar_of_ascii : lowerChar c = [c.toLower] := by
  have other : ¬ (c == '\u0130') = true := by
    intro same
    rw [eq_of_beq same] at ascii
    exact absurd ascii (by decide)
  rw [lowerChar, if_neg other, lowerRuns_beyond.1, mapped_of_ascii ascii lowerRuns_beyond.2, (ascii_letters c ascii).1]

theorem upperChar_of_ascii : upperChar c = [c.toUpper] := by
  have plain : upperExpansions.find? (·.1 == c.toNat) = none := by
    refine List.find?_eq_none.mpr fun entry within same => ?_
    have beyond := upperExpansions_beyond entry within
    rw [eq_of_beq same] at beyond
    omega
  rw [upperChar, plain, upperRuns_beyond.1, mapped_of_ascii ascii upperRuns_beyond.2, (ascii_letters c ascii).2]

theorem lowerFrom_cons_of_ascii (before rest : List Char) :
    lowerFrom before (c :: rest) = c.toLower :: lowerFrom (c :: before) rest := by
  have other : ¬ (c == 'Σ') = true := by
    intro same
    rw [eq_of_beq same] at ascii
    exact absurd ascii (by decide)
  rw [lowerFrom, if_neg other, lowerChar_of_ascii ascii, List.singleton_append]

end Ascii

section Beyond
variable {c : Char} (beyond : 128 ≤ c.toNat)
include beyond

theorem exists_not_plain : ∃ d ∈ lowerChar c, ¬ PlainLetter d := by
  unfold lowerChar
  split
  · exact ⟨'\u0307', by decide, by decide⟩
  · refine ⟨_, List.mem_singleton_self _, ?_⟩
    rintro ⟨low, high, other⟩
    rcases mapped_cases lowerRuns c with ⟨run, within, covered, image⟩ | ⟨missing, image⟩
    · rw [covers_iff] at covered
      rw [image] at low high other
      rcases lowerRuns_split run within with capital | ⟨_, far⟩ | ⟨first, last, offset⟩
      · omega
      · rcases toNat_ofNat_cases (c.toNat + run.offset).toNat with same | none <;> omega
      · exact other (by rw [offset, show c.toNat = 8490 by omega]; rfl)
    · rw [image] at high
      omega

theorem exists_not_plain_lowerFrom (before rest : List Char) :
    ∃ d ∈ lowerFrom before (c :: rest), ¬ PlainLetter d := by
  rw [lowerFrom]
  split
  · exact ⟨_, List.mem_cons_self .., by split <;> decide⟩
  · obtain ⟨d, within, rough⟩ := exists_not_plain beyond
    exact ⟨d, List.mem_append_left _ within, rough⟩

end Beyond

theorem lowerFrom_eq_iff {before text word : List Char} (plain : ∀ d ∈ word, PlainLetter d) :
    lowerFrom before text = word ↔ text.map Char.toLower = word := by
  induction text generalizing before word with
  | nil => exact Iff.rfl
  | cons c rest ih =>
      rcases Nat.lt_or_ge c.toNat 128 with ascii | beyond
      · rw [lowerFrom_cons_of_ascii ascii, List.map_cons]
        cases word with
        | nil => exact iff_of_false nofun nofun
        | cons d word =>
            rw [List.cons.injEq, List.cons.injEq, ih fun e within => plain e (List.mem_cons_of_mem d within)]
      · refine iff_of_false (fun same => ?_) (fun same => ?_)
        · obtain ⟨d, within, rough⟩ := exists_not_plain_lowerFrom beyond before rest
          exact rough (plain d (same ▸ within))
        · have letter := plain c.toLower (same ▸ List.mem_cons_self ..)
          have image := toNat_toLower c
          rw [if_neg (by omega)] at image
          exact absurd letter.2.1 (by omega)

theorem lower_eq_iff {text word : List Char} (plain : ∀ d ∈ word, PlainLetter d) :
    lower text = word ↔ text.map Char.toLower = word := lowerFrom_eq_iff plain

section Settled

-- Where a run leads to: from `start` to `stop`, and to every other character there if `stride` is 2.
def CaseRun.start (run : CaseRun) : Nat := (run.first + run.offset).toNat
def CaseRun.stop (run : CaseRun) : Nat := (run.last + run.offset).toNat
def CaseRun.stride (run : CaseRun) : Nat := if run.first = run.last then 2 else run.step

-- In terms that are quick to compute, for the check of all pairs of runs.
def CaseRun.misses (run : CaseRun) (start stop stride : Nat) : Bool :=
  Nat.blt run.last start || Nat.blt stop run.first ||
    (Nat.beq stride 2 && Nat.beq run.step 2 && Nat.beq ((start + run.first) % 2) 1)

theorem lowerRuns_miss : (lowerRuns.all fun run => lowerRuns.all (·.misses run.start run.stop run.stride)) = true := by
  decide +kernel

-- Neither blanks nor the dotted capital I are lower case of another character.
theorem lowerRuns_solid : ∀ run ∈ lowerRuns, 13 < run.start ∧ 0 < run.first + run.offset ∧
    ∀ range ∈ [(32, 32), (0x85, 0x85), (0xA0, 0xA0), (0x130, 0x130), (0x1680, 0x1680), (0x2000, 0x200A),
      (0x2028, 0x2029), (0x202F, 0x202F), (0x205F, 0x205F), (0x3000, 0x3000)],
      run.stop < range.1 ∨ range.2 < run.start := by
  decide +kernel

theorem CaseRun.not_covers {run : CaseRun} {start stop stride : Nat} (missed : run.misses start stop stride = true)
    {c : Char} (low : start ≤ c.toNat) (high : c.toNat ≤ stop) (met : (c.toNat - start) % stride = 0) :
    ¬ run.covers c = true := by
  simp only [misses, Bool.or_eq_true, Bool.and_eq_true, Nat.blt_eq, Nat.beq_eq] at missed
  rw [covers_iff]
  rintro ⟨first, last, step⟩
  rcases missed with (before | after) | ⟨⟨two, every⟩, odd⟩
  · omega
  · omega
  · rw [two] at met
    rw [every] at step
    omega

theorem lowerChar_of_missing {c : Char} (other : c ≠ '\u0130') (missing : ∀ run ∈ lowerRuns, ¬ run.covers c = true) :
    lowerChar c = [c] := by
  rw [lowerChar, if_neg (mt eq_of_beq other)]
  rcases mapped_cases lowerRuns c with ⟨run, within, covered, _⟩ | ⟨_, image⟩
  · exact absurd covered (missing run within)
  · rw [image]

section Image
variable {run : CaseRun} {c d : Char}

-- Where a character of a run ends up within what the run leads to.
theorem CaseRun.image_bounds (covered : run.covers c = true) (positive : 0 < run.first + run.offset)
    (image : d.toNat = (c.toNat + run.offset).toNat) :
    run.start ≤ d.toNat ∧ d.toNat ≤ run.stop ∧ (d.toNat - run.start) % run.stride = 0 := by
  obtain ⟨first, last, step⟩ := covers_iff.mp covered
  have moved : d.toNat - run.start = c.toNat - run.first := by
    unfold start
    omega
  refine ⟨by unfold start; omega, by unfold stop; omega, ?_⟩
  rw [moved, stride]
  split
  · omega
  · exact step

theorem settled_of_image (within : run ∈ lowerRuns) (covered : run.covers c = true)
    (image : d.toNat = (c.toNat + run.offset).toNat) : lowerChar d = [d] ∧ isBlank d = false := by
  obtain ⟨late, positive, solid⟩ := lowerRuns_solid run within
  obtain ⟨low, high, met⟩ := run.image_bounds covered positive image
  simp only [List.forall_mem_cons, List.not_mem_nil, false_implies, implies_true, and_true] at solid
  constructor
  · refine lowerChar_of_missing ?_ fun other listed => ?_
    · rintro rfl
      have code : '\u0130'.toNat = 0x130 := rfl
      omega
    · have missed := List.all_eq_true.mp (List.all_eq_true.mp lowerRuns_miss run within) other listed
      exact CaseRun.not_covers missed low high met
  · simp only [isBlank, Bool.or_eq_false_iff, Bool.and_eq_false_iff, decide_eq_false_iff_not, beq_eq_false_iff_ne]
    omega

end Image

-- Lower case is its own lower case, and is blank only where it is of a blank.
theorem lowerChar_settled {c d : Char} (within : d ∈ lowerChar c) :
    lowerChar d = [d] ∧ (isBlank c = false → isBlank d = false) := by
  unfold lowerChar at within
  split at within
  · simp only [List.mem_cons, List.not_mem_nil, or_false] at within
    rcases within with rfl | rfl
    · exact ⟨by decide +kernel, fun _ => by decide⟩
    · exact ⟨by decide +kernel, fun _ => by decide⟩
  · rename_i other
    cases List.mem_singleton.mp within
    rcases mapped_cases lowerRuns c with ⟨run, listed, covered, image⟩ | ⟨missing, image⟩
    · rw [image]
      rcases toNat_ofNat_cases (c.toNat + run.offset).toNat with same | zero
      · have settled := settled_of_image listed covered same
        exact ⟨settled.1, fun _ => settled.2⟩
      · have nul : Char.ofNat (c.toNat + run.offset).toNat = '\x00' := Char.toNat_inj.mp zero
        rw [nul]
        exact ⟨by decide +kernel, fun _ => by decide⟩
    · rw [image]
      exact ⟨lowerChar_of_missing (fun same => other (beq_iff_eq.mpr same)) missing, id⟩

end Settled
end Conform.Text
