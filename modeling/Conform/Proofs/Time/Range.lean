import Conform.Number.Binary64
import Conform.Time.Reader

namespace Conform.Time
open Binary64 (safe)

theorem first_day : (Date.mk Date.firstYear 1 1).dayNumber = -96465292 := by decide

theorem last_day : (Date.mk Date.lastYear 12 31).dayNumber = 95026236 := by decide

-- The day in UTC is within the calendar, and no field of a clock reaches past the day.
theorem epochMilliseconds?_le {date : Date} {clock : Clock} {offset : Int} (small : clock.nanosecond < 1000000000) :
    ∀ ms ∈ epochMilliseconds? date clock offset, ms.natAbs ≤ safe := by
  intro ms read
  unfold epochMilliseconds? at read
  dsimp only at read
  rw [first_day, last_day] at read
  split at read
  · rename_i valid
    simp only [Clock.isValid, Bool.and_eq_true, decide_eq_true_eq] at valid
    have minute : clock.second.min 59 ≤ 59 := Nat.min_le_right _ _
    cases read
    simp only [Clock.milliseconds, safe]
    omega
  · cases read

theorem foldl_digits_lt {digits : List Char} (all : ∀ c ∈ digits, c.isDigit = true) (start : Nat) :
    digits.foldl (fun value c => 10 * value + (c.toNat - '0'.toNat)) start <
      (start + 1) * Nat.pow 10 digits.length := by
  induction digits generalizing start with
  | nil => simp
  | cons c rest ih =>
      rw [List.forall_mem_cons] at all
      have digit : c.toNat - '0'.toNat ≤ 9 := by
        have top : c.toNat ≤ 57 := (Char.isDigit_iff_toNat.mp all.1).2
        show c.toNat - 48 ≤ 9
        omega
      have shifted : Nat.pow 10 (rest.length + 1) = 10 * Nat.pow 10 rest.length := Nat.pow_succ'
      rw [List.foldl_cons, List.length_cons, shifted, ← Nat.mul_assoc]
      refine Nat.lt_of_lt_of_le (ih all.2 _) (Nat.mul_le_mul_right _ ?_)
      omega

theorem number_eq_some {least most : Nat} {text rest : List Char} {value : Nat}
    (read : number least most text = some (value, rest)) :
    ∃ count ≤ most, value < Nat.pow 10 count ∧ text.length - rest.length = count := by
  unfold number at read
  dsimp only at read
  split at read
  · cases read
  · cases read
    have taken : ((text.take most).takeWhile Char.isDigit).length ≤ (text.take most).length :=
      (List.takeWhile_sublist _).length_le
    rw [List.length_take] at taken
    refine ⟨((text.take most).takeWhile Char.isDigit).length, by omega, ?_, ?_⟩
    · have all : ∀ c ∈ (text.take most).takeWhile Char.isDigit, c.isDigit = true :=
        List.all_eq_true.mp List.all_takeWhile
      simpa using foldl_digits_lt all 0
    · rw [List.length_drop]
      omega

theorem fraction_lt {text : List Char} : ∀ step ∈ fraction text, step.1 < 1000000000 := by
  intro step read
  obtain ⟨⟨value, rest⟩, digits, same⟩ := Option.bind_eq_some_iff.mp read
  cases same
  obtain ⟨count, few, less, length⟩ := number_eq_some digits
  have total : Nat.pow 10 count * Nat.pow 10 (9 - count) = 1000000000 := by
    have sum := Nat.pow_add 10 count (9 - count)
    rw [show count + (9 - count) = 9 by omega] at sum
    exact sum.symm
  rw [length]
  calc value * Nat.pow 10 (9 - count)
      < Nat.pow 10 count * Nat.pow 10 (9 - count) := Nat.mul_lt_mul_of_pos_right less (Nat.pow_pos (by decide))
    _ = 1000000000 := total

theorem optionalFraction_lt {text : List Char} : ∀ step ∈ optionalFraction text, step.1 < 1000000000 := by
  intro step read
  unfold optionalFraction at read
  split at read
  · exact fraction_lt step read
  · cases read
    exact Nat.pow_pos (n := 9) (show 0 < 10 by decide)

-- A reader that ends in a point in time keeps whatever holds of the points that its last step makes.
section Reading
variable {P : Int → Prop}

theorem forall_mem_bind {first : Option α} {next : α → Option Int} (each : ∀ a ∈ first, ∀ ms ∈ next a, P ms) :
    ∀ ms ∈ first.bind next, P ms := by
  intro ms read
  obtain ⟨a, here, there⟩ := Option.bind_eq_some_iff.mp read
  exact each a here ms there

theorem forall_mem_ite {guard : Bool} {outcome : Option Int} (each : ∀ ms ∈ outcome, P ms) :
    ∀ ms ∈ (if guard then outcome else none), P ms := by
  intro ms read
  split at read
  · exact each ms read
  · cases read

theorem forall_mem_or {first second : Option Int} (left : ∀ ms ∈ first, P ms) (right : ∀ ms ∈ second, P ms) :
    ∀ ms ∈ first.or second, P ms := by
  intro ms read
  cases first with
  | some _ => exact left ms read
  | none => exact right ms read

end Reading

theorem readInternet_le (text : List Char) : ∀ ms ∈ readInternet text, ms.natAbs ≤ safe := by
  unfold readInternet
  refine forall_mem_bind fun ⟨date, text⟩ _ => ?_
  refine forall_mem_bind fun ⟨_, text⟩ _ => ?_
  refine forall_mem_bind fun ⟨hour, text⟩ _ => ?_
  refine forall_mem_bind fun ⟨_, text⟩ _ => ?_
  refine forall_mem_bind fun ⟨minute, text⟩ _ => ?_
  refine forall_mem_bind fun ⟨_, text⟩ _ => ?_
  refine forall_mem_bind fun ⟨second, text⟩ _ => ?_
  refine forall_mem_bind fun ⟨nanosecond, text⟩ read => ?_
  refine forall_mem_bind fun ⟨offset, text⟩ _ => ?_
  exact forall_mem_ite (epochMilliseconds?_le (optionalFraction_lt _ read))

theorem readMail_le (text : List Char) : ∀ ms ∈ readMail text, ms.natAbs ≤ safe := by
  unfold readMail
  refine forall_mem_bind fun ⟨weekday, text⟩ _ => ?_
  refine forall_mem_bind fun ⟨day, text⟩ _ => ?_
  refine forall_mem_bind fun ⟨_, text⟩ _ => ?_
  refine forall_mem_bind fun ⟨month, text⟩ _ => ?_
  refine forall_mem_bind fun ⟨_, text⟩ _ => ?_
  refine forall_mem_bind fun ⟨year, after⟩ _ => ?_
  refine forall_mem_bind fun ⟨_, text⟩ _ => ?_
  refine forall_mem_bind fun ⟨hour, text⟩ _ => ?_
  refine forall_mem_bind fun ⟨_, text⟩ _ => ?_
  refine forall_mem_bind fun ⟨minute, text⟩ _ => ?_
  refine forall_mem_bind fun ⟨second, text⟩ _ => ?_
  refine forall_mem_bind fun ⟨_, text⟩ _ => ?_
  refine forall_mem_bind fun ⟨offset, text⟩ _ => ?_
  exact forall_mem_ite (epochMilliseconds?_le (show 0 < 1000000000 by decide))

theorem readPlain_le (separator : Step Unit) (withSeconds : Bool) (text : List Char) :
    ∀ ms ∈ readPlain separator withSeconds text, ms.natAbs ≤ safe := by
  unfold readPlain
  refine forall_mem_bind fun ⟨date, text⟩ _ => ?_
  refine forall_mem_bind fun ⟨_, text⟩ _ => ?_
  refine forall_mem_bind fun ⟨hour, text⟩ _ => ?_
  refine forall_mem_bind fun ⟨_, text⟩ _ => ?_
  refine forall_mem_bind fun ⟨minute, text⟩ _ => ?_
  cases withSeconds with
  | true =>
      refine forall_mem_bind fun ⟨second, text⟩ _ => ?_
      refine forall_mem_bind fun ⟨nanosecond, text⟩ read => ?_
      exact forall_mem_ite (epochMilliseconds?_le (optionalFraction_lt _ read))
  | false => exact forall_mem_ite (epochMilliseconds?_le (show 0 < 1000000000 by decide))

theorem readDate_le (text : List Char) : ∀ ms ∈ readDate text, ms.natAbs ≤ safe := by
  unfold readDate
  refine forall_mem_bind fun ⟨date, text⟩ _ => ?_
  exact forall_mem_ite (epochMilliseconds?_le (by decide))

theorem readMilliseconds?_le (text : List Char) : ∀ ms ∈ readMilliseconds? text, ms.natAbs ≤ safe := by
  unfold readMilliseconds?
  refine forall_mem_or ?_ (readDate_le text)
  refine forall_mem_or ?_ (readPlain_le anyBlanks false text)
  refine forall_mem_or ?_ (readPlain_le letterT false text)
  refine forall_mem_or ?_ (readPlain_le anyBlanks true text)
  refine forall_mem_or ?_ (readPlain_le letterT true text)
  exact forall_mem_or (readInternet_le text) (readMail_le text)

end Conform.Time
