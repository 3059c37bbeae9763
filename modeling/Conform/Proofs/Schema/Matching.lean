import Conform.Proofs.Schema.Chain

namespace Conform

-- A coercion that writes down that it ran.
def TypeEntry.traced (entry : TypeEntry) (value : Json) : StateM (List TypeEntry) (Option Json) :=
  fun trace => (entry.coerce value, trace ++ [entry])

namespace Schema.Rule
open Conform.Leaf Registry

section Asking
variable {m : Type → Type} [Monad m] (ask : TypeEntry → Json → m (Option Json))

-- Null is looked for only at its time, and only where the leaf takes it.
def isNullIn (rule : Rule) (value : Json) (now : Bool) : m Bool :=
  if now && rule.nullable then Option.isSome <$> ask rule.nullEntry value else pure false

-- The search for a type, which learns of coercions only what it asks for.
def matchTypesIn (rule : Rule) (value : Json) : List (String × TypeEntry) → m Match
  | [] => pure .refused
  | (_, entry) :: rest => do
      if ← rule.isNullIn ask value (!entry.nullAfter) then pure .null
      else match ← ask entry value with
        | some canonical => pure (.coerced canonical)
        | none => if ← rule.isNullIn ask value entry.nullAfter then pure .refused else matchTypesIn rule value rest

end Asking

-- The entries whose coercions run, in order.
def asked (rule : Rule) (value : Json) : List TypeEntry :=
  ((rule.matchTypesIn TypeEntry.traced value rule.types).run []).2

section Traces
variable (rule : Rule) (value : Json) (trace : List TypeEntry)

theorem run_then (step : StateM σ α) (next : α → StateM σ β) (state : σ) :
    (step >>= next).run state = (next (step.run state).1).run (step.run state).2 := rfl

theorem run_traced (entry : TypeEntry) : (entry.traced value).run trace = (entry.coerce value, trace ++ [entry]) := rfl

theorem run_isNullIn (now : Bool) :
    (rule.isNullIn TypeEntry.traced value now).run trace =
      (now && rule.isNull value, trace ++ if now && rule.nullable then [rule.nullEntry] else []) := by
  unfold isNullIn isNull
  cases now with
  | false => simp only [Bool.false_and, Bool.false_eq_true, if_false, List.append_nil]; rfl
  | true =>
      cases rule.nullable with
      | false => simp only [Bool.true_and, Bool.false_and, Bool.false_eq_true, if_false, List.append_nil]; rfl
      | true => rfl

theorem run_matchTypesIn_cons (name : String) (entry : TypeEntry) (rest : List (String × TypeEntry)) :
    (rule.matchTypesIn TypeEntry.traced value ((name, entry) :: rest)).run trace =
      let before := trace ++ if !entry.nullAfter && rule.nullable then [rule.nullEntry] else []
      let after := before ++ [entry] ++ if entry.nullAfter && rule.nullable then [rule.nullEntry] else []
      if !entry.nullAfter && rule.isNull value then (.null, before)
      else match entry.coerce value with
        | some canonical => (.coerced canonical, before ++ [entry])
        | none =>
            if entry.nullAfter && rule.isNull value then (.refused, after)
            else (rule.matchTypesIn TypeEntry.traced value rest).run after := by
  rw [matchTypesIn, run_then, run_isNullIn]
  dsimp only
  split
  · rfl
  · rw [run_then, run_traced]
    dsimp only
    cases entry.coerce value with
    | some canonical => rfl
    | none =>
        dsimp only
        rw [run_then, run_isNullIn]
        dsimp only
        split
        · rfl
        · rfl

theorem run_matchTypesIn (types : List (String × TypeEntry)) :
    ((rule.matchTypesIn TypeEntry.traced value types).run trace).1 = rule.matchTypes value types := by
  induction types generalizing trace with
  | nil => rfl
  | cons first rest ih =>
      obtain ⟨name, entry⟩ := first
      rw [run_matchTypesIn_cons, matchTypes]
      dsimp only
      split
      · rfl
      · cases entry.coerce value with
        | some canonical => rfl
        | none =>
            dsimp only
            split
            · rfl
            · exact ih _

end Traces

-- What becomes of a value that stands for null, and who was asked about it.
theorem matchTypesIn_null {rule : Rule} {value : Json} (nullable : rule.nullable = true)
    (null : (rule.nullEntry.coerce value).isSome = true) (name : String) (entry : TypeEntry)
    (rest : List (String × TypeEntry)) :
    (rule.matchTypesIn TypeEntry.traced value ((name, entry) :: rest)).run [] =
      if entry.nullAfter then
        match entry.coerce value with
        | some canonical => (.coerced canonical, [entry])
        | none => (.refused, [entry, rule.nullEntry])
      else (.null, [rule.nullEntry]) := by
  have nulled : rule.isNull value = true := by simp [isNull, nullable, null]
  rw [run_matchTypesIn_cons, nulled, nullable]
  cases entry.nullAfter with
  | true => cases entry.coerce value <;> rfl
  | false => rfl

theorem matchTypes_eq_findSome? {rule : Rule} {value : Json} (other : rule.isNull value = false)
    (types : List (String × TypeEntry)) :
    rule.matchTypes value types = (types.findSome? (·.2.coerce value)).elim .refused .coerced := by
  induction types with
  | nil => rfl
  | cons first rest ih =>
      obtain ⟨name, entry⟩ := first
      rw [matchTypes, other, List.findSome?_cons]
      cases entry.coerce value with
      | some canonical => simp
      | none => simpa using ih

theorem firstMatch?_eq_findSome? (types : Table TypeEntry) (names : List String) (value : Json) :
    firstMatch? types names value = (successes (names.map (lookUp types))).findSome? (·.2.coerce value) := by
  induction names with
  | nil => rfl
  | cons name rest ih =>
      unfold firstMatch? at ih ⊢
      rw [List.findSome?_cons, List.map_cons, ih]
      unfold lookUp
      cases types.get? name with
      | none => rfl
      | some entry => rfl

theorem lookUp_eq_ok {types : Table TypeEntry} {name : String} {row : String × TypeEntry} :
    lookUp types name = .ok row ↔ ∃ entry, types.get? name = some entry ∧ row = (name, entry) := by
  unfold lookUp
  cases types.get? name with
  | none => simp
  | some entry => simp [eq_comm]

theorem apply_of_plain {rule : Rule} (plain : rule.transforms = []) (value : Json) :
    rule.apply value = match rule.matchTypes value rule.types with
      | .null => .ok .null
      | .coerced canonical => .ok canonical
      | .refused => .error (rule.mismatch value) := by
  unfold apply
  rw [plain]
  cases rule.matchTypes value rule.types <;> rfl

end Schema.Rule

namespace Schema
open Conform.Leaf Registry

theorem leaf_agrees_with_multiCheck {registry : Registry} {text : String} {rule : Rule} (plain : '@' ∉ text.toList)
    (compiled : Rule.compile registry text = .ok rule) (value : Json) :
    ∃ leaf, Leaf.read text = .ok leaf ∧
      (¬ (leaf.nullable = true ∧ isNull registry.types value = true) →
        (∀ result, rule.apply value = .ok result ↔ multiCheck registry.types leaf.candidates value = .ok result) ∧
        ((∃ report, rule.apply value = .error report) ↔
          ∃ refusal, multiCheck registry.types leaf.candidates value = .error refusal)) ∧
      (leaf.nullable = true ∧ isNull registry.types value = true →
        ∃ first rest entry, leaf.candidates = first :: rest ∧ registry.types.get? first = some entry ∧
          (entry.nullAfter = false →
            rule.apply value = .ok .null ∧ rule.asked value = [nullEntry registry.types]) ∧
          (entry.nullAfter = true →
            (∀ result, entry.coerce value = some result → rule.apply value = .ok result ∧ rule.asked value = [entry]) ∧
            (entry.coerce value = none → (∃ report, rule.apply value = .error report) ∧
              rule.asked value = [entry, nullEntry registry.types]))) := by
  obtain ⟨leaf, read, named, found, types, nullable, nullEntry, transforms⟩ := Rule.parts_of_compile compiled
  have calls : leaf.calls = [] := by
    have whole := readPartial_types plain
    rw [read] at whole
    cases whole
    rfl
  rw [calls] at transforms
  have applied := Rule.apply_of_plain transforms value
  have null : rule.isNull value = (leaf.nullable && isNull registry.types value) := by
    rw [Rule.isNull, nullable, nullEntry]
    rfl
  refine ⟨leaf, by rw [Leaf.read, read], fun other => ?_, fun nulled => ?_⟩
  · have unread : rule.isNull value = false := by
      rw [null, Bool.eq_false_iff, ne_eq, Bool.and_eq_true]
      exact other
    rw [Rule.matchTypes_eq_findSome? unread, types, ← Rule.firstMatch?_eq_findSome?] at applied
    rw [applied, multiCheck]
    cases firstMatch? registry.types leaf.candidates value with
    | none => simp
    | some canonical => simp
  · cases candidates : leaf.candidates with
    | nil => exact absurd candidates named
    | cons first rest =>
        rw [candidates] at found types
        obtain ⟨row, looked⟩ := Rule.failures_eq_nil.mp found _ (List.mem_cons_self ..)
        obtain ⟨entry, there, rfl⟩ := Rule.lookUp_eq_ok.mp looked
        rw [List.map_cons, looked] at types
        have listed : rule.types = (first, entry) :: Rule.successes (rest.map (Rule.lookUp registry.types)) := types
        have accepts : (rule.nullEntry.coerce value).isSome = true := by
          rw [nullEntry]
          exact nulled.2
        have search := Rule.matchTypesIn_null (nullable.trans nulled.1) accepts first entry
          (Rule.successes (rest.map (Rule.lookUp registry.types)))
        rw [← listed] at search
        refine ⟨first, rest, entry, rfl, there, fun before => ?_, fun after => ?_⟩
        · rw [if_neg (by simp [before])] at search
          rw [applied, Rule.asked, ← Rule.run_matchTypesIn rule value [], search, nullEntry]
          exact ⟨rfl, rfl⟩
        · rw [if_pos after] at search
          rw [applied, Rule.asked, ← Rule.run_matchTypesIn rule value [], search, nullEntry]
          cases entry.coerce value with
          | none => exact ⟨by simp, fun _ => ⟨⟨_, rfl⟩, rfl⟩⟩
          | some canonical => exact ⟨by simp, by simp⟩

-- A type that looks for null after itself, and takes only longer texts.
def strict : TypeEntry where
  coerce
    | .string text => if 3 < text.length then some (.string text) else none
    | _ => none
  nullAfter := true

def strictRegistry : Registry := { builtin with types := builtin.types.insert "strict" strict }

-- An empty text would do as a string, which is not asked; a short one is no null, and gets there.
theorem strict_stops_on_null : '@' ∉ "strict|string|null".toList ∧
    ∃ rule, Rule.compile strictRegistry "strict|string|null" = .ok rule ∧
      (∃ report, rule.apply (.string "") = .error report) ∧ rule.asked (.string "") = [strict, ⟨Coercion.null, true⟩] ∧
      rule.apply (.string "abc") = .ok (.string "abc") := by
  have plain : '@' ∉ "strict|string|null".toList := by decide
  have read : readPartial "strict|string|null" = (⟨["strict", "string"], true, []⟩, none) := by decide +kernel
  have compiled : Rule.compile strictRegistry "strict|string|null" =
      .ok ⟨[("strict", strict), ("string", ⟨Coercion.string, false⟩)], true, ⟨Coercion.null, true⟩, [],
        "strict|string|null"⟩ := by
    rw [Rule.compile_of_read read (by decide)]
    rfl
  obtain ⟨leaf, whole, _, onNull⟩ := leaf_agrees_with_multiCheck plain compiled (.string "")
  obtain ⟨_, same, onOther, _⟩ := leaf_agrees_with_multiCheck plain compiled (.string "abc")
  rw [Leaf.read, read] at whole same
  cases whole
  cases same
  obtain ⟨_, _, entry, listed, found, _, after⟩ := onNull ⟨rfl, by decide +kernel⟩
  cases listed
  have first : strictRegistry.types.get? "strict" = some strict := rfl
  cases first.symm.trans found
  obtain ⟨_, refused⟩ := after rfl
  obtain ⟨rejected, trace⟩ := refused rfl
  have checked : multiCheck strictRegistry.types ["strict", "string"] (.string "abc") = .ok (.string "abc") := rfl
  refine ⟨plain, _, compiled, rejected, trace, ?_⟩
  exact ((onOther (by decide +kernel)).1 _).mpr checked

end Schema
end Conform
