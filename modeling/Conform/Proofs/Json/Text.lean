import Conform.Json.Parser
import Conform.Proofs.Json.Structure
import Conform.Proofs.Number.Text
import Conform.Report.Encoding

namespace Conform

namespace Json

theorem compactItems_eq (items : List Json) : compactItems items = items.map compact := by
  induction items with
  | nil => rfl
  | cons item rest ih => rw [compactItems, ih, List.map_cons]

def compactMember (member : String × Json) : List Char := quote member.1 ++ ':' :: compact member.2

theorem compactMembers_eq (members : Members) : compactMembers members = members.map compactMember := by
  induction members with
  | nil => rfl
  | cons member rest ih => rw [compactMembers, ih, List.map_cons, compactMember]

theorem mem_separated {separator : List Char} {texts : List (List Char)} {c : Char}
    (within : c ∈ separated separator texts) : c ∈ separator ∨ ∃ text ∈ texts, c ∈ text := by
  induction texts with
  | nil => cases within
  | cons first rest ih =>
      cases rest with
      | nil => exact .inr ⟨first, List.mem_singleton_self _, within⟩
      | cons second rest =>
          rw [separated] at within
          · simp only [List.mem_append] at within
            rcases within with (here | between) | later
            · exact .inr ⟨first, List.mem_cons_self .., here⟩
            · exact .inl between
            · rcases ih later with between | ⟨text, there, inside⟩
              · exact .inl between
              · exact .inr ⟨text, List.mem_cons_of_mem _ there, inside⟩
          · simp

-- No line ends, and no other controls.
def Plain (text : List Char) : Prop := ∀ c ∈ text, 0x20 ≤ c.toNat

instance (text : List Char) : Decidable (Plain text) := List.decidableBAll (fun c : Char => 0x20 ≤ c.toNat) text

namespace Plain

theorem append_iff {first second : List Char} : Plain (first ++ second) ↔ Plain first ∧ Plain second :=
  List.forall_mem_append

theorem cons_iff {c : Char} {rest : List Char} : Plain (c :: rest) ↔ 0x20 ≤ c.toNat ∧ Plain rest :=
  List.forall_mem_cons

theorem of_numeric {text : List Char} (numeric : Numeric text) : Plain text := by
  intro c within
  have known := numeric c within
  simp only [isNumeric, Bool.or_eq_true, beq_iff_eq] at known
  rcases known with (((digit | rfl) | rfl) | rfl) | rfl
  · simp only [Char.isDigit, Bool.and_eq_true, decide_eq_true_eq, ge_iff_le, UInt32.le_iff_toNat_le] at digit
    exact Nat.le_trans (by decide) digit.1
  all_goals decide

theorem hexDigit (value : Nat) : 0x20 ≤ (Json.hexDigit value).toNat := by
  unfold Json.hexDigit
  by_cases small : value < 16
  · exact (by decide : ∀ digit < 16, 0x20 ≤ (Nat.digitChar digit).toNat) value small
  · have star : Nat.digitChar value = '*' := by
      rw [Nat.digitChar_eq_star]
      omega
    rw [star]
    decide

theorem escape (c : Char) : Plain (Json.escape c) := by
  unfold Json.escape
  split
  all_goals try decide
  split
  · simp only [cons_iff, hexDigit, true_and]
    decide
  · rename_i printable
    exact cons_iff.mpr ⟨Nat.not_lt.mp printable, by decide⟩

theorem quote (text : String) : Plain (Json.quote text) := by
  unfold Json.quote
  refine append_iff.mpr ⟨cons_iff.mpr ⟨by decide, fun c within => ?_⟩, by decide⟩
  obtain ⟨written, _, inside⟩ := List.mem_flatMap.mp within
  exact escape written c inside

theorem separated {texts : List (List Char)} (each : ∀ text ∈ texts, Plain text) :
    Plain (Json.separated [','] texts) := by
  intro c within
  rcases mem_separated within with between | ⟨text, there, inside⟩
  · rw [List.mem_singleton.mp between]
    decide
  · exact each text there c inside

theorem compact (value : Json) : Plain (Json.compact value) := by
  induction value using Json.induction with
  | null => decide
  | bool value => cases value <;> decide
  | number value => exact of_numeric (Numeric.numberText value)
  | string value => exact quote value
  | array items ih =>
      rw [Json.compact, compactItems_eq]
      refine append_iff.mpr ⟨cons_iff.mpr ⟨by decide, separated ?_⟩, by decide⟩
      exact List.forall_mem_map.mpr ih
  | object members ih =>
      rw [Json.compact, compactMembers_eq]
      refine append_iff.mpr ⟨cons_iff.mpr ⟨by decide, separated ?_⟩, by decide⟩
      refine List.forall_mem_map.mpr fun member within => ?_
      exact append_iff.mpr ⟨quote _, cons_iff.mpr ⟨by decide, ih member within⟩⟩

end Plain

theorem newline_not_mem_toText (value : Json) : '\n' ∉ value.toText.toList := by
  intro within
  rw [toText, String.toList_ofList] at within
  exact absurd (Plain.compact value _ within) (by decide)

namespace Token

-- The first token from a mode on, and what comes after it.
def first? (mode : Mode) : List Char → Option (Token × List Char)
  | [] => none
  | c :: rest =>
      (step mode c).bind fun (next, tokens) =>
        match tokens with
        | [] => first? next rest
        | token :: _ => some (token, rest)

theorem hexValue?_hexDigit : ∀ value < 16, hexValue? (hexDigit value) = some value := by decide

-- What is written of a character is read as that character.
theorem first?_escape (read : List Char) (c : Char) (rest : List Char) :
    first? (.inText read) (escape c ++ rest) = first? (.inText (c :: read)) rest := by
  unfold escape
  split
  all_goals try rfl
  split
  · rename_i control
    have high := hexValue?_hexDigit (c.toNat / 16) (by omega)
    have low := hexValue?_hexDigit (c.toNat % 16) (by omega)
    have zero : hexValue? '0' = some 0 := rfl
    have unit : c.toNat / 16 * 16 + c.toNat % 16 = c.toNat := by omega
    have whole : afterUnit read none c.toNat = some (.inText (c :: read)) := by
      simp only [afterUnit]
      rw [if_neg (by simp; omega), if_neg (by simp; omega), Char.ofNat_toNat]
    simp [first?, step, zero, high, low, unit, whole]
  · rename_i quote backslash _ _ _ _ _ printable
    have quote : c ≠ '"' := quote
    have backslash : c ≠ '\\' := backslash
    simp [first?, step, quote, backslash, printable]

theorem first?_quote (text : String) (rest : List Char) :
    first? .between (quote text ++ rest) = some (.text text, rest) := by
  have body : ∀ (letters read : List Char), first? (.inText read) (letters.flatMap escape ++ '"' :: rest) =
      some (.text (.ofList (read.reverse ++ letters)), rest) := by
    intro letters
    induction letters with
    | nil => simp [first?, step]
    | cons c letters ih =>
        intro read
        rw [List.flatMap_cons, List.append_assoc, first?_escape, ih, List.reverse_cons, List.append_assoc,
          List.singleton_append]
  have opened : first? .between (quote text ++ rest) =
      first? (.inText []) (text.toList.flatMap escape ++ '"' :: rest) := by
    unfold quote
    rw [List.cons_append, List.cons_append, List.append_assoc]
    rfl
  rw [opened, body]
  simp

end Token

section Injective

theorem quote_append_inj {text text' : String} {rest rest' : List Char}
    (same : quote text ++ rest = quote text' ++ rest') : text = text' ∧ rest = rest' := by
  have read := Token.first?_quote text rest
  rw [same, Token.first?_quote] at read
  cases read
  exact ⟨rfl, rfl⟩

-- What may come after a value.
def Follows (rest : List Char) : Prop := ∀ c, rest.head? = some c → isNumeric c = false

theorem Follows.nil : Follows [] := nofun

theorem Follows.cons {c : Char} (other : isNumeric c = false) (rest : List Char) : Follows (c :: rest) := by
  intro c' first
  cases first
  exact other

theorem numberText_append_inj {value value' : Number} {rest rest' : List Char} (follows : Follows rest)
    (follows' : Follows rest') (same : numberText value ++ rest = numberText value' ++ rest') :
    value = value' ∧ rest = rest' := by
  have numeric := Numeric.numberText value
  have numeric' := Numeric.numberText value'
  have front := congrArg (List.takeWhile isNumeric) same
  have back := congrArg (List.dropWhile isNumeric) same
  rw [Text.takeWhile_stop numeric follows, Text.takeWhile_stop numeric' follows'] at front
  rw [Text.dropWhile_stop numeric follows, Text.dropWhile_stop numeric' follows'] at back
  exact ⟨numberText_injective front, back⟩

inductive Kind
  | null
  | bool
  | number
  | string
  | array
  | object
deriving DecidableEq

def kind : Json → Kind
  | .null => .null
  | .bool _ => .bool
  | .number _ => .number
  | .string _ => .string
  | .array _ => .array
  | .object _ => .object

-- What a value is whose text begins with this character.
def Kind.begunBy? (c : Char) : Option Kind :=
  if isNumeric c then some .number
  else match c with
    | 'n' => some .null
    | 't' => some .bool
    | 'f' => some .bool
    | '"' => some .string
    | '[' => some .array
    | '\x7b' => some .object
    | _ => none

-- The first character tells what a value is.
theorem head_compact (value : Json) (rest : List Char) :
    (compact value ++ rest).head?.bind Kind.begunBy? = some value.kind := by
  cases value with
  | null => rfl
  | bool value => cases value <;> rfl
  | number value =>
      have numeric := Numeric.numberText value
      rw [compact, kind]
      cases text : numberText value with
      | nil => exact absurd text (numberText_ne_nil value)
      | cons c more =>
          rw [text] at numeric
          exact if_pos (numeric c (List.mem_cons_self ..))
  | string value => rfl
  | array items => rfl
  | object members => rfl

theorem kind_eq {value value' : Json} {rest rest' : List Char}
    (same : compact value ++ rest = compact value' ++ rest') : value.kind = value'.kind := by
  have head := head_compact value rest
  rw [same, head_compact] at head
  exact (Option.some.inj head).symm

section Separated
variable {α : Type} {write : α → List Char} {close : Char} (apart : isNumeric close = false) (other : close ≠ ',')
  (begun : ∀ entry rest, (write entry ++ rest).head? ≠ some close)

theorem separated_cons (first : List Char) (texts : List (List Char)) (rest : List Char) :
    separated [','] (first :: texts) ++ rest =
      first ++ (if texts.isEmpty then rest else ',' :: (separated [','] texts ++ rest)) := by
  cases texts with
  | nil => rfl
  | cons second more => simp [separated]

include apart other begun

-- Two lists of entries between the same brackets.
theorem separated_append_inj {entries entries' : List α} {rest rest' : List Char}
    (each : ∀ entry ∈ entries, ∀ entry' rest rest', Follows rest → Follows rest' →
      write entry ++ rest = write entry' ++ rest' → entry = entry' ∧ rest = rest')
    (same : separated [','] (entries.map write) ++ close :: rest =
      separated [','] (entries'.map write) ++ close :: rest') : entries = entries' ∧ rest = rest' := by
  have comma : isNumeric ',' = false := rfl
  have follows : ∀ (texts : List (List Char)) rest,
      Follows (if texts.isEmpty then close :: rest else ',' :: (separated [','] texts ++ close :: rest)) := by
    intro texts rest
    split
    · exact .cons apart rest
    · exact .cons comma _
  have closed : ∀ (entry : α) (texts : List (List Char)) rest rest',
      separated [','] (write entry :: texts) ++ rest ≠ close :: rest' := by
    intro entry texts rest rest' same
    rw [separated_cons] at same
    exact begun entry _ (congrArg List.head? same)
  induction entries generalizing entries' with
  | nil =>
      cases entries' with
      | nil => exact ⟨rfl, List.tail_eq_of_cons_eq same⟩
      | cons entry' more' => exact absurd same.symm (closed entry' _ _ _)
  | cons entry more ih =>
      cases entries' with
      | nil => exact absurd same (closed entry _ _ _)
      | cons entry' more' =>
          simp only [List.map_cons, separated_cons] at same
          obtain ⟨rfl, later⟩ := each entry (List.mem_cons_self ..) entry' _ _ (follows _ _) (follows _ _) same
          cases more with
          | nil =>
              cases more' with
              | nil => exact ⟨rfl, List.tail_eq_of_cons_eq later⟩
              | cons _ _ => exact absurd (List.head_eq_of_cons_eq later) other
          | cons _ _ =>
              cases more' with
              | nil => exact absurd (List.head_eq_of_cons_eq later).symm other
              | cons _ _ =>
                  obtain ⟨same, rest⟩ := ih (fun entry within => each entry (List.mem_cons_of_mem _ within))
                    (List.tail_eq_of_cons_eq later)
                  exact ⟨congrArg (entry :: ·) same, rest⟩

end Separated

theorem head_compact_ne {c : Char} (never : Kind.begunBy? c = none) (value : Json) (rest : List Char) :
    (compact value ++ rest).head? ≠ some c := by
  intro head
  have known := head_compact value rest
  rw [head, Option.bind_some, never] at known
  cases known

theorem head_compactMember_ne (member : String × Json) (rest : List Char) :
    (compactMember member ++ rest).head? ≠ some '\x7d' := by
  change some '"' ≠ some '\x7d'
  decide

theorem compactMember_append_inj {member member' : String × Json} {rest rest' : List Char}
    (below : compact member.2 ++ rest = compact member'.2 ++ rest' → member.2 = member'.2 ∧ rest = rest')
    (same : compactMember member ++ rest = compactMember member' ++ rest') : member = member' ∧ rest = rest' := by
  unfold compactMember at same
  rw [List.append_assoc, List.append_assoc] at same
  obtain ⟨key, later⟩ := quote_append_inj same
  obtain ⟨value, rest⟩ := below (List.tail_eq_of_cons_eq later)
  exact ⟨Prod.ext key value, rest⟩

-- Where a value ends is where its text ends.
theorem compact_append_inj {value value' : Json} {rest rest' : List Char} (follows : Follows rest)
    (follows' : Follows rest') (same : compact value ++ rest = compact value' ++ rest') :
    value = value' ∧ rest = rest' := by
  have kinds := kind_eq same
  induction value using Json.induction generalizing value' rest rest' with
  | null =>
      cases value' with
      | null => exact ⟨rfl, List.append_cancel_left same⟩
      | _ => cases kinds
  | bool value =>
      cases value' with
      | bool value' =>
          cases value with
          | true =>
              cases value' with
              | true => exact ⟨rfl, List.append_cancel_left same⟩
              | false => exact absurd (List.head_eq_of_cons_eq same) (by decide)
          | false =>
              cases value' with
              | true => exact absurd (List.head_eq_of_cons_eq same) (by decide)
              | false => exact ⟨rfl, List.append_cancel_left same⟩
      | _ => cases kinds
  | number value =>
      cases value' with
      | number value' =>
          obtain ⟨rfl, rest⟩ := numberText_append_inj follows follows' same
          exact ⟨rfl, rest⟩
      | _ => cases kinds
  | string value =>
      cases value' with
      | string value' =>
          obtain ⟨rfl, rest⟩ := quote_append_inj same
          exact ⟨rfl, rest⟩
      | _ => cases kinds
  | array items ih =>
      cases value' with
      | array items' =>
          simp only [compact, compactItems_eq, List.cons_append, List.append_assoc, List.nil_append, List.cons.injEq,
            true_and] at same
          obtain ⟨rfl, rest⟩ := separated_append_inj rfl (by decide) (head_compact_ne rfl)
            (fun item within _ _ _ follows follows' same => ih item within follows follows' same (kind_eq same)) same
          exact ⟨rfl, rest⟩
      | _ => cases kinds
  | object members ih =>
      cases value' with
      | object members' =>
          simp only [compact, compactMembers_eq, List.cons_append, List.append_assoc, List.nil_append, List.cons.injEq,
            true_and] at same
          obtain ⟨rfl, rest⟩ := separated_append_inj rfl (by decide) head_compactMember_ne
            (fun member within member' _ _ follows follows' same => compactMember_append_inj
              (fun same => ih member within follows follows' same (kind_eq same)) same) same
          exact ⟨rfl, rest⟩
      | _ => cases kinds

-- No two values have the same text.
theorem toText_injective {value value' : Json} (same : value.toText = value'.toText) : value = value' := by
  have texts : compact value ++ [] = compact value' ++ [] := by
    rw [List.append_nil, List.append_nil]
    exact String.ofList_injective same
  exact (compact_append_inj .nil .nil texts).1

end Injective

end Json

section Reports

-- Positions of 64 bits, as in every report about values that a machine can hold.
def Segment.Small : Segment → Prop
  | .index position => (position : Int) < Number.unsignedEnd
  | .key _ => True

def Report.Small (report : Report) : Prop := ∀ record ∈ report.records, ∀ segment ∈ record.path, segment.Small

namespace Json

-- Unfolded as a function: of a position that is not known, Lean would set out to compute the range check.
theorem ofNat_eq : ofNat = fun value : Nat => ((Number.ofInt? value).map number).getD .null := by
  delta ofNat
  funext value
  generalize Number.ofInt? value = read
  cases read <;> rfl

theorem ofNat_of_lt {value : Nat} (small : (value : Int) < Number.unsignedEnd) :
    ∃ inRange, ofNat value = .number (.integer value inRange) := by
  have low : -Number.signedEnd ≤ (value : Int) := by simp only [Number.signedEnd]; omega
  have read : Number.ofInt? value = some (.integer value ⟨low, small⟩) := dif_pos ⟨low, small⟩
  exact ⟨⟨low, small⟩, by simp [ofNat_eq, read]⟩

theorem ofNat_of_le {value : Nat} (large : Number.unsignedEnd ≤ value) : ofNat value = .null := by
  have read : Number.ofInt? value = none := dif_neg fun inRange => absurd inRange.2 (Int.not_lt.mpr large)
  simp [ofNat_eq, read]

theorem ofNat_inj {value value' : Nat} (small : (value : Int) < Number.unsignedEnd)
    (same : ofNat value = ofNat value') : value = value' := by
  obtain ⟨_, number⟩ := ofNat_of_lt small
  rw [number] at same
  by_cases small' : (value' : Int) < Number.unsignedEnd
  · obtain ⟨_, number'⟩ := ofNat_of_lt small'
    rw [number', Json.number.injEq, Number.integer.injEq] at same
    exact Int.natCast_inj.mp same
  · rw [ofNat_of_le (Int.not_lt.mp small')] at same
    cases same

theorem ofNat_ne_string (value : Nat) (text : String) : ofNat value ≠ .string text := by
  simp only [ofNat_eq]
  generalize Number.ofInt? value = read
  cases read <;> simp

end Json

theorem Segment.toJson_inj {segment segment' : Segment} (small : segment.Small)
    (same : segment.toJson = segment'.toJson) : segment = segment' := by
  cases segment with
  | index position =>
      cases segment' with
      | index position' => exact congrArg index (Json.ofNat_inj small same)
      | key name' => exact absurd same (Json.ofNat_ne_string position name')
  | key name =>
      cases segment' with
      | index position' => exact absurd same.symm (Json.ofNat_ne_string position' name)
      | key name' => exact congrArg key (Json.string.inj same)

theorem map_inj_of_mem {α β : Type} {write : α → β} {entries entries' : List α}
    (each : ∀ entry ∈ entries, ∀ entry', write entry = write entry' → entry = entry')
    (same : entries.map write = entries'.map write) : entries = entries' := by
  induction entries generalizing entries' with
  | nil => exact (List.map_eq_nil_iff.mp same.symm).symm
  | cons entry more ih =>
      cases entries' with
      | nil => cases same
      | cons entry' more' =>
          rw [List.map_cons, List.map_cons, List.cons.injEq] at same
          rw [each entry (List.mem_cons_self ..) entry' same.1,
            ih (fun entry within => each entry (List.mem_cons_of_mem _ within)) same.2]

theorem Record.toJson_inj {record record' : Record} (small : ∀ segment ∈ record.path, segment.Small)
    (same : record.toJson = record'.toJson) : record = record' := by
  obtain ⟨path, message⟩ := record
  obtain ⟨path', message'⟩ := record'
  simp only [toJson, Path.toJson, Json.object.injEq, List.cons.injEq, Prod.mk.injEq, Json.array.injEq,
    Json.string.injEq, true_and, and_true] at same
  obtain ⟨paths, rfl⟩ := same
  obtain rfl := map_inj_of_mem (fun segment within _ => Segment.toJson_inj (small segment within)) paths
  rfl

theorem Report.toJson_inj {report report' : Report} (small : report.Small) (same : report.toJson = report'.toJson) :
    report = report' := by
  obtain ⟨records⟩ := report
  obtain ⟨records'⟩ := report'
  simp only [toJson, Json.object.injEq, List.cons.injEq, Prod.mk.injEq, Json.array.injEq, true_and, and_true] at same
  obtain rfl := map_inj_of_mem (fun record within _ => Record.toJson_inj (small record within)) same
  rfl

end Reports

end Conform
