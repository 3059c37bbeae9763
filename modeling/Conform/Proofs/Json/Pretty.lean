import Conform.Proofs.Json.Text

namespace Conform.Json

-- Values without doubles, in which no object repeats a key, with at most this many containers in each other.
inductive Exact : Nat → Json → Prop
  | null : Exact room .null
  | bool : Exact room (.bool value)
  | integer : Exact room (.number (.integer value inRange))
  | string : Exact room (.string value)
  | array (below : ∀ item ∈ items, Exact room item) : Exact (room + 1) (.array items)
  | object {members : Members} (distinct : members.keys.Nodup) (below : ∀ member ∈ members, Exact room member.2) :
      Exact (room + 1) (.object members)

-- Entries with a comma between each two.
def Token.listed : List (List Token) → List Token
  | [] => []
  | first :: rest => first ++ rest.flatMap (.mark ',' :: ·)

mutual

-- The tokens of a text of this value.
def tokens : Json → List Token
  | .null => [.word "null".toList]
  | .bool value => [.word (if value then "true" else "false").toList]
  | .number value => [.word (numberText value)]
  | .string value => [.text value]
  | .array items => .mark '[' :: Token.listed (itemTokens items) ++ [.mark ']']
  | .object members => .mark '\x7b' :: Token.listed (memberTokens members) ++ [.mark '\x7d']

def itemTokens : List Json → List (List Token)
  | [] => []
  | item :: rest => tokens item :: itemTokens rest

def memberTokens : List (String × Json) → List (List Token)
  | [] => []
  | (key, value) :: rest => (.text key :: .mark ':' :: tokens value) :: memberTokens rest

end

def prettyMember (level : Nat) (member : String × Json) : List Char :=
  quote member.1 ++ ':' :: ' ' :: prettyAt level member.2

def tokensOfMember (member : String × Json) : List Token := .text member.1 :: .mark ':' :: tokens member.2

theorem itemTokens_eq (items : List Json) : itemTokens items = items.map tokens := by
  induction items with
  | nil => rfl
  | cons item rest ih => rw [itemTokens, ih, List.map_cons]

theorem memberTokens_eq (members : Members) : memberTokens members = members.map tokensOfMember := by
  induction members with
  | nil => rfl
  | cons member rest ih => rw [memberTokens, ih, List.map_cons, tokensOfMember]

theorem prettyItems_eq (level : Nat) (items : List Json) : prettyItems level items = items.map (prettyAt level) := by
  induction items with
  | nil => rfl
  | cons item rest ih => rw [prettyItems, ih, List.map_cons]

theorem prettyMembers_eq (level : Nat) (members : Members) :
    prettyMembers level members = members.map (prettyMember level) := by
  induction members with
  | nil => rfl
  | cons member rest ih => rw [prettyMembers, ih, List.map_cons, prettyMember]

theorem separated_eq (separator first : List Char) (rest : List (List Char)) :
    separated separator (first :: rest) = first ++ rest.flatMap (separator ++ ·) := by
  induction rest generalizing first with
  | nil => simp [separated]
  | cons second more ih => simp [separated, ih]

namespace Token

-- What may come after a word.
def Apart (rest : List Char) : Prop := ∀ c, rest.head? = some c → isWordLetter c = false

theorem Apart.cons {c : Char} (other : isWordLetter c = false) (rest : List Char) : Apart (c :: rest) := by
  intro c' first
  cases first
  exact other

-- A text is read as these tokens, whatever comes after it that cannot belong to it.
def Reads (text : List Char) (tokens : List Token) : Prop :=
  ∀ rest, Apart rest → scanFrom .between (text ++ rest) = (scanFrom .between rest).map (tokens ++ ·)

theorem scanFrom_silent {mode next : Mode} {c : Char} (silent : step mode c = some (next, [])) (rest : List Char) :
    scanFrom mode (c :: rest) = scanFrom next rest := by
  rw [scanFrom, silent]
  exact Option.map_id'

theorem scanFrom_told {mode next : Mode} {c : Char} {token : Token} (told : step mode c = some (next, [token]))
    (rest : List Char) : scanFrom mode (c :: rest) = (scanFrom next rest).map (token :: ·) := by
  rw [scanFrom, told]
  rfl

theorem scanFrom_newline (level : Nat) (rest : List Char) :
    scanFrom .between (newline level ++ rest) = scanFrom .between rest := by
  have blanks : ∀ count, scanFrom .between (List.replicate count ' ' ++ rest) = scanFrom .between rest := by
    intro count
    induction count with
    | zero => rfl
    | succ count ih => rw [List.replicate_succ, List.cons_append, scanFrom_silent rfl, ih]
  rw [newline, List.cons_append, scanFrom_silent rfl, blanks]

theorem start_letter {c : Char} (letter : isWordLetter c = true) : start c = some (.inWord [c], []) := by
  have solid : isSpace c = false := by
    by_contra space
    simp only [isSpace, Bool.not_eq_false, Bool.or_eq_true, beq_iff_eq] at space
    rcases space with ((rfl | rfl) | rfl) | rfl <;> cases letter
  have plain : isMark c = false := by
    by_contra mark
    rw [Bool.not_eq_false, isMark, List.contains_iff_mem] at mark
    have apart : "[]\x7b\x7d:,".toList.all (! isWordLetter ·) = true := rfl
    have known := List.all_eq_true.mp apart c mark
    rw [letter] at known
    cases known
  have open' : (c == '"') = false := by
    by_contra quote
    rw [Bool.not_eq_false, beq_iff_eq] at quote
    subst quote
    cases letter
  simp [start, solid, plain, open', letter]

theorem scanFrom_inWord {word rest : List Char} (letters : ∀ c ∈ word, isWordLetter c = true) (apart : Apart rest)
    (read : List Char) : scanFrom (.inWord read) (word ++ rest) =
      (scanFrom .between rest).map (.word (read.reverse ++ word) :: ·) := by
  induction word generalizing read with
  | nil =>
      rw [List.nil_append, List.append_nil]
      cases rest with
      | nil => rfl
      | cons c more =>
          have ended : step (.inWord read) c =
              (start c).map fun begun => (begun.1, .word read.reverse :: begun.2) := by
            simp [step, apart c rfl]
          have fresh : step .between c = start c := rfl
          rw [scanFrom, scanFrom, ended, fresh]
          cases start c with
          | none => rfl
          | some begun => simp [Function.comp_def]
  | cons c more ih =>
      rw [List.forall_mem_cons] at letters
      have longer : step (.inWord read) c = some (.inWord (c :: read), []) := by simp [step, letters.1]
      rw [List.cons_append, scanFrom_silent longer, ih letters.2]
      simp

theorem reads_word {word : List Char} (filled : word ≠ []) (letters : ∀ c ∈ word, isWordLetter c = true) :
    Reads word [.word word] := by
  intro rest apart
  cases word with
  | nil => exact absurd rfl filled
  | cons c more =>
      rw [List.forall_mem_cons] at letters
      have begun : step .between c = some (.inWord [c], []) := start_letter letters.1
      rw [List.cons_append, scanFrom_silent begun, scanFrom_inWord letters.2 apart]
      rfl

-- The end of a quoted text is its closing quote.
theorem step_text {mode next : Mode} {c : Char} {value : String} {tokens : List Token}
    (told : step mode c = some (next, .text value :: tokens)) : next = .between ∧ tokens = [] := by
  cases mode with
  | between =>
      simp only [step, start] at told
      split_ifs at told <;> cases told
  | inWord read =>
      simp only [step] at told
      split_ifs at told
      · cases told
      · obtain ⟨_, _, same⟩ := Option.map_eq_some_iff.mp told
        cases same
  | inText read =>
      simp only [step] at told
      split_ifs at told <;> cases told
      exact ⟨rfl, rfl⟩
  | afterBackslash read =>
      simp only [step] at told
      split_ifs at told
      · cases told
      · obtain ⟨_, _, same⟩ := Option.map_eq_some_iff.mp told
        cases same
  | inEscape read digits high =>
      obtain ⟨_, _, later⟩ := Option.bind_eq_some_iff.mp told
      split at later
      · obtain ⟨_, _, same⟩ := Option.map_eq_some_iff.mp later
        cases same
      · cases later
  | afterHigh read high backslash =>
      simp only [step] at told
      split_ifs at told <;> cases told

theorem scanFrom_of_first? {mode : Mode} {text rest : List Char} {value : String}
    (first : first? mode text = some (.text value, rest)) :
    scanFrom mode text = (scanFrom .between rest).map (.text value :: ·) := by
  induction text generalizing mode with
  | nil => cases first
  | cons c more ih =>
      rw [first?] at first
      obtain ⟨⟨next, tokens⟩, stepped, told⟩ := Option.bind_eq_some_iff.mp first
      cases tokens with
      | nil => rw [scanFrom_silent stepped, ih told]
      | cons token tokens =>
          cases told
          obtain ⟨rfl, rfl⟩ := step_text stepped
          exact scanFrom_told stepped rest

theorem scanFrom_quote (text : String) (rest : List Char) :
    scanFrom .between (quote text ++ rest) = (scanFrom .between rest).map (.text text :: ·) :=
  scanFrom_of_first? (first?_quote text rest)

theorem isWordLetter_of_isNumeric {c : Char} (numeric : isNumeric c = true) : isWordLetter c = true := by
  simp only [isNumeric, Bool.or_eq_true, beq_iff_eq] at numeric
  rcases numeric with (((digit | rfl) | rfl) | rfl) | rfl
  · simp [isWordLetter, Char.isAlphanum, digit]
  all_goals decide

section Entries
variable {α : Type} {write : α → List Char} {told : α → List Token} {entries : List α}

theorem apart_newline (level : Nat) (rest : List Char) : Apart (newline level ++ rest) := .cons rfl _

variable (each : ∀ entry ∈ entries, Reads (write entry) (told entry)) (level : Nat)
include each

theorem scanFrom_others {rest : List Char} (apart : Apart rest) :
    let text := (entries.map write).flatMap (',' :: newline level ++ ·) ++ rest
    Apart text ∧ scanFrom .between text =
      (scanFrom .between rest).map ((entries.map told).flatMap (.mark ',' :: ·) ++ ·) := by
  induction entries with
  | nil => exact ⟨apart, Option.map_id'.symm⟩
  | cons entry more ih =>
      rw [List.forall_mem_cons] at each
      obtain ⟨after, later⟩ := ih each.2
      refine ⟨.cons rfl _, ?_⟩
      rw [List.map_cons, List.flatMap_cons, List.append_assoc, List.append_assoc, List.cons_append, scanFrom_told rfl,
        scanFrom_newline, each.1 _ after, later]
      simp [Function.comp_def]

theorem scanFrom_indented (rest : List Char) :
    scanFrom .between (indented level (entries.map write) ++ rest) =
      (scanFrom .between rest).map (listed (entries.map told) ++ ·) := by
  cases entries with
  | nil => exact Option.map_id'.symm
  | cons first more =>
      rw [List.forall_mem_cons] at each
      obtain ⟨after, others⟩ := scanFrom_others each.2 (level + 1) (apart_newline level rest)
      have lines : indented level ((first :: more).map write) = newline (level + 1) ++
          (write first ++ (more.map write).flatMap (',' :: newline (level + 1) ++ ·)) ++ newline level := by
        rw [indented, List.map_cons, separated_eq]
        rfl
      rw [lines, List.append_assoc, List.append_assoc, List.append_assoc, scanFrom_newline, each.1 _ after, others,
        scanFrom_newline]
      simp [listed, Function.comp_def]

end Entries

-- Blanks between tokens do not matter; that they stand after each comma and bracket only is what the induction uses.
theorem reads_prettyAt (level : Nat) (value : Json) : Reads (prettyAt level value) (tokens value) := by
  induction value using Json.induction generalizing level with
  | null =>
      change Reads "null".toList _
      exact reads_word (by simp) (List.all_eq_true.mp rfl)
  | bool value =>
      change Reads (if value then "true" else "false").toList _
      cases value <;> exact reads_word (by simp) (List.all_eq_true.mp rfl)
  | number value =>
      have numeric := Numeric.numberText value
      exact reads_word (numberText_ne_nil value) fun c within => isWordLetter_of_isNumeric (numeric c within)
  | string value => exact fun rest _ => scanFrom_quote value rest
  | array items ih =>
      intro rest _
      have each : ∀ item ∈ items, Reads (prettyAt (level + 1) item) (tokens item) :=
        fun item within => ih item within _
      rw [prettyAt, prettyItems_eq, tokens, itemTokens_eq, List.cons_append, List.cons_append, List.append_assoc,
        scanFrom_told rfl, scanFrom_indented each, List.cons_append, List.nil_append, scanFrom_told rfl]
      simp [Function.comp_def]
  | object members ih =>
      intro rest _
      have each : ∀ member ∈ members, Reads (prettyMember (level + 1) member) (tokensOfMember member) := by
        intro member within rest apart
        rw [prettyMember, List.append_assoc, List.cons_append, List.cons_append, scanFrom_quote, scanFrom_told rfl,
          scanFrom_silent rfl, ih member within _ _ apart]
        simp [tokensOfMember, Function.comp_def]
      rw [prettyAt, prettyMembers_eq, tokens, memberTokens_eq, List.cons_append, List.cons_append, List.append_assoc,
        scanFrom_told rfl, scanFrom_indented each, List.cons_append, List.nil_append, scanFrom_told rfl]
      simp [Function.comp_def]

end Token

theorem head_toDigits {value : Nat} (positive : 0 < value) : (Nat.toDigits 10 value).head? ≠ some '0' := by
  induction value using Nat.strong_induction_on with
  | _ value ih =>
      by_cases small : value < 10
      · rw [Nat.toDigits_of_lt_base small]
        exact (by decide : ∀ digit < 10, 0 < digit → [Nat.digitChar digit].head? ≠ some '0') value small positive
      · rw [Nat.toDigits_of_base_le (by decide) (by omega), List.head?_append_of_ne_nil _ Nat.toDigits_ne_nil]
        exact ih (value / 10) (by omega) (by omega)

theorem splitMinus_signText {negative : Bool} {digits : List Char} (filled : digits ≠ [])
    (each : ∀ c ∈ digits, c.isDigit = true) : splitMinus (Shortest.signText negative ++ digits) = (negative, digits) := by
  cases negative with
  | true => rfl
  | false =>
      cases digits with
      | nil => exact absurd rfl filled
      | cons c more =>
          have minus : c ≠ '-' := by
            rintro rfl
            exact absurd (each '-' (List.mem_cons_self ..)) (by decide)
          simp [Shortest.signText, splitMinus, minus]

theorem readNumber?_of_digits {negative : Bool} {digits : List Char} (filled : digits ≠ [])
    (each : ∀ c ∈ digits, c.isDigit = true) (leading : digits.head? = some '0' → digits = ['0']) :
    readNumber? (Shortest.signText negative ++ digits) = readInteger? negative digits := by
  have whole := List.takeWhile_eq_self_iff.mpr each
  have rest := List.dropWhile_eq_nil_iff.mpr each
  have shaped : (digits.isEmpty || (digits.head? == some '0' && digits != ['0'])) = false := by
    by_cases zero : digits.head? = some '0'
    · rw [leading zero]
      rfl
    · simp [filled, zero]
  simp only [readNumber?, splitMinus_signText filled each, whole, rest, shaped, Bool.false_eq_true, if_false,
    List.isEmpty_nil, if_true]

theorem readInteger?_of_known {negative : Bool} {digits : List Char} {number : Number}
    (signed : negative = true → Decimal.ofDigits digits ≠ 0)
    (known : Number.ofInt? (if negative then -(Decimal.ofDigits digits : Int) else Decimal.ofDigits digits) =
      some number) : readInteger? negative digits = some number := by
  have integer : (negative && Decimal.ofDigits digits == 0) = false := by
    cases negative with
    | true => exact beq_false_of_ne (signed rfl)
    | false => rfl
  simp only [readInteger?, integer, Bool.false_eq_true, if_false, known, Option.some_or]

-- An integer is written without zeros in front, and zero without a minus, so it is not read as a double.
theorem readNumber?_integerText {value : Int} (inRange : -Number.signedEnd ≤ value ∧ value < Number.unsignedEnd) :
    readNumber? (Shortest.integerText value) = some (.integer value inRange) := by
  have size := Decimal.ofDigits_toDigits value.natAbs
  have known : Number.ofInt? value = some (.integer value inRange) := dif_pos inRange
  have leading : (Nat.toDigits 10 value.natAbs).head? = some '0' → Nat.toDigits 10 value.natAbs = ['0'] := by
    intro zero
    by_cases none : value.natAbs = 0
    · rw [none]
      rfl
    · exact absurd zero (head_toDigits (Nat.pos_of_ne_zero none))
  refine (readNumber?_of_digits Nat.toDigits_ne_nil isDigit_of_mem_digits leading).trans (readInteger?_of_known ?_ ?_)
  · intro negative
    rw [size]
    rw [decide_eq_true_eq] at negative
    omega
  · rw [size, ← known]
    congr 1
    simp only [decide_eq_true_eq]
    omega

theorem readWord?_numberText {value : Int} (inRange : -Number.signedEnd ≤ value ∧ value < Number.unsignedEnd) :
    readWord? (numberText (.integer value inRange)) = some (.number (.integer value inRange)) := by
  have other : ∀ word : String, word.toList.any (! isNumeric ·) = true →
      (numberText (.integer value inRange) == word.toList) = false := by
    intro word letter
    refine beq_false_of_ne fun same => ?_
    obtain ⟨c, within, stranger⟩ := List.any_eq_true.mp letter
    rw [← same] at within
    rw [Numeric.numberText _ c within] at stranger
    cases stranger
  rw [readWord?, other "null" (by decide), other "true" (by decide), other "false" (by decide), numberText,
    readNumber?_integerText inRange]
  rfl

theorem head_tokens (value : Json) : (tokens value).head? ≠ some (.mark ']') := by
  cases value <;> simp [tokens]

namespace Stage

-- Where a value is due inside these containers.
inductive Awaits : List Frame → Stage → Prop
  | value : Awaits stack (.wantValue stack)
  | item : Awaits (.array [] :: stack) (.wantItem (.array [] :: stack))

variable {stack : List Frame}

theorem step_of_awaits {stage : Stage} (awaits : Awaits stack stage) (token : Token)
    (other : token ≠ .mark ']') : step Members.settle stage token = opening stack token := by
  cases awaits with
  | value => rfl
  | item =>
      cases token with
      | text value => rfl
      | word letters => rfl
      | mark c =>
          have stays : c ≠ ']' := fun same => other (same ▸ rfl)
          simp [step, stays]

-- Its tokens put a value together, and leave the containers around it as they are.
def Builds (value : Json) (stack : List Frame) : Prop :=
  ∀ stage, Awaits stack stage → ∀ rest, (tokens value ++ rest).foldlM (step Members.settle) stage =
    rest.foldlM (step Members.settle) (.complete stack value)

theorem foldlM_token {settle : Members → Members} {stage next : Stage} {token : Token}
    (stepped : step settle stage token = some next) (rest : List Token) :
    (token :: rest).foldlM (step settle) stage = rest.foldlM (step settle) next := by
  rw [List.foldlM_cons, stepped]
  rfl

theorem builds_of_one {value : Json} {token : Token} (alone : tokens value = [token])
    (opened : opening stack token = some (.complete stack value)) : Builds value stack := by
  intro stage awaits rest
  have other := head_tokens value
  rw [alone, List.head?_cons, Ne, Option.some_inj] at other
  rw [alone]
  exact foldlM_token ((step_of_awaits awaits token other).trans opened) rest

theorem opening_mark (room : stack.length < depthLimit) :
    opening stack (.mark '[') = some (.wantItem (.array [] :: stack)) ∧
      opening stack (.mark '\x7b') = some (.wantKey stack [] true) :=
  ⟨if_pos room, if_pos room⟩

theorem foldlM_items {items : List Json} (each : ∀ item ∈ items, ∀ read, Builds item (.array read :: stack))
    (read : List Json) (value : Json) (rest : List Token) :
    ((items.map tokens).flatMap (.mark ',' :: ·) ++ .mark ']' :: rest).foldlM (step Members.settle)
        (.complete (.array read :: stack) value) =
      rest.foldlM (step Members.settle) (.complete stack (.array (read.reverse ++ value :: items))) := by
  induction items generalizing read value with
  | nil =>
      rw [← List.reverse_cons]
      exact foldlM_token rfl rest
  | cons item more ih =>
      rw [List.forall_mem_cons] at each
      rw [List.map_cons, List.flatMap_cons, List.append_assoc, List.cons_append, foldlM_token rfl,
        each.1 (value :: read) _ .value, ih each.2, List.reverse_cons, List.append_assoc]
      rfl

theorem builds_array {items : List Json} (room : stack.length < depthLimit)
    (each : ∀ item ∈ items, ∀ read, Builds item (.array read :: stack)) : Builds (.array items) stack := by
  intro stage awaits rest
  have opened := (step_of_awaits awaits (.mark '[') (by simp)).trans (opening_mark room).1
  rw [tokens, itemTokens_eq, List.cons_append, List.cons_append, foldlM_token opened, List.append_assoc]
  cases items with
  | nil => exact foldlM_token rfl rest
  | cons first more =>
      rw [List.forall_mem_cons] at each
      rw [List.map_cons, Token.listed, List.append_assoc, each.1 [] _ .item]
      exact foldlM_items each.2 [] first rest

theorem foldlM_member {member : String × Json} (each : ∀ read key, Builds member.2 (.object read key :: stack))
    (read : Members) (begun : Bool) (rest : List Token) :
    (tokensOfMember member ++ rest).foldlM (step Members.settle) (.wantKey stack read begun) =
      rest.foldlM (step Members.settle) (.complete (.object read member.1 :: stack) member.2) := by
  have named : step Members.settle (.wantKey stack read begun) (.text member.1) =
      some (.wantColon stack read member.1) := by
    cases read <;> cases begun <;> rfl
  rw [tokensOfMember, List.cons_append, List.cons_append, foldlM_token named, foldlM_token rfl, each _ _ _ .value]

theorem foldlM_members {members : Members}
    (each : ∀ member ∈ members, ∀ read key, Builds member.2 (.object read key :: stack)) (read : Members)
    (key : String) (value : Json) (rest : List Token) :
    ((members.map tokensOfMember).flatMap (.mark ',' :: ·) ++ .mark '\x7d' :: rest).foldlM (step Members.settle)
        (.complete (.object read key :: stack) value) =
      rest.foldlM (step Members.settle)
        (.complete stack (.object (Members.settle (read.reverse ++ (key, value) :: members)))) := by
  induction members generalizing read key value with
  | nil =>
      rw [← List.reverse_cons]
      exact foldlM_token rfl rest
  | cons member more ih =>
      rw [List.forall_mem_cons] at each
      rw [List.map_cons, List.flatMap_cons, List.append_assoc, List.cons_append, foldlM_token rfl,
        foldlM_member each.1, ih each.2, List.reverse_cons, List.append_assoc]
      rfl

theorem builds_object {members : Members} (room : stack.length < depthLimit) (distinct : members.keys.Nodup)
    (each : ∀ member ∈ members, ∀ read key, Builds member.2 (.object read key :: stack)) :
    Builds (.object members) stack := by
  intro stage awaits rest
  have opened := (step_of_awaits awaits (.mark '\x7b') (by simp)).trans (opening_mark room).2
  rw [tokens, memberTokens_eq, List.cons_append, List.cons_append, foldlM_token opened, List.append_assoc]
  cases members with
  | nil => exact foldlM_token rfl rest
  | cons first more =>
      rw [List.forall_mem_cons] at each
      rw [List.map_cons, Token.listed, List.append_assoc, foldlM_member each.1]
      refine (foldlM_members each.2 [] first.1 first.2 rest).trans ?_
      rw [List.reverse_nil, List.nil_append, Members.settle_of_nodup distinct]

theorem builds_of_exact {room : Nat} {value : Json} (fits : Exact room value)
    (within : stack.length + room ≤ depthLimit) : Builds value stack := by
  induction fits generalizing stack with
  | null => exact builds_of_one rfl rfl
  | @bool _ value => cases value <;> exact builds_of_one rfl rfl
  | integer =>
      refine builds_of_one rfl ?_
      rw [opening, readWord?_numberText]
      rfl
  | string => exact builds_of_one rfl rfl
  | array below ih =>
      refine builds_array (by omega) fun item there read => ih item there ?_
      rw [List.length_cons]
      omega
  | object distinct below ih =>
      refine builds_object (by omega) distinct fun member there read key => ih member there ?_
      rw [List.length_cons]
      omega

end Stage

-- The text of a value is read as that value, its keys in order.
theorem parse?_toPrettyText {room : Nat} {value : Json} (fits : Exact room value) (small : room ≤ Stage.depthLimit) :
    parse? (value.toPrettyText ++ "\n") = some value := by
  have read : Token.scan (value.toPrettyText ++ "\n").toList = some (tokens value) := by
    have ended : Token.scanFrom .between ['\n'] = some [] := rfl
    rw [toPrettyText, String.toList_append, String.toList_ofList]
    refine (Token.reads_prettyAt 0 value ['\n'] (.cons rfl [])).trans ?_
    rw [ended, Option.map_some, List.append_nil]
  have within : ([] : List Frame).length + room ≤ Stage.depthLimit := by rwa [List.length_nil, Nat.zero_add]
  have built := Stage.builds_of_exact fits within _ .value []
  rw [List.append_nil] at built
  rw [parse?, read, Option.bind_some, ofTokens?, built]
  rfl

end Conform.Json
