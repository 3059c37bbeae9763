namespace Conform.Text

-- The Unicode property White_Space.
def isBlank (c : Char) : Bool :=
  let n := c.toNat
  (9 ≤ n && n ≤ 13) || n == 32 || n == 0x85 || n == 0xA0 || n == 0x1680 || (0x2000 ≤ n && n ≤ 0x200A)
    || n == 0x2028 || n == 0x2029 || n == 0x202F || n == 0x205F || n == 0x3000

def trimStart (text : List Char) : List Char := text.dropWhile isBlank

def trimEnd (text : List Char) : List Char := (text.reverse.dropWhile isBlank).reverse

def trim (text : List Char) : List Char := trimEnd (trimStart text)

def trimmed (text : String) : String := .ofList (trim text.toList)

-- The number of bytes of a text in UTF-8, which is how positions in a text are counted.
def byteLength : List Char → Nat
  | [] => 0
  | c :: rest => c.utf8Size + byteLength rest

@[simp] theorem byteLength_append (before after : List Char) :
    byteLength (before ++ after) = byteLength before + byteLength after := by
  induction before with
  | nil => simp [byteLength]
  | cons c rest ih => simp [byteLength, ih, Nat.add_assoc]

theorem ne_of_isBlank {c d : Char} (blank : isBlank c = true) (solid : isBlank d = false) : c ≠ d := by
  rintro rfl
  cases blank.symm.trans solid

theorem head_trimStart (text : List Char) (c : Char) (first : (trimStart text).head? = some c) :
    isBlank c = false := by
  induction text with
  | nil => cases first
  | cons d rest ih =>
      unfold trimStart List.dropWhile at first
      cases h : isBlank d with
      | true => exact ih (by simpa [h, trimStart] using first)
      | false =>
          simp only [h, List.head?_cons, Option.some.injEq] at first
          exact first ▸ h

theorem trimStart_eq_nil {text : List Char} : trimStart text = [] ↔ ∀ c ∈ text, isBlank c = true := by
  unfold trimStart
  induction text with
  | nil => simp
  | cons c rest ih => cases blank : isBlank c <;> simp [blank, ih]

theorem trimEnd_eq_nil {text : List Char} : trimEnd text = [] ↔ ∀ c ∈ text, isBlank c = true := by
  rw [trimEnd, List.reverse_eq_nil_iff, ← trimStart, trimStart_eq_nil]
  simp only [List.mem_reverse]

theorem trim_eq_nil {text : List Char} : trim text = [] ↔ ∀ c ∈ text, isBlank c = true := by
  rw [trim, trimEnd_eq_nil]
  constructor
  · intro blank
    cases start : trimStart text with
    | nil => exact trimStart_eq_nil.mp start
    | cons c rest =>
        have first := head_trimStart text c (by rw [start, List.head?_cons])
        rw [blank c (by rw [start]; exact List.mem_cons_self ..)] at first
        cases first
  · exact fun blank c within => blank c ((List.dropWhile_sublist isBlank).mem within)

theorem trim_ne_nil {text : List Char} : trim text ≠ [] ↔ ∃ c ∈ text, isBlank c = false := by
  rw [Ne, trim_eq_nil]
  simp

-- A text that trimming leaves alone is left alone from both sides.
theorem trimStart_of_trim {text : List Char} (tight : trim text = text) : trimStart text = text := by
  refine List.Sublist.eq_of_length_le (List.dropWhile_sublist isBlank) ?_
  calc text.length = (trim text).length := by rw [tight]
    _ ≤ (trimStart text).reverse.length := by
        rw [trim, trimEnd, List.length_reverse]
        exact (List.dropWhile_sublist isBlank).length_le
    _ = (trimStart text).length := List.length_reverse

theorem trimEnd_of_trim {text : List Char} (tight : trim text = text) : trimEnd text = text := by
  rwa [trim, trimStart_of_trim tight] at tight

theorem dropWhile_isBlank {text : List Char} (solid : ∀ c ∈ text.head?, isBlank c = false) :
    text.dropWhile isBlank = text := by
  cases text with
  | nil => rfl
  | cons c rest => simp [solid c rfl]

theorem trim_of_solid {text : List Char} (solid : ∀ c ∈ text, isBlank c = false) : trim text = text := by
  have reversed : text.reverse.dropWhile isBlank = text.reverse :=
    dropWhile_isBlank fun c first => solid c (List.mem_reverse.mp (List.mem_of_mem_head? first))
  rw [trim, trimEnd, trimStart, dropWhile_isBlank fun c first => solid c (List.mem_of_mem_head? first), reversed,
    List.reverse_reverse]

theorem trim_trim (text : List Char) : trim (trim text) = trim text := by
  have front : trimStart (trim text) = trim text := by
    obtain ⟨after, whole⟩ : trim text <+: trimStart text :=
      List.reverse_suffix.mp (by rw [trim, trimEnd, List.reverse_reverse]; exact List.dropWhile_suffix isBlank)
    refine dropWhile_isBlank fun c first => head_trimStart text c ?_
    rw [← whole, List.head?_append, first]
    rfl
  have back : trimEnd (trim text) = trim text := by
    rw [trim, trimEnd, trimEnd, List.reverse_reverse, dropWhile_isBlank fun c first => ?_]
    exact head_trimStart _ c first
  rw [trim, front, back]

theorem trim_padded {before name after : List Char} (front : ∀ c ∈ before, isBlank c = true)
    (back : ∀ c ∈ after, isBlank c = true) (tight : trim name = name) : trim (before ++ name ++ after) = name := by
  have start := trimStart_of_trim tight
  have ending := trimEnd_of_trim tight
  rw [trimStart] at start
  rw [trimEnd] at ending
  rw [trim, trimStart, List.append_assoc, List.dropWhile_append_of_pos front, List.dropWhile_append, start]
  cases name with
  | nil => exact trim_eq_nil.mpr back
  | cons c rest =>
      rw [List.isEmpty_cons, if_neg (by decide), trimEnd, List.reverse_append,
        List.dropWhile_append_of_pos fun c within => back c (List.mem_reverse.mp within), ending]

end Conform.Text
