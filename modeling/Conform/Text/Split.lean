namespace Conform.Text

-- A text without a separator is a single piece.
def split (separator : Char) : List Char → List (List Char)
  | [] => [[]]
  | c :: rest =>
      if c = separator then [] :: split separator rest
      else match split separator rest with
        | [] => [[c]]
        | piece :: pieces => (c :: piece) :: pieces

def join (separator : List Char) : List (List Char) → List Char
  | [] => []
  | [piece] => piece
  | piece :: next :: pieces => piece ++ separator ++ join separator (next :: pieces)

theorem join_cons_cons (separator : List Char) (c : Char) (piece : List Char) (more : List (List Char)) :
    join separator ((c :: piece) :: more) = c :: join separator (piece :: more) := by
  cases more <;> rfl

theorem join_cons (separator first : List Char) (more : List (List Char)) :
    join separator (first :: more) = first ++ more.flatMap (separator ++ ·) := by
  induction more generalizing first with
  | nil => exact (List.append_nil first).symm
  | cons next more ih => rw [join, ih, List.flatMap_cons, List.append_assoc, List.append_assoc]

theorem join_concat (separator last : List Char) (pieces : List (List Char)) :
    join separator (pieces ++ [last]) = pieces.flatMap (· ++ separator) ++ last := by
  induction pieces with
  | nil => rfl
  | cons piece more ih =>
      cases more with
      | nil => simp [join]
      | cons next more =>
          rw [List.cons_append, List.cons_append, join, ← List.cons_append, ih, @List.flatMap_cons _ _ piece (next :: more),
            List.append_assoc, List.append_assoc, List.append_assoc]

theorem split_ne_nil (separator : Char) (text : List Char) : split separator text ≠ [] := by
  cases text with
  | nil => simp [split]
  | cons c rest =>
      unfold split
      split
      · simp
      · split <;> simp

theorem join_split (separator : Char) (text : List Char) : join [separator] (split separator text) = text := by
  induction text with
  | nil => rfl
  | cons c rest ih =>
      have some := split_ne_nil separator rest
      unfold split
      by_cases h : c = separator
      · cases pieces : split separator rest with
        | nil => exact absurd pieces some
        | cons piece more => simpa [h, join, pieces] using ih
      · cases pieces : split separator rest with
        | nil => exact absurd pieces some
        | cons piece more =>
            rw [pieces] at ih
            cases more with
            | nil => simpa [h, join] using ih
            | cons next more => simpa [h, join] using ih

theorem not_mem_of_mem_split {separator : Char} {text piece : List Char} (within : piece ∈ split separator text) :
    separator ∉ piece := by
  induction text generalizing piece with
  | nil =>
      cases List.mem_singleton.mp within
      exact List.not_mem_nil
  | cons c rest ih =>
      unfold split at within
      split at within
      · rcases List.mem_cons.mp within with rfl | later
        · exact List.not_mem_nil
        · exact ih later
      · rename_i other
        split at within
        · rename_i none
          exact absurd none (split_ne_nil separator rest)
        · rename_i first more pieces
          rcases List.mem_cons.mp within with rfl | later
          · rw [List.mem_cons, not_or]
            exact ⟨Ne.symm other, ih (pieces ▸ List.mem_cons_self ..)⟩
          · exact ih (pieces ▸ List.mem_cons_of_mem _ later)

theorem split_of_not_mem {separator : Char} {piece : List Char} (apart : separator ∉ piece) :
    split separator piece = [piece] := by
  induction piece with
  | nil => rfl
  | cons c rest ih =>
      rw [List.mem_cons, not_or] at apart
      rw [split, if_neg (Ne.symm apart.1), ih apart.2]

theorem split_append {separator : Char} {piece : List Char} (apart : separator ∉ piece) (rest : List Char) :
    split separator (piece ++ separator :: rest) = piece :: split separator rest := by
  induction piece with
  | nil => rw [List.nil_append, split, if_pos rfl]
  | cons c more ih =>
      rw [List.mem_cons, not_or] at apart
      rw [List.cons_append, split, if_neg (Ne.symm apart.1), ih apart.2]

theorem split_join {separator : Char} {pieces : List (List Char)} (some : pieces ≠ [])
    (apart : ∀ piece ∈ pieces, separator ∉ piece) : split separator (join [separator] pieces) = pieces := by
  induction pieces with
  | nil => exact absurd rfl some
  | cons piece more ih =>
      rw [List.forall_mem_cons] at apart
      cases more with
      | nil => exact split_of_not_mem apart.1
      | cons next more =>
          rw [join, List.append_assoc, List.singleton_append, split_append apart.1, ih (List.cons_ne_nil _ _) apart.2]

theorem mem_join {separator : Char} {pieces : List (List Char)} {c : Char} (within : c ∈ join [separator] pieces) :
    c = separator ∨ ∃ piece ∈ pieces, c ∈ piece := by
  induction pieces with
  | nil => cases within
  | cons piece more ih =>
      cases more with
      | nil => exact .inr ⟨piece, List.mem_cons_self .., within⟩
      | cons next more =>
          rw [join, List.append_assoc, List.singleton_append, List.mem_append, List.mem_cons] at within
          rcases within with here | same | later
          · exact .inr ⟨piece, List.mem_cons_self .., here⟩
          · exact .inl same
          · rcases ih later with same | ⟨other, listed, there⟩
            · exact .inl same
            · exact .inr ⟨other, List.mem_cons_of_mem _ listed, there⟩

theorem mem_join_of_mem {separator : Char} {pieces : List (List Char)} {piece : List Char} (listed : piece ∈ pieces)
    {c : Char} (within : c ∈ piece) : c ∈ join [separator] pieces := by
  induction pieces with
  | nil => cases listed
  | cons first more ih =>
      cases more with
      | nil =>
          cases List.mem_singleton.mp listed
          exact within
      | cons next more =>
          rw [join]
          rcases List.mem_cons.mp listed with rfl | later
          · exact List.mem_append_left _ (List.mem_append_left _ within)
          · exact List.mem_append_right _ (ih later)

theorem mem_of_mem_split {separator : Char} {text piece : List Char} (within : piece ∈ split separator text) {c : Char}
    (there : c ∈ piece) : c ∈ text :=
  join_split separator text ▸ mem_join_of_mem within there

theorem takeWhile_stop {p : Char → Bool} {front rest : List Char} (all : ∀ c ∈ front, p c = true)
    (stop : ∀ c, rest.head? = some c → p c = false) : (front ++ rest).takeWhile p = front := by
  rw [List.takeWhile_append_of_pos all]
  cases rest with
  | nil => simp
  | cons c rest => simp [stop c rfl]

theorem dropWhile_stop {p : Char → Bool} {front rest : List Char} (all : ∀ c ∈ front, p c = true)
    (stop : ∀ c, rest.head? = some c → p c = false) : (front ++ rest).dropWhile p = rest := by
  rw [List.dropWhile_append_of_pos all]
  cases rest with
  | nil => rfl
  | cons c rest => simp [stop c rfl]

end Conform.Text
