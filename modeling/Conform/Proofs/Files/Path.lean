import Conform.Files.Path

namespace Conform

namespace Text

theorem split_append_split (separator : Char) (first second : List Char) :
    split separator (first ++ separator :: second) = split separator first ++ split separator second := by
  induction first with
  | nil => simp [split]
  | cons c rest ih =>
      rw [List.cons_append, split, split]
      split
      · rw [ih, List.cons_append]
      · rw [ih]
        cases pieces : split separator rest with
        | nil => exact absurd pieces (split_ne_nil separator rest)
        | cons piece more => rfl

theorem join_split_concat (separator : Char) (text last : List Char) :
    join [separator] (split separator text ++ [last]) = text ++ separator :: last := by
  have whole := join_split separator text
  cases pieces : split separator text with
  | nil => exact absurd pieces (split_ne_nil separator text)
  | cons piece more =>
      rw [pieces, join_cons] at whole
      rw [List.cons_append, join_cons, List.flatMap_append, ← List.append_assoc, whole]
      simp

end Text

namespace Files

-- A name that leads from a folder to something in it.
structure IsComponent (name : String) : Prop where
  loud : isSilent name.toList = false
  proper : name.toList ≠ upwards
  single : '/' ∉ name.toList

-- A name without its extension.
def stem (name : String) : String := .ofList (splitName name.toList).1

theorem splitName_dotted {front last : List Char} (filled : front ≠ []) (plain : '.' ∉ last) :
    splitName (front ++ '.' :: last) = (front, some last) := by
  have before : ∀ c ∈ last.reverse, (c != '.') = true := by
    intro c within
    rw [List.mem_reverse] at within
    simp only [bne_iff_ne]
    rintro rfl
    exact plain within
  have turned : (front ++ '.' :: last).reverse = last.reverse ++ '.' :: front.reverse := by simp
  have stop : ∀ c, ('.' :: front.reverse).head? = some c → (c != '.') = false := by
    intro c first
    cases first
    rfl
  unfold splitName
  rw [turned, Text.dropWhile_stop before stop, Text.takeWhile_stop before stop]
  split
  · rename_i none
    cases none
  · rename_i alone
    rw [List.cons.injEq, List.reverse_eq_nil_iff] at alone
    exact absurd alone.2 filled
  · rename_i whole
    cases whole
    simp

theorem splitName_plain {name : List Char} (plain : '.' ∉ name.tail) : splitName name = (name, none) := by
  cases name with
  | nil => rfl
  | cons c rest =>
      have before : ∀ d ∈ rest.reverse, (d != '.') = true := by
        intro d within
        rw [List.mem_reverse] at within
        simp only [bne_iff_ne]
        rintro rfl
        exact plain within
      unfold splitName
      rw [List.reverse_cons, List.dropWhile_append_of_pos before]
      by_cases point : c = '.'
      · subst point
        rfl
      · simp [point]

theorem stem_dotted {front last : String} (filled : front ≠ "") (plain : '.' ∉ last.toList) :
    stem (front ++ "." ++ last) = front := by
  have cut : (front ++ "." ++ last).toList = front.toList ++ '.' :: last.toList := by simp
  rw [stem, cut, splitName_dotted (mt String.toList_eq_nil_iff.mp filled) plain, String.ofList_toList]

-- The last point in a name, unless it stands at the start.
theorem exists_dotted {name : List Char} (point : '.' ∈ name.tail) :
    ∃ front last, front ≠ [] ∧ '.' ∉ last ∧ name = front ++ '.' :: last := by
  cases name with
  | nil => cases point
  | cons c rest =>
      obtain ⟨after, before, turned, plain⟩ := List.eq_append_cons_of_mem (List.mem_reverse.mpr point)
      refine ⟨c :: before.reverse, after.reverse, List.cons_ne_nil _ _, mt List.mem_reverse.mp plain, ?_⟩
      have whole := congrArg List.reverse turned
      rw [List.reverse_reverse, List.tail_cons] at whole
      rw [whole]
      simp

theorem stem_eq_iff {name : String} : stem name = name ↔ '.' ∉ name.toList.tail := by
  constructor
  · intro same point
    obtain ⟨front, last, filled, plain, whole⟩ := exists_dotted point
    have letters := congrArg String.toList same
    rw [stem, whole, splitName_dotted filled plain, String.toList_ofList] at letters
    exact absurd (congrArg List.length letters) (by simp)
  · intro plain
    rw [stem, splitName_plain plain, String.ofList_toList]

theorem mem_of_mem_stem {name : String} {c : Char} (within : c ∈ (stem name).toList) : c ∈ name.toList := by
  rw [stem, String.toList_ofList] at within
  by_cases point : '.' ∈ name.toList.tail
  · obtain ⟨front, last, filled, plain, whole⟩ := exists_dotted point
    rw [whole, splitName_dotted filled plain] at within
    rw [whole]
    exact List.mem_append_left _ within
  · rwa [splitName_plain point] at within

-- What stands before a name in the path that leads to it from a folder.
def lead (folder : String) : List Char :=
  if folder == "" then [] else if folder.toList.getLast? == some '/' then folder.toList else folder.toList ++ ['/']

theorem toList_within (folder : String) {name : String} (relative : isAbsolute name = false) :
    (within folder name).toList = lead folder ++ name.toList := by
  unfold within lead
  rw [relative, Bool.false_or]
  split
  · rfl
  · split <;> simp

theorem lead_cases (folder : String) : lead folder = [] ∨ ∃ front, lead folder = front ++ ['/'] := by
  unfold lead
  split
  · exact .inl rfl
  · split
    · rename_i last
      exact .inr (List.getLast?_eq_some_iff.mp (beq_iff_eq.mp last))
    · exact .inr ⟨_, rfl⟩

theorem relative_of_single {name : String} (single : '/' ∉ name.toList) : isAbsolute name = false := by
  unfold isAbsolute
  cases letters : name.toList with
  | nil => rfl
  | cons c rest =>
      rw [letters, List.mem_cons, not_or] at single
      simpa using Ne.symm single.1

-- The parts of such a path: those of the folder, and the name.
theorem exists_parts (folder : String) : ∃ before : List (List Char), ∀ name : List Char, '/' ∉ name →
    Text.split '/' (lead folder ++ name) = before ++ [name] ∧
    Text.join ['/'] (before ++ [name]) = lead folder ++ name := by
  rcases lead_cases folder with none | ⟨front, slash⟩
  · refine ⟨[], fun name single => ?_⟩
    rw [none]
    exact ⟨Text.split_of_not_mem single, rfl⟩
  · refine ⟨Text.split '/' front, fun name single => ?_⟩
    rw [slash, List.append_assoc, List.singleton_append, Text.split_append_split, Text.split_of_not_mem single]
    exact ⟨rfl, Text.join_split_concat ..⟩

theorem withExtension_within (folder : String) {name extension : String} (component : IsComponent name)
    (single : '/' ∉ extension.toList) :
    withExtension (within folder name) extension = within folder (stem name ++ "." ++ extension) := by
  obtain ⟨before, known⟩ := exists_parts folder
  have letters : (stem name ++ "." ++ extension).toList = (splitName name.toList).1 ++ '.' :: extension.toList := by
    simp [stem]
  have apart : '/' ∉ (stem name ++ "." ++ extension).toList := by
    simp only [String.toList_append, List.mem_append, not_or]
    exact ⟨⟨mt mem_of_mem_stem component.single, by decide⟩, single⟩
  have last : splitLast? (within folder name) = some (before, name.toList) := by
    unfold splitLast? parts
    rw [toList_within folder (relative_of_single component.single), (known _ component.single).1, List.reverse_concat,
      List.dropWhile_cons_of_neg (by simp [component.loud])]
    simp
  unfold withExtension
  rw [last]
  dsimp only
  rw [if_neg component.proper, ofParts, ← letters, (known _ apart).2, ← toList_within folder (relative_of_single apart),
    String.ofList_toList]

end Files

end Conform
