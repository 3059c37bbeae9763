namespace Conform

structure Table (α : Type) where
  rows : List (String × α)
  sorted : (rows.map Prod.fst).Pairwise (· < ·)

namespace Table
variable {α : Type}

def empty : Table α := ⟨[], .nil⟩

instance : EmptyCollection (Table α) := ⟨empty⟩

def names (table : Table α) : List String := table.rows.map Prod.fst

def get? (table : Table α) (name : String) : Option α := (table.rows.find? (·.1 == name)).map Prod.snd

def has (table : Table α) (name : String) : Bool := (table.get? name).isSome

def insertRow (name : String) (value : α) : List (String × α) → List (String × α)
  | [] => [(name, value)]
  | row :: rows =>
      if name = row.1 then (name, value) :: rows
      else if name < row.1 then (name, value) :: row :: rows
      else row :: insertRow name value rows

theorem lt_of_not_lt {first second : String} (different : first ≠ second) (notLess : ¬ first < second) :
    second < first := by
  exact Std.lt_of_le_of_ne (Std.not_lt.mp notLess) different.symm

theorem mem_insertRow {name : String} {value : α} {rows : List (String × α)} {key : String} :
    key ∈ (insertRow name value rows).map Prod.fst ↔ key = name ∨ key ∈ rows.map Prod.fst := by
  induction rows with
  | nil => simp [insertRow]
  | cons row rows ih =>
      unfold insertRow
      split
      · rename_i same
        subst same
        simp
      · split
        · simp
        · rw [List.map_cons, List.mem_cons, ih, List.map_cons, List.mem_cons]
          exact or_left_comm

theorem sorted_insertRow (name : String) (value : α) (rows : List (String × α))
    (sorted : (rows.map Prod.fst).Pairwise (· < ·)) : ((insertRow name value rows).map Prod.fst).Pairwise (· < ·) := by
  induction rows with
  | nil => simp [insertRow]
  | cons row rows ih =>
      rw [List.map_cons, List.pairwise_cons] at sorted
      unfold insertRow
      split
      · rename_i same
        subst same
        rw [List.map_cons, List.pairwise_cons]
        exact sorted
      · rename_i different
        split
        · rename_i less
          simp only [List.map_cons, List.pairwise_cons, List.mem_cons]
          refine ⟨?_, sorted⟩
          rintro key (rfl | later)
          · exact less
          · exact Std.lt_trans less (sorted.1 _ later)
        · rename_i notLess
          rw [List.map_cons, List.pairwise_cons]
          refine ⟨?_, ih sorted.2⟩
          intro key member
          rcases mem_insertRow.mp member with rfl | old
          · exact lt_of_not_lt different notLess
          · exact sorted.1 _ old

def insert (table : Table α) (name : String) (value : α) : Table α :=
  ⟨insertRow name value table.rows, sorted_insertRow _ _ _ table.sorted⟩

def ofList (rows : List (String × α)) : Table α := rows.foldl (fun table row => table.insert row.1 row.2) ∅

theorem get?_insert_self (table : Table α) (name : String) (value : α) :
    (table.insert name value).get? name = some value := by
  have step : ∀ rows : List (String × α), (insertRow name value rows).find? (·.1 == name) = some (name, value) := by
    intro rows
    induction rows with
    | nil => simp [insertRow]
    | cons row rows ih =>
        unfold insertRow
        split
        · simp
        · split
          · simp
          · rename_i different _
            rw [List.find?_cons_of_neg (by simpa using fun same => different same.symm), ih]
  simp [get?, insert, step]

theorem get?_insert_of_ne (table : Table α) {name other : String} (value : α) (different : other ≠ name) :
    (table.insert name value).get? other = table.get? other := by
  have skip : (name == other) = false := by simpa using fun same => different same.symm
  have step : ∀ rows : List (String × α),
      (insertRow name value rows).find? (·.1 == other) = rows.find? (·.1 == other) := by
    intro rows
    induction rows with
    | nil => simp [insertRow, skip]
    | cons row rows ih =>
        unfold insertRow
        split
        · rename_i same
          simp only [List.find?_cons, skip, ← same]
        · split
          · simp only [List.find?_cons, skip]
          · simp only [List.find?_cons, ih]
  simp [get?, insert, step]

theorem mem_names_insert {table : Table α} {name key : String} {value : α} :
    key ∈ (table.insert name value).names ↔ key = name ∨ key ∈ table.names := mem_insertRow

theorem has_iff_mem_names {table : Table α} {name : String} : table.has name = true ↔ name ∈ table.names := by
  simp [has, get?, names, List.find?_isSome]

end Table
end Conform
