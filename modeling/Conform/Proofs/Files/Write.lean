import Conform.Files.Workspace

namespace Conform.Files.Workspace

theorem isFolderAt_iff {workspace : Workspace} {place : Place} :
    workspace.isFolderAt place = true ↔ place ∈ workspace.folders := List.contains_iff_mem

-- What entering folders may do: make more of them.
structure Grown (before after : Workspace) : Prop where
  files : after.files = before.files
  current : after.current = before.current
  folders : before.folders ⊆ after.folders

theorem Grown.refl (workspace : Workspace) : Grown workspace workspace := ⟨rfl, rfl, List.Subset.refl _⟩

theorem Grown.trans {first second third : Workspace} (earlier : Grown first second) (later : Grown second third) :
    Grown first third :=
  ⟨later.files.trans earlier.files, later.current.trans earlier.current, List.Subset.trans earlier.folders later.folders⟩

namespace Visit
variable {visit next : Visit} {made : Workspace} {part : List Char} {parts : List (List Char)}

theorem grown_enter (entered : visit.enter part = .ok next) : Grown visit.workspace next.workspace := by
  unfold enter at entered
  dsimp only at entered
  split at entered
  · cases entered
    exact .refl _
  · split at entered
    · cases entered
      exact .refl _
    · split at entered
      · cases entered
        exact .refl _
      · split at entered
        · cases entered
          exact ⟨rfl, rfl, List.subset_cons_self ..⟩
        · cases entered

theorem eq_of_enter_error (blocked : visit.enter part = .error made) : made = visit.workspace := by
  unfold enter at blocked
  dsimp only at blocked
  repeat' split at blocked
  all_goals cases blocked
  rfl

-- A folder that was entered, or made, can be entered again by the same name.
theorem enter_again (entered : visit.enter part = .ok next) {last : Workspace}
    (kept : next.workspace.folders ⊆ last.folders) : last.enter visit.here part = some next.here := by
  have started := last.isFolderAt_iff.mpr (kept ((grown_enter entered).folders visit.inside))
  have reached := last.isFolderAt_iff.mpr (kept next.inside)
  unfold Visit.enter at entered
  dsimp only at entered
  unfold Workspace.enter
  rw [started, Bool.not_true, if_neg (by decide)]
  split at entered
  · rename_i silent
    cases entered
    rw [if_pos silent]
  · rename_i loud
    rw [if_neg loud]
    split at entered
    · rename_i up
      cases entered
      rw [if_pos up]
    · rename_i down
      have known : visit.here ++ [part] = next.here := by
        split at entered
        · cases entered
          rfl
        · split at entered
          · cases entered
            rfl
          · cases entered
      rw [if_neg down, known]
      dsimp only
      rw [reached, Bool.or_true, if_pos rfl]

theorem grown_foldlM (entered : parts.foldlM enter visit = .ok next) : Grown visit.workspace next.workspace ∧
    ∀ last : Workspace, next.workspace.folders ⊆ last.folders → parts.foldlM last.enter visit.here = some next.here := by
  induction parts generalizing visit with
  | nil =>
      cases entered
      exact ⟨.refl _, fun _ _ => rfl⟩
  | cons part rest ih =>
      rw [List.foldlM_cons] at entered
      cases first : visit.enter part with
      | error made =>
          rw [first] at entered
          cases entered
      | ok between =>
          rw [first] at entered
          obtain ⟨grown, again⟩ := ih entered
          refine ⟨(grown_enter first).trans grown, fun last kept => ?_⟩
          rw [List.foldlM_cons, enter_again first (List.Subset.trans grown.folders kept)]
          exact again last kept

theorem grown_of_foldlM_error (blocked : parts.foldlM enter visit = .error made) : Grown visit.workspace made := by
  induction parts generalizing visit with
  | nil => cases blocked
  | cons part rest ih =>
      rw [List.foldlM_cons] at blocked
      cases first : visit.enter part with
      | error made' =>
          rw [first] at blocked
          cases blocked
          rw [eq_of_enter_error first]
          exact .refl _
      | ok between =>
          rw [first] at blocked
          exact (grown_enter first).trans (ih blocked)

end Visit

section Name
variable {workspace : Workspace} {path : String} {before : List (List Char)} {name : List Char}

-- A path that ends with the name of a file has nothing else after what is before it.
theorem parts_eq_of_splitLast? (split : splitLast? path = some (before, name))
    (last : (parts path).getLast? = some name) : parts path = before ++ [name] ∧ isSilent name = false := by
  unfold splitLast? at split
  obtain ⟨front, whole⟩ := List.getLast?_eq_some_iff.mp last
  rw [whole, List.reverse_concat] at split
  split at split
  · cases split
  · rename_i name' turned shape
    cases split
    by_cases silent : isSilent name = true
    · have stop := List.head?_dropWhile_not isSilent (name :: front.reverse)
      rw [shape, List.head?_cons] at stop
      exact absurd (silent.symm.trans stop) (by decide)
    · rw [List.dropWhile_cons_of_neg silent, List.cons.injEq] at shape
      rw [whole, ← shape.2, List.reverse_reverse]
      exact ⟨rfl, Bool.eq_false_iff.mpr silent⟩

theorem enter_name {here : Place} (inside : here ∈ workspace.folders) (loud : isSilent name = false)
    (proper : name ≠ upwards) (file : workspace.isFileAt (here ++ [name]) = true) :
    workspace.enter here name = some (here ++ [name]) := by
  unfold enter
  rw [isFolderAt_iff.mpr inside, Bool.not_true, if_neg (by decide), loud, if_neg (by decide), if_neg proper]
  dsimp only
  rw [file, Bool.true_or, if_pos rfl]

theorem locate?_name {here : Place} (split : splitLast? path = some (before, name))
    (last : (parts path).getLast? = some name) (proper : name ≠ upwards)
    (entered : before.foldlM workspace.enter (workspace.start path) = some here) (inside : here ∈ workspace.folders)
    (file : workspace.isFileAt (here ++ [name]) = true) : workspace.locate? path = some (here ++ [name]) := by
  obtain ⟨whole, loud⟩ := parts_eq_of_splitLast? split last
  have filled : path ≠ "" := by
    rintro rfl
    cases last
    cases loud
  unfold locate?
  rw [if_neg filled, whole, List.foldlM_append, entered]
  change ([name].foldlM workspace.enter here : Option Place) = _
  rw [List.foldlM_cons, enter_name inside loud proper file]
  rfl

end Name

-- What writing a file does where it can be done.
structure Written (before : Workspace) (path text : String) (after : Workspace) (place : Place) : Prop where
  located : after.locate? path = some place
  files : after.files = put before.files place text

section Write
variable {workspace later : Workspace} {path text : String}

theorem exists_written (wrote : workspace.write path text = (true, later)) :
    ∃ place, Written workspace path text later place := by
  unfold write at wrote
  split at wrote
  · cases wrote
  · rename_i before name split
    split at wrote
    · cases wrote
    · rename_i made here inside entered
      split at wrote
      · rename_i free
        split at wrote
        · rename_i ended
          cases wrote
          obtain ⟨grown, again⟩ := Visit.grown_foldlM entered
          refine ⟨here ++ [name], locate?_name split ended.2 ended.1 ?_ inside ?_, congrArg (put · _ _) grown.files⟩
          · have started : (made.putFile here name text inside free).start path = workspace.start path := by
              unfold start putFile
              dsimp only
              rw [grown.current]
            rw [started]
            exact again _ (List.Subset.refl _)
          · unfold isFileAt putFile
            rw [lookup_put_self]
            rfl
        · cases wrote
      · cases wrote

-- Where a file cannot be written, no other is touched.
theorem grown_of_not_written (failed : workspace.write path text = (false, later)) : Grown workspace later := by
  unfold write at failed
  split at failed
  · cases failed
    exact .refl _
  · split at failed
    · rename_i blocked
      cases failed
      exact Visit.grown_of_foldlM_error blocked
    · rename_i entered
      have grown := (Visit.grown_foldlM entered).1
      split at failed
      · split at failed
        · cases failed
        · cases failed
          exact grown
      · cases failed
        exact grown

theorem write?_eq_some_iff : workspace.write? path text = some later ↔ workspace.write path text = (true, later) := by
  unfold write?
  split <;> simp_all

end Write

namespace Written
variable {before after : Workspace} {path text : String} {place : Place} (written : Written before path text after place)
include written

theorem lookup : after.files.lookup place = some text := by
  rw [written.files]
  exact lookup_put_self ..

theorem lookup_of_ne {other : Place} (different : other ≠ place) :
    after.files.lookup other = before.files.lookup other := by
  rw [written.files]
  exact lookup_put_of_ne _ text different

theorem read : after.read? path = some text := by
  rw [read?, written.located]
  exact written.lookup

end Written

end Conform.Files.Workspace
