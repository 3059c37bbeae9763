import Conform.Files.Path

namespace Conform.Files

-- Names from the outermost folder inwards.
abbrev Place := List (List Char)

-- Every folder is in a folder, up to the outermost one, and files are in folders where no folder has their name.
structure Workspace where
  current : Place
  files : List (Place × String)
  folders : List Place
  rooted : [] ∈ folders := by decide
  housed : current ∈ folders := by decide
  closed : ∀ place ∈ folders, place.dropLast ∈ folders := by decide
  filed : ∀ file ∈ files, file.1.dropLast ∈ folders ∧ file.1 ∉ folders := by decide

namespace Workspace

def isFileAt (workspace : Workspace) (place : Place) : Bool := (workspace.files.lookup place).isSome

def isFolderAt (workspace : Workspace) (place : Place) : Bool := workspace.folders.contains place

def empty (current : Place) : Workspace where
  current := current
  files := []
  folders := (List.range (current.length + 1)).map current.take
  rooted := List.mem_map.mpr ⟨0, List.mem_range.mpr (Nat.succ_pos _), rfl⟩
  housed := List.mem_map.mpr ⟨current.length, List.mem_range.mpr (Nat.lt_succ_self _), List.take_length⟩
  closed place inside := by
    obtain ⟨count, inRange, rfl⟩ := List.mem_map.mp inside
    have bound := List.mem_range.mp inRange
    refine List.mem_map.mpr ⟨count - 1, List.mem_range.mpr (by omega), ?_⟩
    rw [List.dropLast_eq_take, List.take_take, List.length_take]
    congr 1
    omega
  filed := nofun

def start (workspace : Workspace) (path : String) : Place := if isAbsolute path then [] else workspace.current

def enter (workspace : Workspace) (here : Place) (part : List Char) : Option Place :=
  if !workspace.isFolderAt here then none
  else if isSilent part then some here
  else if part = upwards then some here.dropLast
  else
    let next := here ++ [part]
    if workspace.isFileAt next || workspace.isFolderAt next then some next else none

def locate? (workspace : Workspace) (path : String) : Option Place :=
  if path = "" then none else (parts path).foldlM workspace.enter (workspace.start path)

def contains (workspace : Workspace) (path : String) : Bool := (workspace.locate? path).isSome

def isFile (workspace : Workspace) (path : String) : Bool := (workspace.locate? path).any workspace.isFileAt

def read? (workspace : Workspace) (path : String) : Option String :=
  (workspace.locate? path).bind fun place => workspace.files.lookup place

def put (files : List (Place × String)) (place : Place) (text : String) : List (Place × String) :=
  match files with
  | [] => [(place, text)]
  | file :: rest => if file.1 = place then (place, text) :: rest else file :: put rest place text

theorem lookup_put_self (files : List (Place × String)) (place : Place) (text : String) :
    (put files place text).lookup place = some text := by
  induction files with
  | nil => simp [put]
  | cons file rest ih =>
      obtain ⟨taken, content⟩ := file
      unfold put
      split
      · simp
      · rename_i different
        have apart : (place == taken) = false := by simpa using fun same => different same.symm
        rw [List.lookup_cons, apart]
        exact ih

theorem lookup_put_of_ne (files : List (Place × String)) {place other : Place} (text : String)
    (different : other ≠ place) : (put files place text).lookup other = files.lookup other := by
  have apart : (other == place) = false := by simpa using different
  induction files with
  | nil => simp [put, List.lookup_cons, apart]
  | cons file rest ih =>
      obtain ⟨taken, content⟩ := file
      unfold put
      split
      · rename_i same
        subst same
        simp only [List.lookup_cons, apart]
      · simp only [List.lookup_cons, ih]

theorem mem_put {files : List (Place × String)} {place : Place} {text : String} {file : Place × String}
    (listed : file ∈ put files place text) : file = (place, text) ∨ file ∈ files := by
  induction files with
  | nil => exact .inl (List.mem_singleton.mp listed)
  | cons other rest ih =>
      unfold put at listed
      split at listed
      · exact (List.mem_cons.mp listed).imp_right (List.mem_cons_of_mem _)
      · rcases List.mem_cons.mp listed with rfl | later
        · exact .inr (List.mem_cons_self ..)
        · exact (ih later).imp_right (List.mem_cons_of_mem _)

def makeFolder (workspace : Workspace) (here : Place) (name : List Char) (inside : here ∈ workspace.folders)
    (free : workspace.isFileAt (here ++ [name]) = false) : Workspace where
  current := workspace.current
  files := workspace.files
  folders := (here ++ [name]) :: workspace.folders
  rooted := List.mem_cons_of_mem _ workspace.rooted
  housed := List.mem_cons_of_mem _ workspace.housed
  closed place listed := by
    rcases List.mem_cons.mp listed with rfl | older
    · rw [List.dropLast_concat]
      exact List.mem_cons_of_mem _ inside
    · exact List.mem_cons_of_mem _ (workspace.closed place older)
  filed file listed := by
    obtain ⟨housed, apart⟩ := workspace.filed file listed
    refine ⟨List.mem_cons_of_mem _ housed, fun taken => ?_⟩
    rcases List.mem_cons.mp taken with same | older
    · have missing := List.lookup_eq_none_iff.mp (Option.isNone_iff_eq_none.mp (Option.isSome_eq_false_iff.mp free))
      simpa [same] using missing file listed
    · exact apart older

def putFile (workspace : Workspace) (here : Place) (name : List Char) (text : String) (inside : here ∈ workspace.folders)
    (free : here ++ [name] ∉ workspace.folders) : Workspace :=
  { workspace with
    files := put workspace.files (here ++ [name]) text
    filed := by
      intro file listed
      rcases mem_put listed with rfl | older
      · rw [List.dropLast_concat]
        exact ⟨inside, free⟩
      · exact workspace.filed file older }

theorem start_mem (workspace : Workspace) (path : String) : workspace.start path ∈ workspace.folders := by
  unfold start
  split
  · exact workspace.rooted
  · exact workspace.housed

-- A folder, in the workspace as it has become.
structure Visit where
  workspace : Workspace
  here : Place
  inside : here ∈ workspace.folders

-- Enters a folder, which is made if there is nothing of its name; a file is in the way.
def Visit.enter (visit : Visit) (part : List Char) : Except Workspace Visit :=
  let next := visit.here ++ [part]
  if isSilent part then .ok visit
  else if part = upwards then .ok ⟨visit.workspace, visit.here.dropLast, visit.workspace.closed _ visit.inside⟩
  else if there : next ∈ visit.workspace.folders then .ok ⟨visit.workspace, next, there⟩
  else if free : visit.workspace.isFileAt next = false then
    .ok ⟨visit.workspace.makeFolder visit.here part visit.inside free, next, List.mem_cons_self⟩
  else .error visit.workspace

-- Writes a file, in folders that are made where they are missing, and tells whether it could be written. Folders that
-- were made stay if it could not.
def write (workspace : Workspace) (path text : String) : Bool × Workspace :=
  match splitLast? path with
  | none => (false, workspace)
  | some (before, name) =>
      match before.foldlM Visit.enter ⟨workspace, workspace.start path, workspace.start_mem path⟩ with
      | .error made => (false, made)
      | .ok ⟨made, here, inside⟩ =>
          if free : here ++ [name] ∉ made.folders then
            -- the name of a file is the end of its path
            if name ≠ upwards ∧ (parts path).getLast? = some name then (true, made.putFile here name text inside free)
            else (false, made)
          else (false, made)

def write? (workspace : Workspace) (path text : String) : Option Workspace :=
  match workspace.write path text with
  | (true, later) => some later
  | (false, _) => none

end Workspace
end Conform.Files
