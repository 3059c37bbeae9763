namespace Conform

inductive Segment
  | index (position : Nat)
  | key (name : String)
deriving DecidableEq

namespace Segment

def text : Segment → String
  | .index position => toString position
  | .key name => name

end Segment

-- Segments from the root inwards.
abbrev Path := List Segment

def Path.text (path : Path) : String := path.foldl (fun text segment => text ++ "[" ++ segment.text ++ "]") ""

structure Record where
  path : Path
  message : String
deriving DecidableEq

namespace Record

def here (message : String) : Record := ⟨[], message⟩

def text (record : Record) : String :=
  if record.path.isEmpty then record.message else record.path.text ++ ": " ++ record.message

def under (place : Path) (record : Record) : Record := ⟨place ++ record.path, record.message⟩

@[simp] theorem under_nil (record : Record) : record.under [] = record := rfl

@[simp] theorem under_under (outer inner : Path) (record : Record) :
    (record.under inner).under outer = record.under (outer ++ inner) := by
  simp [under, List.append_assoc]

end Record

structure Report where
  records : List Record
deriving DecidableEq

namespace Report

def empty : Report := ⟨[]⟩

instance : EmptyCollection Report := ⟨empty⟩

def ofMessage (message : String) : Report := ⟨[.here message]⟩

def isEmpty (report : Report) : Bool := report.records.isEmpty

def push (report : Report) (record : Record) : Report := ⟨report.records ++ [record]⟩

def append (first second : Report) : Report := ⟨first.records ++ second.records⟩

instance : Append Report := ⟨append⟩

def under (place : Path) (report : Report) : Report := ⟨report.records.map (·.under place)⟩

def move (source target : Report) (place : Path) : Report × Report := (∅, target ++ source.under place)

-- A report without records is `null`.
def text (report : Report) : String :=
  if report.isEmpty then "null" else "\n".intercalate (report.records.map Record.text)

def result (report : Report) (value : α) : Except Report α := if report.isEmpty then .ok value else .error report

@[simp] theorem records_append (first second : Report) :
    (first ++ second).records = first.records ++ second.records := rfl

@[simp] theorem records_empty : (∅ : Report).records = [] := rfl

@[simp] theorem under_nil (report : Report) : report.under [] = report := by simp [under]

@[simp] theorem under_under (outer inner : Path) (report : Report) :
    (report.under inner).under outer = report.under (outer ++ inner) := by
  simp only [under, List.map_map]
  congr 1
  exact List.map_congr_left fun record _ => Record.under_under outer inner record

end Report
end Conform
