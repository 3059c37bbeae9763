import Conform.Json.Basic
import Conform.Report.Basic

namespace Conform

namespace Json

def ofNat (value : Nat) : Json :=
  match Number.ofInt? value with
  | some integer => .number integer
  | none => .null

end Json

namespace Segment

def toJson : Segment → Json
  | .index position => .ofNat position
  | .key name => .string name

def ofJson? : Json → Option Segment
  | .number (.integer value _) => if 0 ≤ value then some (.index value.toNat) else none
  | .string name => some (.key name)
  | _ => none

end Segment

namespace Path

def toJson (path : Path) : Json := .array (path.map Segment.toJson)

def ofJson? : Json → Option Path
  | .array items => items.mapM Segment.ofJson?
  | _ => none

end Path

namespace Record

def toJson (record : Record) : Json := .object [("path", record.path.toJson), ("message", .string record.message)]

def ofFields? (path message : Json) : Option Record :=
  match Path.ofJson? path, message with
  | some path, .string message => some ⟨path, message⟩
  | _, _ => none

def ofJson? : Json → Option Record
  | .object members =>
      match Members.get? members "path", Members.get? members "message" with
      | some path, some message => ofFields? path message
      | _, _ => none
  | .array [path, message] => ofFields? path message
  | _ => none

end Record

namespace Report

def toJson (report : Report) : Json := .object [("records", .array (report.records.map Record.toJson))]

def ofRecords? : Json → Option Report
  | .array items => (items.mapM Record.ofJson?).map Report.mk
  | _ => none

def ofJson? : Json → Option Report
  | .object members => (Members.get? members "records").bind ofRecords?
  | .array [records] => ofRecords? records
  | _ => none

end Report
end Conform
