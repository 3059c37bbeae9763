import Conform.Proofs.Json.Structure
import Conform.Proofs.Json.Text
import Mathlib.Data.List.Nodup
import Mathlib.Data.List.Perm.Subperm

namespace Conform

namespace Members

-- The members of an object that has these fields, in any order and with others beside them.
def Carry (members fields : Members) : Prop := members.keys.Nodup ∧ ∃ others, members.Perm (fields ++ others)

theorem Carry.get? {members fields : Members} (carry : members.Carry fields) {field : String × Json}
    (within : field ∈ fields) : members.get? field.1 = some field.2 := by
  obtain ⟨distinct, others, moved⟩ := carry
  exact get?_of_mem distinct (moved.mem_iff.mpr (List.mem_append_left others within))

theorem Carry.self {fields : Members} (distinct : fields.keys.Nodup) : fields.Carry fields :=
  ⟨distinct, [], by rw [List.append_nil]⟩

theorem carry_of_get? {members fields : Members} (distinct : members.keys.Nodup) (apart : fields.keys.Nodup)
    (found : ∀ field ∈ fields, members.get? field.1 = some field.2) : members.Carry fields := by
  have within : fields ⊆ members := fun field listed => mem_of_get? (found field listed)
  obtain ⟨moved, same, sub⟩ := List.subperm_of_subset (List.Nodup.of_map _ apart) within
  obtain ⟨others, whole⟩ := sub.exists_perm_append
  exact ⟨distinct, others, whole.trans (same.append_right others)⟩

end Members

theorem mapM_eq_some_iff {α β : Type} {read : α → Option β} {items : List α} {values : List β} :
    items.mapM read = some values ↔ List.Forall₂ (fun value item => read item = some value) values items := by
  induction items generalizing values with
  | nil =>
      rw [List.mapM_nil, List.forall₂_nil_right_iff, Option.pure_def, Option.some_inj, eq_comm]
  | cons item rest ih =>
      simp only [List.mapM_cons, Option.bind_eq_bind, Option.bind_eq_some_iff, Option.pure_def, Option.some_inj, ih,
        List.forall₂_cons_right_iff]
      constructor
      · rintro ⟨value, first, more, later, rfl⟩
        exact ⟨value, more, first, later, rfl⟩
      · rintro ⟨value, more, first, later, rfl⟩
        exact ⟨value, first, more, later, rfl⟩

section Wire

theorem Segment.ofJson?_toJson {segment : Segment} (small : segment.Small) :
    ofJson? segment.toJson = some segment := by
  cases segment with
  | index position =>
      obtain ⟨inRange, number⟩ := Json.ofNat_of_lt small
      rw [toJson, number, ofJson?, if_pos (Int.natCast_nonneg position), Int.toNat_natCast]
  | key name => rfl

-- Only a number is read as a position and only a text as a key, so that each segment is read from a single value.
theorem Segment.toJson_of_ofJson? {value : Json} {segment : Segment} (read : ofJson? value = some segment) :
    segment.Small ∧ segment.toJson = value := by
  cases value with
  | number number =>
      cases number with
      | integer value inRange =>
          rw [ofJson?] at read
          split at read
          · rename_i positive
            cases read
            obtain ⟨position, rfl⟩ := Int.eq_ofNat_of_zero_le positive
            obtain ⟨_, number⟩ := Json.ofNat_of_lt inRange.2
            exact ⟨inRange.2, number⟩
          · cases read
      | float value => cases read
  | string name =>
      cases read
      exact ⟨trivial, rfl⟩
  | null | bool | array | object => cases read

theorem Segment.ofJson?_eq_some_iff {value : Json} {segment : Segment} :
    ofJson? value = some segment ↔ segment.Small ∧ segment.toJson = value := by
  constructor
  · exact toJson_of_ofJson?
  · rintro ⟨small, rfl⟩
    exact ofJson?_toJson small

theorem Path.ofJson?_eq_some_iff {value : Json} {path : Path} :
    ofJson? value = some path ↔ (∀ segment ∈ path, segment.Small) ∧ path.toJson = value := by
  cases value with
  | array items =>
      simp only [ofJson?, mapM_eq_some_iff, Segment.ofJson?_eq_some_iff, List.forall₂_and_left, toJson,
        Json.array.injEq, ← List.forall₂_map_left_iff, List.forall₂_eq_eq_eq]
  | null | bool | number | string | object => simp [ofJson?, toJson]

-- A record by the names of its fields or by their positions.
inductive Record.Wire (record : Record) : Json → Prop
  | named {members : Members}
      (fields : members.Carry [("path", record.path.toJson), ("message", .string record.message)]) :
      Wire record (.object members)
  | positional : Wire record (.array [record.path.toJson, .string record.message])

theorem Record.ofFields?_eq_some_iff {path message : Json} {record : Record} :
    ofFields? path message = some record ↔
      (∀ segment ∈ record.path, segment.Small) ∧ record.path.toJson = path ∧ .string record.message = message := by
  rw [← and_assoc, ← Path.ofJson?_eq_some_iff]
  obtain ⟨place, text⟩ := record
  unfold ofFields?
  cases read : Path.ofJson? path with
  | none => simp
  | some other => cases message <;> simp [eq_comm]

theorem Record.ofJson?_of_wire {record : Record} {value : Json} (small : ∀ segment ∈ record.path, segment.Small)
    (wire : record.Wire value) : ofJson? value = some record := by
  have read : ofFields? record.path.toJson (.string record.message) = some record :=
    ofFields?_eq_some_iff.mpr ⟨small, rfl, rfl⟩
  cases wire with
  | named fields =>
      have path := fields.get? (List.mem_cons_self ..)
      have message := fields.get? (List.mem_cons_of_mem _ (List.mem_cons_self ..))
      rw [ofJson?, path, message]
      exact read
  | positional => exact read

theorem Record.wire_of_ofJson? {record : Record} {value : Json} (distinct : value.KeysDistinct)
    (read : ofJson? value = some record) : (∀ segment ∈ record.path, segment.Small) ∧ record.Wire value := by
  unfold ofJson? at read
  split at read
  · rename_i members
    split at read
    · rename_i path message found found'
      obtain ⟨small, rfl, rfl⟩ := ofFields?_eq_some_iff.mp read
      cases distinct with
      | object distinct _ =>
          refine ⟨small, .named (Members.carry_of_get? distinct (by simp) ?_)⟩
          simp [found, found']
    · cases read
  · obtain ⟨small, rfl, rfl⟩ := ofFields?_eq_some_iff.mp read
    exact ⟨small, .positional⟩
  · cases read

-- A report by the name of its field or by its position; its records each in a form of their own.
inductive Report.Wire (report : Report) : Json → Prop
  | named {members : Members} {items : List Json} (each : List.Forall₂ Record.Wire report.records items)
      (fields : members.Carry [("records", .array items)]) : Wire report (.object members)
  | positional {items : List Json} (each : List.Forall₂ Record.Wire report.records items) :
      Wire report (.array [.array items])

theorem Report.ofRecords?_eq_some_iff {items : List Json} {report : Report} :
    ofRecords? (.array items) = some report ↔
      List.Forall₂ (fun record item => Record.ofJson? item = some record) report.records items := by
  obtain ⟨records⟩ := report
  simp [ofRecords?, mapM_eq_some_iff]

theorem Report.ofRecords?_of_wire {report : Report} {items : List Json} (small : report.Small)
    (each : List.Forall₂ Record.Wire report.records items) : ofRecords? (.array items) = some report := by
  have both := (List.forall₂_and_left report.records items).mpr ⟨small, each⟩
  exact ofRecords?_eq_some_iff.mpr (both.imp fun _ _ known => Record.ofJson?_of_wire known.1 known.2)

theorem Report.wire_of_ofRecords? {report : Report} {value : Json} (distinct : value.KeysDistinct)
    (read : ofRecords? value = some report) :
    report.Small ∧ ∃ items, value = .array items ∧ List.Forall₂ Record.Wire report.records items := by
  cases distinct with
  | @array items distinct =>
      have each := ofRecords?_eq_some_iff.mp read
      have known := ((List.forall₂_and_left items report.records).mpr ⟨distinct, each.flip⟩).flip
      have wired : List.Forall₂ (fun record item => (∀ segment ∈ record.path, segment.Small) ∧ record.Wire item)
          report.records items := known.imp fun _ _ known => Record.wire_of_ofJson? known.1 known.2
      obtain ⟨small, wires⟩ := (List.forall₂_and_left report.records items).mp wired
      exact ⟨small, items, rfl, wires⟩
  | null | bool | number | string | object => cases read

theorem Report.ofJson?_of_wire {report : Report} {value : Json} (small : report.Small) (wire : report.Wire value) :
    ofJson? value = some report := by
  cases wire with
  | named each fields =>
      rw [ofJson?, fields.get? (List.mem_singleton_self _)]
      exact ofRecords?_of_wire small each
  | positional each => exact ofRecords?_of_wire small each

theorem Report.wire_of_ofJson? {report : Report} {value : Json} (distinct : value.KeysDistinct)
    (read : ofJson? value = some report) : report.Small ∧ report.Wire value := by
  unfold ofJson? at read
  split at read
  · rename_i members
    obtain ⟨records, found, read⟩ := Option.bind_eq_some_iff.mp read
    cases distinct with
    | object distinct below =>
        obtain ⟨small, items, rfl, each⟩ := wire_of_ofRecords? (below _ (Members.mem_of_get? found)) read
        exact ⟨small, .named each (Members.carry_of_get? distinct (by simp) (by simpa using found))⟩
  · cases distinct with
    | array below =>
        obtain ⟨small, items, rfl, each⟩ := wire_of_ofRecords? (below _ (List.mem_singleton_self _)) read
        exact ⟨small, .positional each⟩
  · cases read

theorem Record.wire_toJson (record : Record) : record.Wire record.toJson := .named (.self (by simp))

theorem Report.wire_toJson (report : Report) : report.Wire report.toJson := by
  refine .named ?_ (.self (by simp))
  rw [List.forall₂_map_right_iff, List.forall₂_same]
  exact fun record _ => record.wire_toJson

end Wire

namespace Report

-- Of values that repeat no key, the forms of a report are all that is read as it.
theorem ofJson?_eq_some_iff {value : Json} (distinct : value.KeysDistinct) {report : Report} :
    ofJson? value = some report ↔ report.Small ∧ report.Wire value :=
  ⟨wire_of_ofJson? distinct, fun known => ofJson?_of_wire known.1 known.2⟩

-- What a report is written as is read as it, and so is each of its forms.
theorem survives_encoding (report : Report) (small : report.Small) :
    ofJson? report.toJson = some report ∧ ∀ value, report.Wire value → ofJson? value = some report :=
  ⟨ofJson?_of_wire small report.wire_toJson, fun _ => ofJson?_of_wire small⟩

-- A key that looks like a number, that number, the largest position and a key without characters.
def mixedReport : Report := ⟨[⟨[.key "0", .index 0, .index 18446744073709551615, .key ""], "Missing"⟩, ⟨[], ""⟩]⟩

def mixedPath : Json := Path.toJson [.key "0", .index 0, .index 18446744073709551615, .key ""]

def namedRoot : Json := .object [("message", .string ""), ("note", .null), ("path", .array [])]

-- By position throughout, and by name with the fields turned round and others beside them.
theorem mixedReport_survives : mixedReport.Small ∧
    ofJson? mixedReport.toJson = some mixedReport ∧
    ofJson? (.array [.array [.array [mixedPath, .string "Missing"], .array [.array [], .string ""]]]) =
      some mixedReport ∧
    ofJson? (.object [("count", .bool true), ("records", .array [.array [mixedPath, .string "Missing"], namedRoot])]) =
      some mixedReport := by
  have small : mixedReport.Small := by
    simp [Report.Small, mixedReport, Segment.Small, Number.unsignedEnd]
  have turned : Record.Wire ⟨[], ""⟩ namedRoot := by
    refine .named ⟨by decide, [("note", .null)], ?_⟩
    exact @List.perm_middle (String × Json) ("path", .array []) [("message", .string ""), ("note", .null)] []
  have each : List.Forall₂ Record.Wire mixedReport.records [.array [mixedPath, .string "Missing"], namedRoot] :=
    .cons .positional (.cons turned .nil)
  have survives := survives_encoding mixedReport small
  refine ⟨small, survives.1, survives.2 _ (.positional ?_), survives.2 _ (.named each ?_)⟩
  · exact .cons .positional (.cons .positional .nil)
  · exact ⟨by decide, [("count", .bool true)], .swap ..⟩

end Report

end Conform
