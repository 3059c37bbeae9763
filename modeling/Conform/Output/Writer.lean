import Conform.Output.Columns
import Conform.Output.Format
import Conform.Output.Style
import Conform.Registry.Basic
import Conform.Report.Encoding

namespace Conform.Output

structure Writer where
  format : Format
  color : Bool
  quiet : Bool

inductive Step
  | info (message : String)
  | success (message : String)
  | heading (title : String)
  | table (headers : List String) (rows : List (List String))
  | data (value : Json)
  | report (report : Report)
  | listing (registry : Registry)

def lineOf (text : String) : String := text ++ "\n"

def closed (text : String) : String := if text.toList.getLast? == some '\n' then text else lineOf text

-- Lines with either kind of line end, and without it.
def linesOf (text : String) : List String :=
  let pieces := Text.split '\n' text.toList
  let ended := pieces.dropLast.map fun piece => if piece.getLast? == some '\r' then piece.dropLast else piece
  let last := (pieces.getLast?.toList).filter (!·.isEmpty)
  (ended ++ last).map String.ofList

def reportTitle (report : Report) : String := "✗ Validation failed - " ++ toString report.records.length ++ " error(s)"

def numbered (report : Report) : String :=
  String.join (report.records.zipIdx.map fun (record, index) =>
    lineOf ("  " ++ toString (index + 1) ++ ". " ++ record.text))

def listingValue (registry : Registry) : Json :=
  .object [
    ("types", .array (registry.types.rows.map fun (name, entry) =>
      .object [("name", .string name), ("null_check_post", .bool entry.nullAfter)])),
    ("transforms", .array (registry.transforms.rows.map fun (name, factory) =>
      .object [("name", .string name), ("configurable", .bool factory.isConfigurable)]))]

def typeRows (registry : Registry) : List (List String) :=
  registry.types.rows.map fun (name, entry) => [name, if entry.nullAfter then "after" else "before"]

def transformRows (registry : Registry) : List (List String) :=
  registry.transforms.rows.map fun (name, factory) => [name, if factory.isConfigurable then "yes" else "no"]

namespace Writer

-- Whether messages, headings and tables are printed.
def isTalkative (writer : Writer) : Bool := writer.format == .human && !writer.quiet

def styled (writer : Writer) (style : Style) (text : String) : String := if writer.color then style.apply text else text

def spoken (writer : Writer) (text : String) : String := if writer.isTalkative then text else ""

def info (writer : Writer) (message : String) : String :=
  writer.spoken (lineOf (if writer.color then Style.blue.apply "ℹ" ++ " " ++ message else "INFO: " ++ message))

def success (writer : Writer) (message : String) : String := writer.spoken (lineOf (writer.styled .green message))

def heading (writer : Writer) (title : String) : String :=
  let text := if writer.color then Style.brightBlue.apply ("═══ " ++ title ++ " ═══") else "=== " ++ title ++ " ==="
  writer.spoken (lineOf "" ++ lineOf text)

def table (writer : Writer) (headers : List String) (rows : List (List String)) : String :=
  let columns := Columns.of headers rows
  writer.spoken (lineOf (writer.styled .bold (columns.line headers)) ++ lineOf columns.rule
    ++ String.join (rows.map fun row => lineOf (columns.row row)))

def data (writer : Writer) (value : Json) : String := closed (writer.format.encode value)

def report (writer : Writer) (report : Report) : String :=
  if writer.format == .human then
    if writer.color then
      lineOf (Style.boldRed.apply (reportTitle report)) ++ String.join ((linesOf (numbered report)).map lineOf)
    else lineOf (reportTitle report) ++ numbered report
  else writer.data report.toJson

def listing (writer : Writer) (registry : Registry) : String :=
  if writer.format == .human then
    writer.heading "Types" ++ writer.table ["Name", "Null check"] (typeRows registry)
      ++ (writer.heading "Transforms" ++ writer.table ["Name", "Arguments"] (transformRows registry))
  else writer.data (listingValue registry)

def write (writer : Writer) : Step → String
  | .info message => writer.info message
  | .success message => writer.success message
  | .heading title => writer.heading title
  | .table headers rows => writer.table headers rows
  | .data value => writer.data value
  | .report report => writer.report report
  | .listing registry => writer.listing registry

end Writer
end Conform.Output
