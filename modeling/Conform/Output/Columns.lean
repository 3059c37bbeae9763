import Conform.Text.Blank

namespace Conform.Output

-- Widths of columns, in characters.
abbrev Columns := List Nat

namespace Columns

-- Cells beyond the last column are not looked at.
def widen : Columns → List String → Columns
  | width :: widths, cell :: cells => max width cell.length :: widen widths cells
  | widths, _ => widths

def of (headers : List String) (rows : List (List String)) : Columns := rows.foldl widen (headers.map String.length)

def blanks (count : Nat) : String := .ofList (List.replicate count ' ')

def align : Columns → List String → List String
  | width :: widths, cell :: cells => (cell ++ blanks (width - cell.length)) :: align widths cells
  | _, cells => cells

def rule (widths : Columns) : String :=
  "─┼─".intercalate (widths.map fun width => .ofList (List.replicate width '─'))

def line (widths : Columns) (cells : List String) : String := " │ ".intercalate (widths.align cells)

def row (widths : Columns) (cells : List String) : String := .ofList (Text.trimEnd (widths.line cells).toList)

end Columns
end Conform.Output
