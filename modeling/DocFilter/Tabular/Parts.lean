import DocFilter.Document.Table
import DocFilter.Report

/-!
# What a tabular is made of

A table with a caption is taken apart into the inlines of its caption and of
its cells, row by row. A caption or a cell holds inlines if its first block is
plain text or a paragraph; anything else cannot be rendered.
-/

namespace DocFilter.Tabular

/-- Alignment and width of a column, the latter as a fraction of the text width. -/
structure ColumnLayout where
  alignment : Alignment
  width : Float

/-- What a tabular is made of. -/
structure TableParts where
  caption : List Inline
  columns : List ColumnLayout
  headerRows : List (List (List Inline))
  /-- All rows below the table head. -/
  bodyRows : List (List (List Inline))

/-- The inlines of a block, which stands at the given place. -/
def blockInlines (place : Place) : Block → Except Error (List Inline)
  | .plain content => .ok content
  | .para content => .ok content
  | other => .error (.unsupported place other.kind)

/-- The inlines of a cell: those of its first block, or none. -/
def cellInlines (cell : Cell) : Except Error (List Inline) :=
  match cell.content with
  | [] => .ok []
  | first :: _ => blockInlines .tableCell first

/-- The inlines of the cells of a row. A row that does not have a cell for each
column is worth telling. -/
def rowInlines (columns : Nat) (row : Row) : Report (List (List Inline)) := do
  if row.cells.length != columns then
    Report.note (.rowLength row.cells.length columns)
  row.cells.mapM fun cell => Report.ofExcept (cellInlines cell)

/-- The layout of a column of a table with so many columns: without a width of
its own it gets an equal share. -/
def columnLayout (columns : Nat) (spec : ColSpec) : ColumnLayout where
  alignment := spec.alignment
  width := spec.width.fraction?.getD (1.0 / Float.ofNat columns)

namespace TableParts

/-- Takes a table apart. A table without a caption block is no tabular. -/
def ofTable? (table : Table) : Report (Option TableParts) := do
  match table.caption.long with
  | [] => return none
  | first :: _ =>
      let caption ← Report.ofExcept (blockInlines .tableCaption first)
      let headerRows ← table.head.rows.mapM (rowInlines table.columnCount)
      let bodyRows ← table.contentRows.mapM (rowInlines table.columnCount)
      return some
        { caption
          columns := table.colSpecs.map (columnLayout table.columnCount)
          headerRows
          bodyRows }

def columnCount (parts : TableParts) : Nat := parts.columns.length

end TableParts

end DocFilter.Tabular
