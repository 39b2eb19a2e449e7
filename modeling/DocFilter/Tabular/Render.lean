import DocFilter.Decimal.Fixed
import DocFilter.Filter.Basic
import DocFilter.Tabular.Parts

/-!
# Ruled tabulars

A table with a caption is rendered as a float around a tabular with rules
around every cell. Its columns are paragraphs of fixed width. The markup stands
in raw nodes around the inlines of caption and cells, which stay inlines.
-/

namespace DocFilter.Tabular

/-- How tables are rendered. -/
structure Options where
  /-- The format for which tables are rendered; documents in others stay as they are. -/
  targetFormat : String := "latex"
  /-- Where the float may be placed; nothing is said about it if empty. -/
  placement : String := "h"
  /-- The length that column widths are fractions of. -/
  textWidth : String := "\\columnwidth"
  /-- The length that is lost twice in each column. -/
  columnGap : String := "\\tabcolsep"
  cellSeparator : String := " & "
  rowEnd : String := " \\\\"
  rule : String := "\\hline"
  /-- The command around header cells, without its backslash. -/
  headerCommand : String := "textbf"
  /-- The command around the caption, without its backslash. -/
  captionCommand : String := "caption"
  /-- Decimal places of column widths. -/
  widthPrecision : Nat := 4
  deriving DecidableEq

/-- The command that aligns the text of a column. -/
def justify : Alignment → String
  | .default => "\\raggedright"
  | .left => "\\raggedright"
  | .center => "\\centering"
  | .right => "\\raggedleft"

namespace Options

variable (options : Options)

def rawBlock (text : String) : Block := .raw options.targetFormat text

def rawInline (text : String) : Inline := .raw options.targetFormat text

/-- The column of a tabular with so many columns: a paragraph that is justified
and whose width leaves out the gaps. -/
def columnDirective (columns : Nat) (column : ColumnLayout) : String :=
  ">\x7b" ++ justify column.alignment ++ "\\arraybackslash\x7dp\x7b(" ++ options.textWidth ++
    " - " ++ toString (columns * 2) ++ options.columnGap ++ ") * \\real\x7b" ++
    String.ofList (Decimal.fixedText options.widthPrecision column.width) ++ "\x7d\x7d"

/-- All columns, separated and enclosed by vertical rules. -/
def columnSpec (columns : List ColumnLayout) : String :=
  "\n  |" ++
    String.intercalate "\n  |" (columns.map (options.columnDirective columns.length)) ++ "|"

def placementText : String :=
  if options.placement.isEmpty then "" else "[" ++ options.placement ++ "]"

/-- A header cell in its command. -/
def headerCell (cell : List Inline) : List Inline :=
  options.rawInline ("\\" ++ options.headerCommand ++ "\x7b") :: (cell ++
    [options.rawInline "\x7d"])

/-- The cells of a row with separators between them. -/
def separated (cells : List (List Inline)) : List Inline :=
  [options.rawInline options.cellSeparator].intercalate cells

/-- The header rows: between two of them a row ends, and after the last one
there are two rules. Without header rows one rule remains. -/
def header (rows : List (List (List Inline))) : Block :=
  match rows with
  | [] => .para [options.rawInline options.rule]
  | rows =>
      .para <|
        options.rawInline (options.rule ++ "\n") ::
          ([options.rawInline (options.rowEnd ++ "\n")].intercalate
              (rows.map fun row => options.separated (row.map options.headerCell)) ++
            [options.rawInline (options.rowEnd ++ "\n" ++ options.rule ++ options.rule)])

/-- A row below the table head, and a rule. -/
def bodyRow (row : List (List Inline)) : List Inline :=
  options.separated row ++
    [options.rawInline (options.rowEnd ++ "\n"), options.rawInline (options.rule ++ "\n")]

/-- All rows below the table head. -/
def body (rows : List (List (List Inline))) : Block := .para (rows.flatMap options.bodyRow)

/-- The caption in its command. -/
def caption (content : List Inline) : Block :=
  .para <|
    options.rawInline ("\\" ++ options.captionCommand ++ "\x7b") :: (content ++
      [options.rawInline "\x7d"])

/-- The blocks that take the place of a table. -/
def render (parts : TableParts) : List Block :=
  [options.rawBlock ("\\begin\x7btable\x7d" ++ options.placementText),
    options.rawBlock "\\centering",
    options.rawBlock
      ("\\begin\x7btabular\x7d\x7b@\x7b\x7d " ++ options.columnSpec parts.columns ++
        " @\x7b\x7d\x7d"),
    options.header parts.headerRows] ++
  (if parts.bodyRows.isEmpty then [] else [options.body parts.bodyRows]) ++
  [options.rawBlock "\\end\x7btabular\x7d",
    options.caption parts.caption,
    options.rawBlock "\\end\x7btable\x7d"]

def onBlock (context : Context) (node : Block) : Report (Action Block) := do
  if context.format != options.targetFormat then return .keep
  match node with
  | .table table =>
      match ← TableParts.ofTable? table with
      | some parts =>
          Report.note (.tableRendered parts.columnCount parts.bodyRows.length)
          return .many (options.render parts)
      | none =>
          Report.note .tableSkipped
          return .keep
  | _ => return .keep

def filter {σ : Type} : NodeFilter σ :=
  .stateless options.onBlock fun _ _ => pure .keep

end Options

end DocFilter.Tabular
