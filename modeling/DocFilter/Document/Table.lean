import DocFilter.Document.Prose

/-!
# Building and reading tables
-/

namespace DocFilter

namespace Caption

def empty : Caption := ⟨none, []⟩

/-- A caption of nothing but inlines. -/
def plain (content : List Inline) : Caption := ⟨none, [.plain content]⟩

/-- The full caption holds nothing. -/
def isEmpty (caption : Caption) : Bool := caption.long.isEmpty

end Caption

namespace Cell

/-- A cell that spans one row and one column. -/
def ofBlocks (content : List Block) : Cell := ⟨.empty, .default, 1, 1, content⟩

def prose (text : String) : Cell := ofBlocks [.plain (Inline.words text)]

def empty : Cell := ofBlocks []

end Cell

namespace Row

def ofCells (cells : List Cell) : Row := ⟨.empty, cells⟩

def prose (texts : List String) : Row := ofCells (texts.map Cell.prose)

end Row

def TableBody.empty : TableBody := ⟨.empty, 0, [], []⟩

/-- Puts a row at the end of the last section; without any, one is made for it. -/
def TableBody.addRow (row : Row) : List TableBody → List TableBody
  | [] => [{ TableBody.empty with rows := [row] }]
  | [body] => [{ body with rows := body.rows ++ [row] }]
  | body :: rest => body :: TableBody.addRow row rest

namespace Table

def ofColumns (colSpecs : List ColSpec) : Table :=
  ⟨.empty, .empty, colSpecs, ⟨.empty, []⟩, [], ⟨.empty, []⟩⟩

def setCaption (table : Table) (caption : Caption) : Table := { table with caption }

def addHeaderRow (table : Table) (row : Row) : Table :=
  { table with head := { table.head with rows := table.head.rows ++ [row] } }

/-- Adds a row to the last section. -/
def addBodyRow (table : Table) (row : Row) : Table :=
  { table with bodies := TableBody.addRow row table.bodies }

def columnCount (table : Table) : Nat := table.colSpecs.length

/-- Every row below the table head: section by section those that head it and
the others, and then those of the table foot. -/
def contentRows (table : Table) : List Row :=
  table.bodies.flatMap (fun body => body.head ++ body.rows) ++ table.foot.rows

end Table

end DocFilter
