import DocFilter.Document.Basic

/-!
# Rebuilding a node from the lists of its children

One action is run on each list of inlines and another on each list of blocks
that a node holds directly, in the order in which the lists are visited, and
the node is rebuilt around the results: everything else about it stays.
-/

namespace DocFilter

section

variable {m : Type → Type} [Monad m]
  (inlines : List Inline → m (List Inline)) (blocks : List Block → m (List Block))

/-- Visits what stands before the citation and then what stands after it. -/
def Citation.traverse (citation : Citation) : m Citation := do
  let before ← inlines citation.before
  let after ← inlines citation.after
  return { citation with before, after }

/-- Visits the children of an inline; the citations of one come before its text. -/
def Inline.traverse : Inline → m Inline
  | .emph content => return .emph (← inlines content)
  | .underline content => return .underline (← inlines content)
  | .strong content => return .strong (← inlines content)
  | .strikeout content => return .strikeout (← inlines content)
  | .superscript content => return .superscript (← inlines content)
  | .subscript content => return .subscript (← inlines content)
  | .smallCaps content => return .smallCaps (← inlines content)
  | .quoted type content => return .quoted type (← inlines content)
  | .cite citations content => do
      let citations ← citations.mapM (Citation.traverse inlines)
      let content ← inlines content
      return .cite citations content
  | .link attr content target => return .link attr (← inlines content) target
  | .image attr content target => return .image attr (← inlines content) target
  | .note content => return .note (← blocks content)
  | .span attr content => return .span attr (← inlines content)
  | .str text => return .str text
  | .code attr text => return .code attr text
  | .space => return .space
  | .softBreak => return .softBreak
  | .lineBreak => return .lineBreak
  | .math type text => return .math type text
  | .raw format text => return .raw format text

/-- Visits the short caption, if there is one, and then the full one. -/
def Caption.traverse (caption : Caption) : m Caption := do
  let short ← caption.short.mapM inlines
  let long ← blocks caption.long
  return { short, long }

def Cell.traverse (cell : Cell) : m Cell :=
  return { cell with content := ← blocks cell.content }

def Row.traverse (row : Row) : m Row :=
  return { row with cells := ← row.cells.mapM (Cell.traverse blocks) }

/-- Visits the rows that head a section and then the others. -/
def TableBody.traverse (body : TableBody) : m TableBody := do
  let head ← body.head.mapM (Row.traverse blocks)
  let rows ← body.rows.mapM (Row.traverse blocks)
  return { body with head, rows }

def Table.traverse (table : Table) : m Table := do
  let caption ← table.caption.traverse inlines blocks
  let headRows ← table.head.rows.mapM (Row.traverse blocks)
  let bodies ← table.bodies.mapM (TableBody.traverse blocks)
  let footRows ← table.foot.rows.mapM (Row.traverse blocks)
  return { table with
    caption
    head := { table.head with rows := headRows }
    bodies
    foot := { table.foot with rows := footRows } }

/-- Visits the children of a block; a term comes before its definitions, and a
caption before what it belongs to. -/
def Block.traverse : Block → m Block
  | .plain content => return .plain (← inlines content)
  | .para content => return .para (← inlines content)
  | .lineBlock lines => return .lineBlock (← lines.mapM inlines)
  | .blockQuote content => return .blockQuote (← blocks content)
  | .orderedList attributes items => return .orderedList attributes (← items.mapM blocks)
  | .bulletList items => return .bulletList (← items.mapM blocks)
  | .definitionList items => do
      let items ← items.mapM fun (term, definitions) => do
        let term ← inlines term
        let definitions ← definitions.mapM blocks
        return (term, definitions)
      return .definitionList items
  | .header level attr content => return .header level attr (← inlines content)
  | .table content => return .table (← content.traverse inlines blocks)
  | .figure attr caption content => do
      let caption ← caption.traverse inlines blocks
      let content ← blocks content
      return .figure attr caption content
  | .div attr content => return .div attr (← blocks content)
  | .code attr text => return .code attr text
  | .raw format text => return .raw format text
  | .horizontalRule => return .horizontalRule

mutual

/-- Visits every list of inlines or blocks in a metadata value, at any depth. -/
def MetaValue.traverse : MetaValue → m MetaValue
  | .map entries => return .map (← MetaValue.traverseEntries entries)
  | .list items => return .list (← MetaValue.traverseItems items)
  | .inlines content => return .inlines (← inlines content)
  | .blocks content => return .blocks (← blocks content)
  | .bool value => return .bool value
  | .string text => return .string text

def MetaValue.traverseItems : List MetaValue → m (List MetaValue)
  | [] => return []
  | value :: rest => do
      let value ← value.traverse
      let rest ← MetaValue.traverseItems rest
      return value :: rest

/-- Visits metadata values in the order of their keys. -/
def MetaValue.traverseEntries : List (String × MetaValue) → m (List (String × MetaValue))
  | [] => return []
  | (key, value) :: rest => do
      let value ← value.traverse
      let rest ← MetaValue.traverseEntries rest
      return (key, value) :: rest

end

/-- Visits the metadata of a document and then its blocks. -/
def Document.traverse (document : Document) : m Document := do
  let metadata ← MetaValue.traverseEntries inlines blocks document.metadata
  let blocks ← blocks document.blocks
  return { document with metadata, blocks }

end

end DocFilter
