import DocFilter.Proofs.Document.Alike
import DocFilter.Proofs.Document.Nodes

/-!
# Lists of children

The lists of nodes that a node holds directly, in the order in which they stand in it, and
the frame around them: the kind of the node and all its data besides these lists. The nodes
inside a node, in reading order, are those of its lists, each before the nodes inside it.
-/

namespace DocFilter

/-! ## Lists -/

def Node.ofInlines (content : List Inline) : List Node := content.map .inline

def Node.ofBlocks (content : List Block) : List Node := content.map .block

def Citation.lists (citation : Citation) : List (List Node) :=
  [Node.ofInlines citation.before, Node.ofInlines citation.after]

/-- The lists of an inline; those of its citations come before its text. -/
def Inline.lists : Inline → List (List Node)
  | .emph content => [Node.ofInlines content]
  | .underline content => [Node.ofInlines content]
  | .strong content => [Node.ofInlines content]
  | .strikeout content => [Node.ofInlines content]
  | .superscript content => [Node.ofInlines content]
  | .subscript content => [Node.ofInlines content]
  | .smallCaps content => [Node.ofInlines content]
  | .quoted _ content => [Node.ofInlines content]
  | .cite citations content => citations.flatMap Citation.lists ++ [Node.ofInlines content]
  | .link _ content _ => [Node.ofInlines content]
  | .image _ content _ => [Node.ofInlines content]
  | .note content => [Node.ofBlocks content]
  | .span _ content => [Node.ofInlines content]
  | .str _ => []
  | .code _ _ => []
  | .space => []
  | .softBreak => []
  | .lineBreak => []
  | .math _ _ => []
  | .raw _ _ => []

/-- The lists of a caption: the short one, if there is one, and the full one. -/
def Caption.lists (caption : Caption) : List (List Node) :=
  caption.short.toList.map Node.ofInlines ++ [Node.ofBlocks caption.long]

def Cell.lists (cell : Cell) : List (List Node) := [Node.ofBlocks cell.content]

def Row.lists (row : Row) : List (List Node) := row.cells.flatMap Cell.lists

/-- The lists of a section: those of the rows that head it and of the others. -/
def TableBody.lists (body : TableBody) : List (List Node) :=
  body.head.flatMap Row.lists ++ body.rows.flatMap Row.lists

def Table.lists (table : Table) : List (List Node) :=
  table.caption.lists ++ (table.head.rows.flatMap Row.lists ++
    (table.bodies.flatMap TableBody.lists ++ table.foot.rows.flatMap Row.lists))

def Definition.lists (item : List Inline × List (List Block)) : List (List Node) :=
  Node.ofInlines item.1 :: item.2.map Node.ofBlocks

/-- The lists of a block; those of its caption come before its content. -/
def Block.lists : Block → List (List Node)
  | .plain content => [Node.ofInlines content]
  | .para content => [Node.ofInlines content]
  | .lineBlock lines => lines.map Node.ofInlines
  | .blockQuote content => [Node.ofBlocks content]
  | .orderedList _ items => items.map Node.ofBlocks
  | .bulletList items => items.map Node.ofBlocks
  | .definitionList items => items.flatMap Definition.lists
  | .header _ _ content => [Node.ofInlines content]
  | .table content => content.lists
  | .figure _ caption content => caption.lists ++ [Node.ofBlocks content]
  | .div _ content => [Node.ofBlocks content]
  | .code _ _ => []
  | .raw _ _ => []
  | .horizontalRule => []

def Node.lists : Node → List (List Node)
  | .inline value => value.lists
  | .block value => value.lists

mutual

/-- The lists of nodes in a metadata value, at any depth. -/
def MetaValue.lists : MetaValue → List (List Node)
  | .map entries => MetaValue.listsOfEntries entries
  | .list items => MetaValue.listsOf items
  | .bool _ => []
  | .string _ => []
  | .inlines content => [Node.ofInlines content]
  | .blocks content => [Node.ofBlocks content]

def MetaValue.listsOf : List MetaValue → List (List Node)
  | [] => []
  | value :: rest => value.lists ++ MetaValue.listsOf rest

/-- The lists of metadata, in the order of the keys. -/
def MetaValue.listsOfEntries : List (String × MetaValue) → List (List Node)
  | [] => []
  | (_, value) :: rest => value.lists ++ MetaValue.listsOfEntries rest

end

def Document.lists (document : Document) : List (List Node) :=
  MetaValue.listsOfEntries document.metadata ++ [Node.ofBlocks document.blocks]

/-! ## Frames -/

/-- Two nodes are of one kind and have the same data besides their lists, of which they have
as many. -/
inductive Node.SameFrame : Node → Node → Prop where
  | inline {x y : Inline} (alike : x.Alike (fun _ _ => True) (fun _ _ => True) y) :
      SameFrame (.inline x) (.inline y)
  | block {x y : Block} (alike : x.Alike (fun _ _ => True) (fun _ _ => True) y) :
      SameFrame (.block x) (.block y)

/-- Two documents have the same version, and their metadata have the same keys, numbers of
items and scalars. -/
def Document.SameFrame (x y : Document) : Prop := x.Alike (fun _ _ => True) (fun _ _ => True) y

/-! ## Reading order -/

def Node.inner : Node → List Node
  | .inline value => value.inner
  | .block value => value.inner

/-- The nodes of lists in reading order. -/
def Node.read (lists : List (List Node)) : List Node :=
  lists.flatMap fun content => content.flatMap fun node => node :: node.inner

namespace Node

@[simp] theorem read_nil : read [] = [] := List.flatMap_nil

@[simp] theorem read_cons (content : List Node) (rest : List (List Node)) :
    read (content :: rest) = (content.flatMap fun node => node :: node.inner) ++ read rest :=
  List.flatMap_cons

@[simp] theorem read_append (lists others : List (List Node)) :
    read (lists ++ others) = read lists ++ read others :=
  List.flatMap_append

theorem read_flatMap {α : Type} (lists : α → List (List Node)) (xs : List α) :
    read (xs.flatMap lists) = xs.flatMap fun x => read (lists x) := by
  induction xs with
  | nil => rfl
  | cons x rest ih => simp [ih]

@[simp] theorem read_map_ofInlines (lines : List (List Inline)) :
    read (lines.map ofInlines) = Inline.nodesOfLines lines := by
  induction lines with
  | nil => rfl
  | cons line rest ih =>
      simp [ih, Inline.nodesOfLines, Inline.nodesOf_eq, ofInlines, List.flatMap_map, inner]

@[simp] theorem read_map_ofBlocks (items : List (List Block)) :
    read (items.map ofBlocks) = Block.nodesOfItems items := by
  induction items with
  | nil => rfl
  | cons item rest ih =>
      simp [ih, Block.nodesOfItems, Block.nodesOf_eq, ofBlocks, List.flatMap_map, inner]

@[simp] theorem flatMap_ofInlines (content : List Inline) :
    ((ofInlines content).flatMap fun node => node :: node.inner) = Inline.nodesOf content := by
  simp [Inline.nodesOf_eq, ofInlines, List.flatMap_map, inner]

@[simp] theorem flatMap_ofBlocks (content : List Block) :
    ((ofBlocks content).flatMap fun node => node :: node.inner) = Block.nodesOf content := by
  simp [Block.nodesOf_eq, ofBlocks, List.flatMap_map, inner]

end Node

@[simp] theorem Citation.read_lists (citation : Citation) :
    Node.read citation.lists = citation.nodes := by
  obtain ⟨key, before, after, mode, noteNumber, hash⟩ := citation
  simp [lists, nodes]

@[simp] theorem Inline.read_lists (inline : Inline) : Node.read inline.lists = inline.inner := by
  cases inline <;> simp [lists, inner, Node.read_flatMap, Citation.nodesOf_eq]

@[simp] theorem Caption.read_lists (caption : Caption) :
    Node.read caption.lists = caption.nodes := by
  obtain ⟨short, long⟩ := caption
  cases short with
  | none => simp [lists, nodes]
  | some short => simp [lists, nodes]

@[simp] theorem Cell.read_lists (cell : Cell) : Node.read cell.lists = cell.nodes := by
  obtain ⟨attr, alignment, rowSpan, colSpan, content⟩ := cell
  simp [lists, nodes]

@[simp] theorem Row.read_lists (row : Row) : Node.read row.lists = row.nodes := by
  obtain ⟨attr, cells⟩ := row
  simp [lists, nodes, Node.read_flatMap, Cell.nodesOf_eq]

@[simp] theorem TableBody.read_lists (body : TableBody) :
    Node.read body.lists = body.nodes := by
  obtain ⟨attr, rowHeadColumns, head, rows⟩ := body
  simp [lists, nodes, Node.read_flatMap, Row.nodesOf_eq]

@[simp] theorem Table.read_lists (table : Table) : Node.read table.lists = table.nodes := by
  obtain ⟨attr, caption, colSpecs, ⟨headAttr, head⟩, bodies, ⟨footAttr, foot⟩⟩ := table
  simp [lists, nodes, TableHead.nodes, TableFoot.nodes, Node.read_flatMap, Row.nodesOf_eq,
    TableBody.nodesOf_eq]

@[simp] theorem Block.read_lists (block : Block) : Node.read block.lists = block.inner := by
  cases block <;>
    simp [lists, inner, Node.read_flatMap, Definition.lists, Block.nodesOfDefinitions_eq]

mutual

@[simp] theorem MetaValue.read_lists : ∀ value : MetaValue, Node.read value.lists = value.nodes
  | .map entries => by simp [MetaValue.lists, MetaValue.nodes, MetaValue.read_listsOfEntries]
  | .list items => by simp [MetaValue.lists, MetaValue.nodes, MetaValue.read_listsOf]
  | .bool _ => rfl
  | .string _ => rfl
  | .inlines content => by simp [MetaValue.lists, MetaValue.nodes]
  | .blocks content => by simp [MetaValue.lists, MetaValue.nodes]

theorem MetaValue.read_listsOf : ∀ values : List MetaValue,
    Node.read (MetaValue.listsOf values) = MetaValue.nodesOf values
  | [] => rfl
  | value :: rest => by
      simp [MetaValue.listsOf, MetaValue.nodesOf, MetaValue.read_lists value,
        MetaValue.read_listsOf rest]

theorem MetaValue.read_listsOfEntries : ∀ entries : List (String × MetaValue),
    Node.read (MetaValue.listsOfEntries entries) = MetaValue.nodesOfEntries entries
  | [] => rfl
  | (_, value) :: rest => by
      simp [MetaValue.listsOfEntries, MetaValue.nodesOfEntries, MetaValue.read_lists value,
        MetaValue.read_listsOfEntries rest]

end

@[simp] theorem Node.read_lists (node : Node) : read node.lists = node.inner := by
  cases node with
  | inline value => exact value.read_lists
  | block value => exact value.read_lists

/-- The nodes of a document are those of its lists. -/
theorem Document.read_lists (document : Document) :
    Node.read document.lists = document.nodes := by
  simp [lists, nodes, MetaValue.read_listsOfEntries]

end DocFilter
