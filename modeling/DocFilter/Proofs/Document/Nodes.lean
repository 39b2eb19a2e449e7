import DocFilter.Document.Table
import DocFilter.Proofs.Document.Height

/-!
# The nodes of a document

All inlines and blocks of a document in reading order: a node comes before the nodes
inside it, and these come in the order in which their lists stand in the node. The
metadata are read before the body.
-/

namespace DocFilter

mutual

/-- The nodes inside an inline; the citations of one come before its text. -/
def Inline.inner : Inline → List Node
  | .emph content => Inline.nodesOf content
  | .underline content => Inline.nodesOf content
  | .strong content => Inline.nodesOf content
  | .strikeout content => Inline.nodesOf content
  | .superscript content => Inline.nodesOf content
  | .subscript content => Inline.nodesOf content
  | .smallCaps content => Inline.nodesOf content
  | .quoted _ content => Inline.nodesOf content
  | .cite citations content => Citation.nodesOf citations ++ Inline.nodesOf content
  | .link _ content _ => Inline.nodesOf content
  | .image _ content _ => Inline.nodesOf content
  | .note content => Block.nodesOf content
  | .span _ content => Inline.nodesOf content
  | .str _ => []
  | .code _ _ => []
  | .space => []
  | .softBreak => []
  | .lineBreak => []
  | .math _ _ => []
  | .raw _ _ => []

/-- Inlines, each before the nodes inside it. -/
def Inline.nodesOf : List Inline → List Node
  | [] => []
  | inline :: rest => .inline inline :: (inline.inner ++ Inline.nodesOf rest)

def Inline.nodesOfLines : List (List Inline) → List Node
  | [] => []
  | line :: rest => Inline.nodesOf line ++ Inline.nodesOfLines rest

/-- The nodes of a citation: those before it and those after it. -/
def Citation.nodes : Citation → List Node
  | ⟨_, before, after, _, _, _⟩ => Inline.nodesOf before ++ Inline.nodesOf after

def Citation.nodesOf : List Citation → List Node
  | [] => []
  | citation :: rest => citation.nodes ++ Citation.nodesOf rest

/-- The nodes inside a block; its caption comes before what it belongs to. -/
def Block.inner : Block → List Node
  | .plain content => Inline.nodesOf content
  | .para content => Inline.nodesOf content
  | .lineBlock lines => Inline.nodesOfLines lines
  | .code _ _ => []
  | .raw _ _ => []
  | .blockQuote content => Block.nodesOf content
  | .orderedList _ items => Block.nodesOfItems items
  | .bulletList items => Block.nodesOfItems items
  | .definitionList items => Block.nodesOfDefinitions items
  | .header _ _ content => Inline.nodesOf content
  | .horizontalRule => []
  | .table table => table.nodes
  | .figure _ caption content => caption.nodes ++ Block.nodesOf content
  | .div _ content => Block.nodesOf content

def Block.nodesOf : List Block → List Node
  | [] => []
  | block :: rest => .block block :: (block.inner ++ Block.nodesOf rest)

def Block.nodesOfItems : List (List Block) → List Node
  | [] => []
  | item :: rest => Block.nodesOf item ++ Block.nodesOfItems rest

/-- The nodes of terms, each before its definitions. -/
def Block.nodesOfDefinitions : List (List Inline × List (List Block)) → List Node
  | [] => []
  | (term, definitions) :: rest =>
      (Inline.nodesOf term ++ Block.nodesOfItems definitions) ++ Block.nodesOfDefinitions rest

/-- The nodes of a caption: those of the short one, if there is one, and those of the
full one. -/
def Caption.nodes : Caption → List Node
  | ⟨none, long⟩ => Block.nodesOf long
  | ⟨some short, long⟩ => Inline.nodesOf short ++ Block.nodesOf long

def Table.nodes : Table → List Node
  | ⟨_, caption, _, head, bodies, foot⟩ =>
      caption.nodes ++ (head.nodes ++ (TableBody.nodesOf bodies ++ foot.nodes))

def TableHead.nodes : TableHead → List Node
  | ⟨_, rows⟩ => Row.nodesOf rows

/-- The nodes of a section: those of the rows that head it and of the others. -/
def TableBody.nodes : TableBody → List Node
  | ⟨_, _, head, rows⟩ => Row.nodesOf head ++ Row.nodesOf rows

def TableBody.nodesOf : List TableBody → List Node
  | [] => []
  | body :: rest => body.nodes ++ TableBody.nodesOf rest

def TableFoot.nodes : TableFoot → List Node
  | ⟨_, rows⟩ => Row.nodesOf rows

def Row.nodes : Row → List Node
  | ⟨_, cells⟩ => Cell.nodesOf cells

def Row.nodesOf : List Row → List Node
  | [] => []
  | row :: rest => row.nodes ++ Row.nodesOf rest

def Cell.nodes : Cell → List Node
  | ⟨_, _, _, _, content⟩ => Block.nodesOf content

def Cell.nodesOf : List Cell → List Node
  | [] => []
  | cell :: rest => cell.nodes ++ Cell.nodesOf rest

end

mutual

def MetaValue.nodes : MetaValue → List Node
  | .map entries => MetaValue.nodesOfEntries entries
  | .list items => MetaValue.nodesOf items
  | .bool _ => []
  | .string _ => []
  | .inlines content => Inline.nodesOf content
  | .blocks content => Block.nodesOf content

def MetaValue.nodesOf : List MetaValue → List Node
  | [] => []
  | value :: rest => value.nodes ++ MetaValue.nodesOf rest

/-- The nodes of metadata, in the order of the keys. -/
def MetaValue.nodesOfEntries : List (String × MetaValue) → List Node
  | [] => []
  | (_, value) :: rest => value.nodes ++ MetaValue.nodesOfEntries rest

end

/-- The nodes of a document: those of its metadata and those of its blocks. -/
def Document.nodes (document : Document) : List Node :=
  MetaValue.nodesOfEntries document.metadata ++ Block.nodesOf document.blocks

namespace Node

def isBlock : Node → Bool
  | .block _ => true
  | .inline _ => false

def isInline : Node → Bool
  | .block _ => false
  | .inline _ => true

/-- The node is a code block or code in running text. -/
def isCode : Node → Bool
  | .block value => value.kind == .code
  | .inline value => value.kind == .code

/-- The node is a table with a full caption. -/
def isCaptionedTable : Node → Bool
  | .block (.table table) => !table.caption.isEmpty
  | _ => false

end Node

/-! ## Lists -/

theorem Inline.nodesOf_eq (content : List Inline) :
    nodesOf content = content.flatMap fun inline => .inline inline :: inline.inner := by
  induction content with
  | nil => rfl
  | cons inline rest ih => rw [nodesOf, ih, List.flatMap_cons, List.cons_append]

theorem Inline.nodesOfLines_eq (lines : List (List Inline)) :
    nodesOfLines lines = lines.flatMap nodesOf := by
  induction lines with
  | nil => rfl
  | cons line rest ih => rw [nodesOfLines, ih, List.flatMap_cons]

theorem Citation.nodesOf_eq (citations : List Citation) :
    nodesOf citations = citations.flatMap nodes := by
  induction citations with
  | nil => rfl
  | cons citation rest ih => rw [nodesOf, ih, List.flatMap_cons]

theorem Block.nodesOf_eq (content : List Block) :
    nodesOf content = content.flatMap fun block => .block block :: block.inner := by
  induction content with
  | nil => rfl
  | cons block rest ih => rw [nodesOf, ih, List.flatMap_cons, List.cons_append]

theorem Block.nodesOfItems_eq (items : List (List Block)) :
    nodesOfItems items = items.flatMap nodesOf := by
  induction items with
  | nil => rfl
  | cons item rest ih => rw [nodesOfItems, ih, List.flatMap_cons]

theorem Block.nodesOfDefinitions_eq (items : List (List Inline × List (List Block))) :
    nodesOfDefinitions items =
      items.flatMap fun item => Inline.nodesOf item.1 ++ nodesOfItems item.2 := by
  induction items with
  | nil => rfl
  | cons item rest ih => rw [nodesOfDefinitions, ih, List.flatMap_cons]

theorem TableBody.nodesOf_eq (bodies : List TableBody) :
    nodesOf bodies = bodies.flatMap nodes := by
  induction bodies with
  | nil => rfl
  | cons body rest ih => rw [nodesOf, ih, List.flatMap_cons]

theorem Row.nodesOf_eq (rows : List Row) : nodesOf rows = rows.flatMap nodes := by
  induction rows with
  | nil => rfl
  | cons row rest ih => rw [nodesOf, ih, List.flatMap_cons]

theorem Cell.nodesOf_eq (cells : List Cell) : nodesOf cells = cells.flatMap nodes := by
  induction cells with
  | nil => rfl
  | cons cell rest ih => rw [nodesOf, ih, List.flatMap_cons]

/-! ## Nodes of what is alike -/

section

variable {holds : Node → Prop} {inlines : List Inline → List Inline → Prop}
  {blocks : List Block → List Block → Prop}

theorem Citation.Alike.forall_nodes
    (heldInlines : ∀ xs ys, inlines xs ys → ∀ node ∈ Inline.nodesOf ys, holds node)
    {x y : Citation} (alike : x.Alike inlines y) : ∀ node ∈ y.nodes, holds node := by
  cases alike with
  | intro front back =>
      exact List.forall_mem_append.mpr ⟨heldInlines _ _ front, heldInlines _ _ back⟩

theorem Cell.Alike.forall_nodes
    (heldBlocks : ∀ xs ys, blocks xs ys → ∀ node ∈ Block.nodesOf ys, holds node) {x y : Cell}
    (alike : x.Alike blocks y) : ∀ node ∈ y.nodes, holds node := by
  cases alike with
  | intro inside => exact heldBlocks _ _ inside

theorem Row.Alike.forall_nodes
    (heldBlocks : ∀ xs ys, blocks xs ys → ∀ node ∈ Block.nodesOf ys, holds node) {x y : Row}
    (alike : x.Alike blocks y) : ∀ node ∈ y.nodes, holds node := by
  cases alike with
  | intro each =>
      rw [Row.nodes, Cell.nodesOf_eq, List.forall_mem_flatMap]
      exact forall_of_forall₂ (fun _ _ alike => alike.forall_nodes heldBlocks) each

theorem Row.Alike.forall_nodesOf
    (heldBlocks : ∀ xs ys, blocks xs ys → ∀ node ∈ Block.nodesOf ys, holds node)
    {xs ys : List Row} (each : List.Forall₂ (Row.Alike blocks) xs ys) :
    ∀ node ∈ Row.nodesOf ys, holds node := by
  rw [Row.nodesOf_eq, List.forall_mem_flatMap]
  exact forall_of_forall₂ (fun _ _ alike => alike.forall_nodes heldBlocks) each

theorem TableBody.Alike.forall_nodes
    (heldBlocks : ∀ xs ys, blocks xs ys → ∀ node ∈ Block.nodesOf ys, holds node)
    {x y : TableBody} (alike : x.Alike blocks y) : ∀ node ∈ y.nodes, holds node := by
  cases alike with
  | intro heading each =>
      exact List.forall_mem_append.mpr
        ⟨Row.Alike.forall_nodesOf heldBlocks heading, Row.Alike.forall_nodesOf heldBlocks each⟩

mutual

theorem MetaValue.Alike.forall_nodes
    (heldInlines : ∀ xs ys, inlines xs ys → ∀ node ∈ Inline.nodesOf ys, holds node)
    (heldBlocks : ∀ xs ys, blocks xs ys → ∀ node ∈ Block.nodesOf ys, holds node)
    {x y : MetaValue} (alike : x.Alike inlines blocks y) : ∀ node ∈ y.nodes, holds node := by
  cases alike with
  | map each => exact MetaValue.AlikeEntries.forall_nodes heldInlines heldBlocks each
  | list each => exact MetaValue.AlikeItems.forall_nodes heldInlines heldBlocks each
  | bool | string => exact List.forall_mem_nil holds
  | inlines inside => exact heldInlines _ _ inside
  | blocks inside => exact heldBlocks _ _ inside

theorem MetaValue.AlikeItems.forall_nodes
    (heldInlines : ∀ xs ys, inlines xs ys → ∀ node ∈ Inline.nodesOf ys, holds node)
    (heldBlocks : ∀ xs ys, blocks xs ys → ∀ node ∈ Block.nodesOf ys, holds node)
    {xs ys : List MetaValue} (alike : MetaValue.AlikeItems inlines blocks xs ys) :
    ∀ node ∈ MetaValue.nodesOf ys, holds node := by
  cases alike with
  | nil => exact List.forall_mem_nil holds
  | cons first others =>
      exact List.forall_mem_append.mpr
        ⟨MetaValue.Alike.forall_nodes heldInlines heldBlocks first,
          MetaValue.AlikeItems.forall_nodes heldInlines heldBlocks others⟩

theorem MetaValue.AlikeEntries.forall_nodes
    (heldInlines : ∀ xs ys, inlines xs ys → ∀ node ∈ Inline.nodesOf ys, holds node)
    (heldBlocks : ∀ xs ys, blocks xs ys → ∀ node ∈ Block.nodesOf ys, holds node)
    {xs ys : List (String × MetaValue)} (alike : MetaValue.AlikeEntries inlines blocks xs ys) :
    ∀ node ∈ MetaValue.nodesOfEntries ys, holds node := by
  cases alike with
  | nil => exact List.forall_mem_nil holds
  | cons first others =>
      exact List.forall_mem_append.mpr
        ⟨MetaValue.Alike.forall_nodes heldInlines heldBlocks first,
          MetaValue.AlikeEntries.forall_nodes heldInlines heldBlocks others⟩

end

variable (heldInlines : ∀ xs ys, inlines xs ys → ∀ node ∈ Inline.nodesOf ys, holds node)
  (heldBlocks : ∀ xs ys, blocks xs ys → ∀ node ∈ Block.nodesOf ys, holds node)

include heldInlines heldBlocks

/-- What holds of the nodes of its lists holds of all nodes inside an inline. -/
theorem Inline.Alike.forall_inner {x y : Inline} (alike : x.Alike inlines blocks y) :
    ∀ node ∈ y.inner, holds node := by
  cases alike with
  | cite each inside =>
      rw [Inline.inner, List.forall_mem_append, Citation.nodesOf_eq, List.forall_mem_flatMap]
      exact ⟨forall_of_forall₂ (fun _ _ alike => alike.forall_nodes heldInlines) each,
        heldInlines _ _ inside⟩
  | note inside => exact heldBlocks _ _ inside
  | str | code | space | softBreak | lineBreak | math | raw => exact List.forall_mem_nil holds
  | emph inside | underline inside | strong inside | strikeout inside | superscript inside
  | subscript inside | smallCaps inside | quoted inside | link inside | image inside
  | span inside => exact heldInlines _ _ inside

theorem Caption.Alike.forall_nodes {x y : Caption} (alike : x.Alike inlines blocks y) :
    ∀ node ∈ y.nodes, holds node := by
  cases alike with
  | intro brief inside =>
      cases brief with
      | none => exact heldBlocks _ _ inside
      | some short =>
          exact List.forall_mem_append.mpr ⟨heldInlines _ _ short, heldBlocks _ _ inside⟩

theorem Table.Alike.forall_nodes {x y : Table} (alike : x.Alike inlines blocks y) :
    ∀ node ∈ y.nodes, holds node := by
  cases alike with
  | intro captions heads each feet =>
      simp only [Table.nodes, TableBody.nodesOf_eq, List.forall_mem_append,
        List.forall_mem_flatMap]
      exact ⟨captions.forall_nodes heldInlines heldBlocks,
        Row.Alike.forall_nodesOf heldBlocks heads,
        forall_of_forall₂ (fun _ _ alike => alike.forall_nodes heldBlocks) each,
        Row.Alike.forall_nodesOf heldBlocks feet⟩

theorem Block.Alike.forall_inner {x y : Block} (alike : x.Alike inlines blocks y) :
    ∀ node ∈ y.inner, holds node := by
  cases alike with
  | lineBlock each =>
      rw [Block.inner, Inline.nodesOfLines_eq, List.forall_mem_flatMap]
      exact forall_of_forall₂ heldInlines each
  | orderedList each | bulletList each =>
      rw [Block.inner, Block.nodesOfItems_eq, List.forall_mem_flatMap]
      exact forall_of_forall₂ heldBlocks each
  | definitionList each =>
      rw [Block.inner, Block.nodesOfDefinitions_eq, List.forall_mem_flatMap]
      refine forall_of_forall₂ ?_ each
      rintro _ _ ⟨defined, each⟩
      rw [List.forall_mem_append, Block.nodesOfItems_eq, List.forall_mem_flatMap]
      exact ⟨heldInlines _ _ defined, forall_of_forall₂ heldBlocks each⟩
  | table inside => exact inside.forall_nodes heldInlines heldBlocks
  | figure captions inside =>
      exact List.forall_mem_append.mpr
        ⟨captions.forall_nodes heldInlines heldBlocks, heldBlocks _ _ inside⟩
  | code | raw | horizontalRule => exact List.forall_mem_nil holds
  | plain inside | para inside | header inside => exact heldInlines _ _ inside
  | blockQuote inside | div inside => exact heldBlocks _ _ inside

theorem Document.Alike.forall_nodes {x y : Document} (alike : x.Alike inlines blocks y) :
    ∀ node ∈ y.nodes, holds node := by
  cases alike with
  | intro entries inside =>
      exact List.forall_mem_append.mpr
        ⟨entries.forall_nodes heldInlines heldBlocks, heldBlocks _ _ inside⟩

end

end DocFilter
