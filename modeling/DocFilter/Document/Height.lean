import DocFilter.Document.Basic

/-!
# Height of documents

A node without child nodes has height one, and any other is one higher than
the tallest of its children, wherever in the node they stand.
-/

namespace DocFilter

mutual

def Inline.height : Inline → Nat
  | .emph content => Inline.tallest content + 1
  | .underline content => Inline.tallest content + 1
  | .strong content => Inline.tallest content + 1
  | .strikeout content => Inline.tallest content + 1
  | .superscript content => Inline.tallest content + 1
  | .subscript content => Inline.tallest content + 1
  | .smallCaps content => Inline.tallest content + 1
  | .quoted _ content => Inline.tallest content + 1
  | .cite citations content => max (Citation.tallest citations) (Inline.tallest content) + 1
  | .link _ content _ => Inline.tallest content + 1
  | .image _ content _ => Inline.tallest content + 1
  | .note content => Block.tallest content + 1
  | .span _ content => Inline.tallest content + 1
  | .str _ => 1
  | .code _ _ => 1
  | .space => 1
  | .softBreak => 1
  | .lineBreak => 1
  | .math _ _ => 1
  | .raw _ _ => 1

/-- Height of the tallest of some inlines; zero if there are none. -/
def Inline.tallest : List Inline → Nat
  | [] => 0
  | inline :: rest => max inline.height (Inline.tallest rest)

def Inline.tallestLine : List (List Inline) → Nat
  | [] => 0
  | line :: rest => max (Inline.tallest line) (Inline.tallestLine rest)

def Citation.height : Citation → Nat
  | ⟨_, before, after, _, _, _⟩ => max (Inline.tallest before) (Inline.tallest after)

def Citation.tallest : List Citation → Nat
  | [] => 0
  | citation :: rest => max citation.height (Citation.tallest rest)

def Block.height : Block → Nat
  | .plain content => Inline.tallest content + 1
  | .para content => Inline.tallest content + 1
  | .lineBlock lines => Inline.tallestLine lines + 1
  | .code _ _ => 1
  | .raw _ _ => 1
  | .blockQuote content => Block.tallest content + 1
  | .orderedList _ items => Block.tallestItem items + 1
  | .bulletList items => Block.tallestItem items + 1
  | .definitionList items => Block.tallestDefinition items + 1
  | .header _ _ content => Inline.tallest content + 1
  | .horizontalRule => 1
  | .table table => table.height + 1
  | .figure _ caption content => max caption.height (Block.tallest content) + 1
  | .div _ content => Block.tallest content + 1

def Block.tallest : List Block → Nat
  | [] => 0
  | block :: rest => max block.height (Block.tallest rest)

def Block.tallestItem : List (List Block) → Nat
  | [] => 0
  | item :: rest => max (Block.tallest item) (Block.tallestItem rest)

def Block.tallestDefinition : List (List Inline × List (List Block)) → Nat
  | [] => 0
  | (term, definitions) :: rest =>
      max (max (Inline.tallest term) (Block.tallestItem definitions))
        (Block.tallestDefinition rest)

def Caption.height : Caption → Nat
  | ⟨none, long⟩ => Block.tallest long
  | ⟨some short, long⟩ => max (Inline.tallest short) (Block.tallest long)

def Table.height : Table → Nat
  | ⟨_, caption, _, head, bodies, foot⟩ =>
      max (max caption.height head.height) (max (TableBody.tallest bodies) foot.height)

def TableHead.height : TableHead → Nat
  | ⟨_, rows⟩ => Row.tallest rows

def TableBody.height : TableBody → Nat
  | ⟨_, _, head, rows⟩ => max (Row.tallest head) (Row.tallest rows)

def TableBody.tallest : List TableBody → Nat
  | [] => 0
  | body :: rest => max body.height (TableBody.tallest rest)

def TableFoot.height : TableFoot → Nat
  | ⟨_, rows⟩ => Row.tallest rows

def Row.height : Row → Nat
  | ⟨_, cells⟩ => Cell.tallest cells

def Row.tallest : List Row → Nat
  | [] => 0
  | row :: rest => max row.height (Row.tallest rest)

def Cell.height : Cell → Nat
  | ⟨_, _, _, _, content⟩ => Block.tallest content

def Cell.tallest : List Cell → Nat
  | [] => 0
  | cell :: rest => max cell.height (Cell.tallest rest)

end

mutual

def MetaValue.height : MetaValue → Nat
  | .map entries => MetaValue.tallestEntry entries
  | .list items => MetaValue.tallest items
  | .bool _ => 0
  | .string _ => 0
  | .inlines content => Inline.tallest content
  | .blocks content => Block.tallest content

def MetaValue.tallest : List MetaValue → Nat
  | [] => 0
  | value :: rest => max value.height (MetaValue.tallest rest)

def MetaValue.tallestEntry : List (String × MetaValue) → Nat
  | [] => 0
  | (_, value) :: rest => max value.height (MetaValue.tallestEntry rest)

end

def Document.height (document : Document) : Nat :=
  max (MetaValue.tallestEntry document.metadata) (Block.tallest document.blocks)

end DocFilter
