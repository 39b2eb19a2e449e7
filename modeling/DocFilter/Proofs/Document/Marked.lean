import DocFilter.Proofs.Document.Height

/-!
# Documents with their code replaced by markup

Code blocks and code in running text become raw nodes, at every depth, and
nothing else changes: a node that is no code is alike to what becomes of it, with
each list of its children replaced by what becomes of that list.
-/

namespace DocFilter

/-- The markup that takes the place of code, and its format. -/
structure Marking where
  format : String
  inline : Attr → String → String
  block : Attr → String → String

variable (marking : Marking)

mutual

/-- An inline with code replaced by markup. -/
def Inline.marked : Inline → Inline
  | .str text => .str text
  | .emph content => .emph (Inline.markedAll content)
  | .underline content => .underline (Inline.markedAll content)
  | .strong content => .strong (Inline.markedAll content)
  | .strikeout content => .strikeout (Inline.markedAll content)
  | .superscript content => .superscript (Inline.markedAll content)
  | .subscript content => .subscript (Inline.markedAll content)
  | .smallCaps content => .smallCaps (Inline.markedAll content)
  | .quoted type content => .quoted type (Inline.markedAll content)
  | .cite citations content => .cite (Citation.markedAll citations) (Inline.markedAll content)
  | .code attr text => .raw marking.format (marking.inline attr text)
  | .space => .space
  | .softBreak => .softBreak
  | .lineBreak => .lineBreak
  | .math type text => .math type text
  | .raw format text => .raw format text
  | .link attr content target => .link attr (Inline.markedAll content) target
  | .image attr content target => .image attr (Inline.markedAll content) target
  | .note content => .note (Block.markedAll content)
  | .span attr content => .span attr (Inline.markedAll content)

def Inline.markedAll : List Inline → List Inline
  | [] => []
  | inline :: rest => inline.marked :: Inline.markedAll rest

def Inline.markedLines : List (List Inline) → List (List Inline)
  | [] => []
  | line :: rest => Inline.markedAll line :: Inline.markedLines rest

def Citation.marked : Citation → Citation
  | ⟨key, before, after, mode, noteNumber, hash⟩ =>
      ⟨key, Inline.markedAll before, Inline.markedAll after, mode, noteNumber, hash⟩

def Citation.markedAll : List Citation → List Citation
  | [] => []
  | citation :: rest => citation.marked :: Citation.markedAll rest

/-- A block with code replaced by markup. -/
def Block.marked : Block → Block
  | .plain content => .plain (Inline.markedAll content)
  | .para content => .para (Inline.markedAll content)
  | .lineBlock lines => .lineBlock (Inline.markedLines lines)
  | .code attr text => .raw marking.format (marking.block attr text)
  | .raw format text => .raw format text
  | .blockQuote content => .blockQuote (Block.markedAll content)
  | .orderedList attributes items => .orderedList attributes (Block.markedItems items)
  | .bulletList items => .bulletList (Block.markedItems items)
  | .definitionList items => .definitionList (Block.markedDefinitions items)
  | .header level attr content => .header level attr (Inline.markedAll content)
  | .horizontalRule => .horizontalRule
  | .table table => .table table.marked
  | .figure attr caption content => .figure attr caption.marked (Block.markedAll content)
  | .div attr content => .div attr (Block.markedAll content)

def Block.markedAll : List Block → List Block
  | [] => []
  | block :: rest => block.marked :: Block.markedAll rest

def Block.markedItems : List (List Block) → List (List Block)
  | [] => []
  | item :: rest => Block.markedAll item :: Block.markedItems rest

def Block.markedDefinitions :
    List (List Inline × List (List Block)) → List (List Inline × List (List Block))
  | [] => []
  | (term, definitions) :: rest =>
      (Inline.markedAll term, Block.markedItems definitions) :: Block.markedDefinitions rest

def Caption.marked : Caption → Caption
  | ⟨none, long⟩ => ⟨none, Block.markedAll long⟩
  | ⟨some short, long⟩ => ⟨some (Inline.markedAll short), Block.markedAll long⟩

def Table.marked : Table → Table
  | ⟨attr, caption, colSpecs, head, bodies, foot⟩ =>
      ⟨attr, caption.marked, colSpecs, head.marked, TableBody.markedAll bodies, foot.marked⟩

def TableHead.marked : TableHead → TableHead
  | ⟨attr, rows⟩ => ⟨attr, Row.markedAll rows⟩

def TableBody.marked : TableBody → TableBody
  | ⟨attr, rowHeadColumns, head, rows⟩ =>
      ⟨attr, rowHeadColumns, Row.markedAll head, Row.markedAll rows⟩

def TableBody.markedAll : List TableBody → List TableBody
  | [] => []
  | body :: rest => body.marked :: TableBody.markedAll rest

def TableFoot.marked : TableFoot → TableFoot
  | ⟨attr, rows⟩ => ⟨attr, Row.markedAll rows⟩

def Row.marked : Row → Row
  | ⟨attr, cells⟩ => ⟨attr, Cell.markedAll cells⟩

def Row.markedAll : List Row → List Row
  | [] => []
  | row :: rest => row.marked :: Row.markedAll rest

def Cell.marked : Cell → Cell
  | ⟨attr, alignment, rowSpan, colSpan, content⟩ =>
      ⟨attr, alignment, rowSpan, colSpan, Block.markedAll content⟩

def Cell.markedAll : List Cell → List Cell
  | [] => []
  | cell :: rest => cell.marked :: Cell.markedAll rest

end

mutual

def MetaValue.marked : MetaValue → MetaValue
  | .map entries => .map (MetaValue.markedEntries entries)
  | .list items => .list (MetaValue.markedAll items)
  | .bool value => .bool value
  | .string text => .string text
  | .inlines content => .inlines (Inline.markedAll marking content)
  | .blocks content => .blocks (Block.markedAll marking content)

def MetaValue.markedAll : List MetaValue → List MetaValue
  | [] => []
  | value :: rest => value.marked :: MetaValue.markedAll rest

def MetaValue.markedEntries : List (String × MetaValue) → List (String × MetaValue)
  | [] => []
  | (key, value) :: rest => (key, value.marked) :: MetaValue.markedEntries rest

end

/-- A document with code replaced by markup. -/
def Document.marked (document : Document) : Document where
  version := document.version
  metadata := MetaValue.markedEntries marking document.metadata
  blocks := Block.markedAll marking document.blocks

/-! ## Lists -/

/-- A list related to another by a function, element by element, is mapped to it. -/
theorem eq_map_of_forall₂ {α β : Type} {f : α → β} {xs : List α} {ys : List β}
    (each : List.Forall₂ (fun a b => b = f a) xs ys) : ys = xs.map f := by
  induction each with
  | nil => rfl
  | cons first _ ih => rw [first, ih, List.map_cons]

theorem forall₂_map_self {α β : Type} {related : α → β → Prop} {f : α → β} (xs : List α)
    (each : ∀ a ∈ xs, related a (f a)) : List.Forall₂ related xs (xs.map f) := by
  induction xs with
  | nil => exact .nil
  | cons a rest ih =>
      exact .cons (each a List.mem_cons_self)
        (ih fun b later => each b (List.mem_cons_of_mem _ later))

variable {marking}

theorem Inline.markedAll_eq (content : List Inline) :
    markedAll marking content = content.map (marked marking) := by
  induction content with
  | nil => rfl
  | cons inline rest ih => rw [markedAll, ih, List.map_cons]

theorem Inline.markedLines_eq (lines : List (List Inline)) :
    markedLines marking lines = lines.map (markedAll marking) := by
  induction lines with
  | nil => rfl
  | cons line rest ih => rw [markedLines, ih, List.map_cons]

theorem Citation.markedAll_eq (citations : List Citation) :
    markedAll marking citations = citations.map (marked marking) := by
  induction citations with
  | nil => rfl
  | cons citation rest ih => rw [markedAll, ih, List.map_cons]

theorem Block.markedAll_eq (content : List Block) :
    markedAll marking content = content.map (marked marking) := by
  induction content with
  | nil => rfl
  | cons block rest ih => rw [markedAll, ih, List.map_cons]

theorem Block.markedItems_eq (items : List (List Block)) :
    markedItems marking items = items.map (markedAll marking) := by
  induction items with
  | nil => rfl
  | cons item rest ih => rw [markedItems, ih, List.map_cons]

theorem Block.markedDefinitions_eq (items : List (List Inline × List (List Block))) :
    markedDefinitions marking items =
      items.map fun item => (Inline.markedAll marking item.1, markedItems marking item.2) := by
  induction items with
  | nil => rfl
  | cons item rest ih => rw [markedDefinitions, ih, List.map_cons]

theorem TableBody.markedAll_eq (bodies : List TableBody) :
    markedAll marking bodies = bodies.map (marked marking) := by
  induction bodies with
  | nil => rfl
  | cons body rest ih => rw [markedAll, ih, List.map_cons]

theorem Row.markedAll_eq (rows : List Row) :
    markedAll marking rows = rows.map (marked marking) := by
  induction rows with
  | nil => rfl
  | cons row rest ih => rw [markedAll, ih, List.map_cons]

theorem Cell.markedAll_eq (cells : List Cell) :
    markedAll marking cells = cells.map (marked marking) := by
  induction cells with
  | nil => rfl
  | cons cell rest ih => rw [markedAll, ih, List.map_cons]

/-! ## The frame of marked nodes -/

section

variable {inlines : List Inline → List Inline → Prop} {blocks : List Block → List Block → Prop}

theorem Citation.alike_marked
    (markedInlines : ∀ content, inlines content (Inline.markedAll marking content))
    (citation : Citation) : citation.Alike inlines (citation.marked marking) := by
  obtain ⟨key, before, after, mode, noteNumber, hash⟩ := citation
  exact .intro (markedInlines before) (markedInlines after)

theorem Cell.alike_marked
    (markedBlocks : ∀ content, blocks content (Block.markedAll marking content)) (cell : Cell) :
    cell.Alike blocks (cell.marked marking) := by
  obtain ⟨attr, alignment, rowSpan, colSpan, content⟩ := cell
  exact .intro (markedBlocks content)

theorem Row.alike_marked
    (markedBlocks : ∀ content, blocks content (Block.markedAll marking content)) (row : Row) :
    row.Alike blocks (row.marked marking) := by
  obtain ⟨attr, cells⟩ := row
  rw [marked, Cell.markedAll_eq]
  exact .intro (forall₂_map_self cells fun cell _ => cell.alike_marked markedBlocks)

theorem Row.alike_markedAll
    (markedBlocks : ∀ content, blocks content (Block.markedAll marking content))
    (rows : List Row) : List.Forall₂ (Row.Alike blocks) rows (markedAll marking rows) := by
  rw [markedAll_eq]
  exact forall₂_map_self rows fun row _ => row.alike_marked markedBlocks

theorem TableBody.alike_marked
    (markedBlocks : ∀ content, blocks content (Block.markedAll marking content))
    (body : TableBody) : body.Alike blocks (body.marked marking) := by
  obtain ⟨attr, rowHeadColumns, head, rows⟩ := body
  exact .intro (Row.alike_markedAll markedBlocks head) (Row.alike_markedAll markedBlocks rows)

mutual

theorem MetaValue.alike_marked
    (markedInlines : ∀ content, inlines content (Inline.markedAll marking content))
    (markedBlocks : ∀ content, blocks content (Block.markedAll marking content)) :
    ∀ value : MetaValue, value.Alike inlines blocks (value.marked marking)
  | .map entries => .map (MetaValue.alike_markedEntries markedInlines markedBlocks entries)
  | .list items => .list (MetaValue.alike_markedAll markedInlines markedBlocks items)
  | .bool value => .bool value
  | .string text => .string text
  | .inlines content => .inlines (markedInlines content)
  | .blocks content => .blocks (markedBlocks content)

theorem MetaValue.alike_markedAll
    (markedInlines : ∀ content, inlines content (Inline.markedAll marking content))
    (markedBlocks : ∀ content, blocks content (Block.markedAll marking content)) :
    ∀ values : List MetaValue,
      MetaValue.AlikeItems inlines blocks values (MetaValue.markedAll marking values)
  | [] => .nil
  | value :: rest =>
      .cons (MetaValue.alike_marked markedInlines markedBlocks value)
        (MetaValue.alike_markedAll markedInlines markedBlocks rest)

theorem MetaValue.alike_markedEntries
    (markedInlines : ∀ content, inlines content (Inline.markedAll marking content))
    (markedBlocks : ∀ content, blocks content (Block.markedAll marking content)) :
    ∀ entries : List (String × MetaValue),
      MetaValue.AlikeEntries inlines blocks entries (MetaValue.markedEntries marking entries)
  | [] => .nil
  | (_, value) :: rest =>
      .cons (MetaValue.alike_marked markedInlines markedBlocks value)
        (MetaValue.alike_markedEntries markedInlines markedBlocks rest)

end

variable (markedInlines : ∀ content, inlines content (Inline.markedAll marking content))
  (markedBlocks : ∀ content, blocks content (Block.markedAll marking content))

include markedInlines markedBlocks

/-- An inline that is no code is alike to what becomes of it. -/
theorem Inline.alike_marked (inline : Inline) (other : inline.kind ≠ .code) :
    inline.Alike inlines blocks (inline.marked marking) := by
  cases inline with
  | str text => exact .str text
  | emph content => exact .emph (markedInlines content)
  | underline content => exact .underline (markedInlines content)
  | strong content => exact .strong (markedInlines content)
  | strikeout content => exact .strikeout (markedInlines content)
  | superscript content => exact .superscript (markedInlines content)
  | subscript content => exact .subscript (markedInlines content)
  | smallCaps content => exact .smallCaps (markedInlines content)
  | quoted type content => exact .quoted (markedInlines content)
  | cite citations content =>
      rw [marked, Citation.markedAll_eq]
      exact .cite (forall₂_map_self citations fun citation _ => citation.alike_marked markedInlines)
        (markedInlines content)
  | code attr text => exact absurd rfl other
  | space => exact .space
  | softBreak => exact .softBreak
  | lineBreak => exact .lineBreak
  | math type text => exact .math type text
  | raw format text => exact .raw format text
  | link attr content target => exact .link (markedInlines content)
  | image attr content target => exact .image (markedInlines content)
  | note content => exact .note (markedBlocks content)
  | span attr content => exact .span (markedInlines content)

theorem Caption.alike_marked (caption : Caption) :
    caption.Alike inlines blocks (caption.marked marking) := by
  obtain ⟨short, long⟩ := caption
  cases short with
  | none => exact .intro .none (markedBlocks long)
  | some short => exact .intro (.some (markedInlines short)) (markedBlocks long)

theorem Table.alike_marked (table : Table) :
    table.Alike inlines blocks (table.marked marking) := by
  obtain ⟨attr, caption, colSpecs, ⟨headAttr, head⟩, bodies, ⟨footAttr, foot⟩⟩ := table
  rw [marked, TableBody.markedAll_eq]
  exact .intro (caption.alike_marked markedInlines markedBlocks)
    (Row.alike_markedAll markedBlocks head)
    (forall₂_map_self bodies fun body _ => body.alike_marked markedBlocks)
    (Row.alike_markedAll markedBlocks foot)

theorem Block.alike_marked (block : Block) (other : block.kind ≠ .code) :
    block.Alike inlines blocks (block.marked marking) := by
  have items : ∀ items, List.Forall₂ blocks items (markedItems marking items) := by
    intro items
    rw [markedItems_eq]
    exact forall₂_map_self items fun item _ => markedBlocks item
  cases block with
  | plain content => exact .plain (markedInlines content)
  | para content => exact .para (markedInlines content)
  | lineBlock lines =>
      rw [marked, Inline.markedLines_eq]
      exact .lineBlock (forall₂_map_self lines fun line _ => markedInlines line)
  | code attr text => exact absurd rfl other
  | raw format text => exact .raw format text
  | blockQuote content => exact .blockQuote (markedBlocks content)
  | orderedList attributes list => exact .orderedList (items list)
  | bulletList list => exact .bulletList (items list)
  | definitionList list =>
      rw [marked, markedDefinitions_eq]
      refine .definitionList (forall₂_map_self list fun item _ => ?_)
      exact .intro (markedInlines item.1) (items item.2)
  | header level attr content => exact .header (markedInlines content)
  | horizontalRule => exact .horizontalRule
  | table table => exact .table (table.alike_marked markedInlines markedBlocks)
  | figure attr caption content =>
      exact .figure (caption.alike_marked markedInlines markedBlocks) (markedBlocks content)
  | div attr content => exact .div (markedBlocks content)

theorem Document.alike_marked (document : Document) :
    document.Alike inlines blocks (document.marked marking) := by
  obtain ⟨version, metadata, content⟩ := document
  exact .intro (MetaValue.alike_markedEntries markedInlines markedBlocks metadata)
    (markedBlocks content)

end

/-! ## What is alike to marked nodes -/

section

variable {inlines : List Inline → List Inline → Prop} {blocks : List Block → List Block → Prop}

theorem Citation.Alike.eq_marked
    (eqInlines : ∀ xs ys, inlines xs ys → ys = Inline.markedAll marking xs) {x y : Citation}
    (alike : x.Alike inlines y) : y = x.marked marking := by
  cases alike with
  | intro front back => rw [Citation.marked, eqInlines _ _ front, eqInlines _ _ back]

/-- What holds of related elements one by one gives the second list from the first. -/
theorem eq_map_of_related {α β : Type} {related : α → β → Prop} {f : α → β}
    (same : ∀ a b, related a b → b = f a) {xs : List α} {ys : List β}
    (each : List.Forall₂ related xs ys) : ys = xs.map f :=
  eq_map_of_forall₂ (each.imp same)

theorem Cell.Alike.eq_marked
    (eqBlocks : ∀ xs ys, blocks xs ys → ys = Block.markedAll marking xs) {x y : Cell}
    (alike : x.Alike blocks y) : y = x.marked marking := by
  cases alike with
  | intro inside => rw [Cell.marked, eqBlocks _ _ inside]

theorem Row.Alike.eq_marked
    (eqBlocks : ∀ xs ys, blocks xs ys → ys = Block.markedAll marking xs) {x y : Row}
    (alike : x.Alike blocks y) : y = x.marked marking := by
  cases alike with
  | intro each =>
      rw [Row.marked, Cell.markedAll_eq,
        eq_map_of_related (fun _ _ alike => Cell.Alike.eq_marked eqBlocks alike) each]

theorem Row.eq_markedAll
    (eqBlocks : ∀ xs ys, blocks xs ys → ys = Block.markedAll marking xs) {xs ys : List Row}
    (each : List.Forall₂ (Row.Alike blocks) xs ys) : ys = Row.markedAll marking xs := by
  rw [Row.markedAll_eq]
  exact eq_map_of_related (fun _ _ alike => Row.Alike.eq_marked eqBlocks alike) each

theorem TableBody.Alike.eq_marked
    (eqBlocks : ∀ xs ys, blocks xs ys → ys = Block.markedAll marking xs) {x y : TableBody}
    (alike : x.Alike blocks y) : y = x.marked marking := by
  cases alike with
  | intro heading each =>
      rw [TableBody.marked, Row.eq_markedAll eqBlocks heading, Row.eq_markedAll eqBlocks each]

mutual

theorem MetaValue.Alike.eq_marked
    (eqInlines : ∀ xs ys, inlines xs ys → ys = Inline.markedAll marking xs)
    (eqBlocks : ∀ xs ys, blocks xs ys → ys = Block.markedAll marking xs) {x y : MetaValue}
    (alike : x.Alike inlines blocks y) : y = x.marked marking := by
  cases alike with
  | map each => rw [MetaValue.marked, MetaValue.AlikeEntries.eq_marked eqInlines eqBlocks each]
  | list each => rw [MetaValue.marked, MetaValue.AlikeItems.eq_marked eqInlines eqBlocks each]
  | bool value => rfl
  | string text => rfl
  | inlines inside => rw [MetaValue.marked, eqInlines _ _ inside]
  | blocks inside => rw [MetaValue.marked, eqBlocks _ _ inside]

theorem MetaValue.AlikeItems.eq_marked
    (eqInlines : ∀ xs ys, inlines xs ys → ys = Inline.markedAll marking xs)
    (eqBlocks : ∀ xs ys, blocks xs ys → ys = Block.markedAll marking xs)
    {xs ys : List MetaValue} (alike : MetaValue.AlikeItems inlines blocks xs ys) :
    ys = MetaValue.markedAll marking xs := by
  cases alike with
  | nil => rfl
  | cons first others =>
      rw [MetaValue.markedAll, MetaValue.Alike.eq_marked eqInlines eqBlocks first,
        MetaValue.AlikeItems.eq_marked eqInlines eqBlocks others]

theorem MetaValue.AlikeEntries.eq_marked
    (eqInlines : ∀ xs ys, inlines xs ys → ys = Inline.markedAll marking xs)
    (eqBlocks : ∀ xs ys, blocks xs ys → ys = Block.markedAll marking xs)
    {xs ys : List (String × MetaValue)} (alike : MetaValue.AlikeEntries inlines blocks xs ys) :
    ys = MetaValue.markedEntries marking xs := by
  cases alike with
  | nil => rfl
  | cons first others =>
      rw [MetaValue.markedEntries, MetaValue.Alike.eq_marked eqInlines eqBlocks first,
        MetaValue.AlikeEntries.eq_marked eqInlines eqBlocks others]

end

variable (eqInlines : ∀ xs ys, inlines xs ys → ys = Inline.markedAll marking xs)
  (eqBlocks : ∀ xs ys, blocks xs ys → ys = Block.markedAll marking xs)

include eqInlines eqBlocks

/-- Only one inline is alike to one that is no code and has marked children. -/
theorem Inline.Alike.eq_marked {x y : Inline} (alike : x.Alike inlines blocks y)
    (other : x.kind ≠ .code) : y = x.marked marking := by
  cases alike with
  | cite each inside =>
      rw [Inline.marked, Citation.markedAll_eq, eqInlines _ _ inside,
        eq_map_of_related (fun _ _ alike => Citation.Alike.eq_marked eqInlines alike) each]
  | code attr text => exact absurd rfl other
  | note inside => rw [Inline.marked, eqBlocks _ _ inside]
  | str | space | softBreak | lineBreak | math | raw => rfl
  | emph inside | underline inside | strong inside | strikeout inside | superscript inside
  | subscript inside | smallCaps inside | quoted inside | link inside | image inside
  | span inside => rw [Inline.marked, eqInlines _ _ inside]

theorem Caption.Alike.eq_marked {x y : Caption} (alike : x.Alike inlines blocks y) :
    y = x.marked marking := by
  cases alike with
  | intro brief inside =>
      cases brief with
      | none => rw [Caption.marked, eqBlocks _ _ inside]
      | some short => rw [Caption.marked, eqInlines _ _ short, eqBlocks _ _ inside]

theorem Table.Alike.eq_marked {x y : Table} (alike : x.Alike inlines blocks y) :
    y = x.marked marking := by
  cases alike with
  | intro captions heads each feet =>
      rw [Table.marked, TableHead.marked, TableFoot.marked, TableBody.markedAll_eq,
        Caption.Alike.eq_marked eqInlines eqBlocks captions, Row.eq_markedAll eqBlocks heads,
        eq_map_of_related (fun _ _ alike => TableBody.Alike.eq_marked eqBlocks alike) each,
        Row.eq_markedAll eqBlocks feet]

theorem Definition.Alike.eq_marked {x y : List Inline × List (List Block)}
    (alike : Definition.Alike inlines blocks x y) :
    y = (Inline.markedAll marking x.1, Block.markedItems marking x.2) := by
  cases alike with
  | intro defined each =>
      rw [Block.markedItems_eq, eqInlines _ _ defined, eq_map_of_related eqBlocks each]

theorem Block.Alike.eq_marked {x y : Block} (alike : x.Alike inlines blocks y)
    (other : x.kind ≠ .code) : y = x.marked marking := by
  cases alike with
  | lineBlock each =>
      rw [Block.marked, Inline.markedLines_eq, eq_map_of_related eqInlines each]
  | code attr text => exact absurd rfl other
  | orderedList each | bulletList each =>
      rw [Block.marked, Block.markedItems_eq, eq_map_of_related eqBlocks each]
  | definitionList each =>
      rw [Block.marked, Block.markedDefinitions_eq,
        eq_map_of_related (fun _ _ alike => Definition.Alike.eq_marked eqInlines eqBlocks alike)
          each]
  | table inside => rw [Block.marked, Table.Alike.eq_marked eqInlines eqBlocks inside]
  | figure captions inside =>
      rw [Block.marked, Caption.Alike.eq_marked eqInlines eqBlocks captions,
        eqBlocks _ _ inside]
  | raw | horizontalRule => rfl
  | plain inside | para inside | header inside => rw [Block.marked, eqInlines _ _ inside]
  | blockQuote inside | div inside => rw [Block.marked, eqBlocks _ _ inside]

theorem Document.Alike.eq_marked {x y : Document} (alike : x.Alike inlines blocks y) :
    y = x.marked marking := by
  cases alike with
  | intro entries inside =>
      rw [Document.marked, MetaValue.AlikeEntries.eq_marked eqInlines eqBlocks entries,
        eqBlocks _ _ inside]

end

end DocFilter
