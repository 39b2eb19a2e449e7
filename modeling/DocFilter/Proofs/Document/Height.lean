import DocFilter.Document.Height
import DocFilter.Proofs.Document.Alike
import DocFilter.Proofs.Success

/-!
# Heights and children

The children of a node, wherever they stand in it, are lower than the node. A
node is therefore alike to itself for any relation of the lists of its children
that holds of lists that low; and a node that is alike to another is only higher
than the bound of the lists of its children by one.
-/

namespace DocFilter

/-! ## The tallest of some nodes -/

theorem Inline.tallest_le_iff {content : List Inline} {bound : Nat} :
    Inline.tallest content ≤ bound ↔ ∀ inline ∈ content, inline.height ≤ bound := by
  induction content with
  | nil => simp [Inline.tallest]
  | cons inline rest ih => rw [Inline.tallest, Nat.max_le, ih, List.forall_mem_cons]

theorem Inline.tallestLine_le_iff {lines : List (List Inline)} {bound : Nat} :
    Inline.tallestLine lines ≤ bound ↔ ∀ line ∈ lines, Inline.tallest line ≤ bound := by
  induction lines with
  | nil => simp [Inline.tallestLine]
  | cons line rest ih => rw [Inline.tallestLine, Nat.max_le, ih, List.forall_mem_cons]

theorem Citation.tallest_le_iff {citations : List Citation} {bound : Nat} :
    Citation.tallest citations ≤ bound ↔ ∀ citation ∈ citations, citation.height ≤ bound := by
  induction citations with
  | nil => simp [Citation.tallest]
  | cons citation rest ih => rw [Citation.tallest, Nat.max_le, ih, List.forall_mem_cons]

theorem Block.tallest_le_iff {content : List Block} {bound : Nat} :
    Block.tallest content ≤ bound ↔ ∀ block ∈ content, block.height ≤ bound := by
  induction content with
  | nil => simp [Block.tallest]
  | cons block rest ih => rw [Block.tallest, Nat.max_le, ih, List.forall_mem_cons]

theorem Block.tallestItem_le_iff {items : List (List Block)} {bound : Nat} :
    Block.tallestItem items ≤ bound ↔ ∀ item ∈ items, Block.tallest item ≤ bound := by
  induction items with
  | nil => simp [Block.tallestItem]
  | cons item rest ih => rw [Block.tallestItem, Nat.max_le, ih, List.forall_mem_cons]

theorem Block.tallestDefinition_le_iff {items : List (List Inline × List (List Block))}
    {bound : Nat} :
    Block.tallestDefinition items ≤ bound ↔
      ∀ item ∈ items, Inline.tallest item.1 ≤ bound ∧ Block.tallestItem item.2 ≤ bound := by
  induction items with
  | nil => simp [Block.tallestDefinition]
  | cons item rest ih =>
      obtain ⟨term, definitions⟩ := item
      rw [Block.tallestDefinition, Nat.max_le, Nat.max_le, ih, List.forall_mem_cons]

theorem Cell.tallest_le_iff {cells : List Cell} {bound : Nat} :
    Cell.tallest cells ≤ bound ↔ ∀ cell ∈ cells, cell.height ≤ bound := by
  induction cells with
  | nil => simp [Cell.tallest]
  | cons cell rest ih => rw [Cell.tallest, Nat.max_le, ih, List.forall_mem_cons]

theorem Row.tallest_le_iff {rows : List Row} {bound : Nat} :
    Row.tallest rows ≤ bound ↔ ∀ row ∈ rows, row.height ≤ bound := by
  induction rows with
  | nil => simp [Row.tallest]
  | cons row rest ih => rw [Row.tallest, Nat.max_le, ih, List.forall_mem_cons]

theorem TableBody.tallest_le_iff {bodies : List TableBody} {bound : Nat} :
    TableBody.tallest bodies ≤ bound ↔ ∀ body ∈ bodies, body.height ≤ bound := by
  induction bodies with
  | nil => simp [TableBody.tallest]
  | cons body rest ih => rw [TableBody.tallest, Nat.max_le, ih, List.forall_mem_cons]

/-! ## Nodes that are alike to themselves -/

section

variable {bound : Nat} {inlines : List Inline → List Inline → Prop}
  {blocks : List Block → List Block → Prop}

theorem Citation.alike_self
    (lowInlines : ∀ content, Inline.tallest content ≤ bound → inlines content content)
    (citation : Citation) (fits : citation.height ≤ bound) : citation.Alike inlines citation := by
  obtain ⟨key, before, after, mode, noteNumber, hash⟩ := citation
  obtain ⟨front, back⟩ := Nat.max_le.mp fits
  exact .intro (lowInlines before front) (lowInlines after back)

theorem Cell.alike_self
    (lowBlocks : ∀ content, Block.tallest content ≤ bound → blocks content content)
    (cell : Cell) (fits : cell.height ≤ bound) : cell.Alike blocks cell := by
  obtain ⟨attr, alignment, rowSpan, colSpan, content⟩ := cell
  exact .intro (lowBlocks content fits)

theorem Row.alike_self
    (lowBlocks : ∀ content, Block.tallest content ≤ bound → blocks content content)
    (row : Row) (fits : row.height ≤ bound) : row.Alike blocks row := by
  obtain ⟨attr, cells⟩ := row
  have low := Cell.tallest_le_iff.mp fits
  exact .intro (List.forall₂_same.mpr fun cell member =>
    cell.alike_self lowBlocks (low cell member))

theorem Row.alike_self_all
    (lowBlocks : ∀ content, Block.tallest content ≤ bound → blocks content content)
    (rows : List Row) (fits : Row.tallest rows ≤ bound) :
    List.Forall₂ (Row.Alike blocks) rows rows := by
  have low := Row.tallest_le_iff.mp fits
  exact List.forall₂_same.mpr fun row member => row.alike_self lowBlocks (low row member)

theorem TableBody.alike_self
    (lowBlocks : ∀ content, Block.tallest content ≤ bound → blocks content content)
    (body : TableBody) (fits : body.height ≤ bound) : body.Alike blocks body := by
  obtain ⟨attr, rowHeadColumns, head, rows⟩ := body
  obtain ⟨headFits, rowsFit⟩ := Nat.max_le.mp fits
  exact .intro (Row.alike_self_all lowBlocks head headFits)
    (Row.alike_self_all lowBlocks rows rowsFit)

mutual

theorem MetaValue.alike_self
    (lowInlines : ∀ content, Inline.tallest content ≤ bound → inlines content content)
    (lowBlocks : ∀ content, Block.tallest content ≤ bound → blocks content content) :
    ∀ value : MetaValue, value.height ≤ bound → value.Alike inlines blocks value
  | .map entries, fits => .map (MetaValue.alike_self_entries lowInlines lowBlocks entries fits)
  | .list items, fits => .list (MetaValue.alike_self_items lowInlines lowBlocks items fits)
  | .bool value, _ => .bool value
  | .string text, _ => .string text
  | .inlines content, fits => .inlines (lowInlines content fits)
  | .blocks content, fits => .blocks (lowBlocks content fits)

theorem MetaValue.alike_self_items
    (lowInlines : ∀ content, Inline.tallest content ≤ bound → inlines content content)
    (lowBlocks : ∀ content, Block.tallest content ≤ bound → blocks content content) :
    ∀ values : List MetaValue, MetaValue.tallest values ≤ bound →
      MetaValue.AlikeItems inlines blocks values values
  | [], _ => .nil
  | value :: rest, fits => by
      obtain ⟨first, others⟩ := Nat.max_le.mp fits
      exact .cons (MetaValue.alike_self lowInlines lowBlocks value first)
        (MetaValue.alike_self_items lowInlines lowBlocks rest others)

theorem MetaValue.alike_self_entries
    (lowInlines : ∀ content, Inline.tallest content ≤ bound → inlines content content)
    (lowBlocks : ∀ content, Block.tallest content ≤ bound → blocks content content) :
    ∀ entries : List (String × MetaValue), MetaValue.tallestEntry entries ≤ bound →
      MetaValue.AlikeEntries inlines blocks entries entries
  | [], _ => .nil
  | (key, value) :: rest, fits => by
      obtain ⟨first, others⟩ := Nat.max_le.mp fits
      exact .cons (MetaValue.alike_self lowInlines lowBlocks value first)
        (MetaValue.alike_self_entries lowInlines lowBlocks rest others)

end

variable (lowInlines : ∀ content, Inline.tallest content ≤ bound → inlines content content)
  (lowBlocks : ∀ content, Block.tallest content ≤ bound → blocks content content)

include lowInlines lowBlocks

theorem Inline.alike_self (inline : Inline) (fits : inline.height ≤ bound + 1) :
    inline.Alike inlines blocks inline := by
  cases inline with
  | str text => exact .str text
  | emph content => exact .emph (lowInlines content (Nat.le_of_succ_le_succ fits))
  | underline content => exact .underline (lowInlines content (Nat.le_of_succ_le_succ fits))
  | strong content => exact .strong (lowInlines content (Nat.le_of_succ_le_succ fits))
  | strikeout content => exact .strikeout (lowInlines content (Nat.le_of_succ_le_succ fits))
  | superscript content => exact .superscript (lowInlines content (Nat.le_of_succ_le_succ fits))
  | subscript content => exact .subscript (lowInlines content (Nat.le_of_succ_le_succ fits))
  | smallCaps content => exact .smallCaps (lowInlines content (Nat.le_of_succ_le_succ fits))
  | quoted type content => exact .quoted (lowInlines content (Nat.le_of_succ_le_succ fits))
  | cite citations content =>
      obtain ⟨cited, inside⟩ := Nat.max_le.mp (Nat.le_of_succ_le_succ fits)
      have low := Citation.tallest_le_iff.mp cited
      refine .cite (List.forall₂_same.mpr ?_) (lowInlines content inside)
      intro citation member
      exact citation.alike_self lowInlines (low citation member)
  | code attr text => exact .code attr text
  | space => exact .space
  | softBreak => exact .softBreak
  | lineBreak => exact .lineBreak
  | math type text => exact .math type text
  | raw format text => exact .raw format text
  | link attr content target => exact .link (lowInlines content (Nat.le_of_succ_le_succ fits))
  | image attr content target => exact .image (lowInlines content (Nat.le_of_succ_le_succ fits))
  | note content => exact .note (lowBlocks content (Nat.le_of_succ_le_succ fits))
  | span attr content => exact .span (lowInlines content (Nat.le_of_succ_le_succ fits))

theorem Caption.alike_self (caption : Caption) (fits : caption.height ≤ bound) :
    caption.Alike inlines blocks caption := by
  obtain ⟨short, long⟩ := caption
  cases short with
  | none => exact .intro .none (lowBlocks long fits)
  | some short =>
      obtain ⟨brief, inside⟩ := Nat.max_le.mp fits
      exact .intro (.some (lowInlines short brief)) (lowBlocks long inside)

theorem Table.alike_self (table : Table) (fits : table.height ≤ bound) :
    table.Alike inlines blocks table := by
  obtain ⟨attr, caption, colSpecs, ⟨headAttr, head⟩, bodies, ⟨footAttr, foot⟩⟩ := table
  obtain ⟨upper, lower⟩ := Nat.max_le.mp fits
  obtain ⟨captionFits, headFits⟩ := Nat.max_le.mp upper
  obtain ⟨bodiesFit, footFits⟩ := Nat.max_le.mp lower
  have low := TableBody.tallest_le_iff.mp bodiesFit
  refine .intro (caption.alike_self lowInlines lowBlocks captionFits)
    (Row.alike_self_all lowBlocks head headFits) (List.forall₂_same.mpr ?_)
    (Row.alike_self_all lowBlocks foot footFits)
  intro body member
  exact body.alike_self lowBlocks (low body member)

theorem Block.alike_self (block : Block) (fits : block.height ≤ bound + 1) :
    block.Alike inlines blocks block := by
  have items : ∀ items, Block.tallestItem items ≤ bound → List.Forall₂ blocks items items := by
    intro items low
    exact List.forall₂_same.mpr fun item member =>
      lowBlocks item (Block.tallestItem_le_iff.mp low item member)
  cases block with
  | plain content => exact .plain (lowInlines content (Nat.le_of_succ_le_succ fits))
  | para content => exact .para (lowInlines content (Nat.le_of_succ_le_succ fits))
  | lineBlock lines =>
      have low := Inline.tallestLine_le_iff.mp (Nat.le_of_succ_le_succ fits)
      exact .lineBlock (List.forall₂_same.mpr fun line member => lowInlines line (low line member))
  | code attr text => exact .code attr text
  | raw format text => exact .raw format text
  | blockQuote content => exact .blockQuote (lowBlocks content (Nat.le_of_succ_le_succ fits))
  | orderedList attributes list => exact .orderedList (items list (Nat.le_of_succ_le_succ fits))
  | bulletList list => exact .bulletList (items list (Nat.le_of_succ_le_succ fits))
  | definitionList list =>
      have low := Block.tallestDefinition_le_iff.mp (Nat.le_of_succ_le_succ fits)
      refine .definitionList (List.forall₂_same.mpr ?_)
      intro item member
      obtain ⟨term, definitions⟩ := low item member
      exact .intro (lowInlines item.1 term) (items item.2 definitions)
  | header level attr content => exact .header (lowInlines content (Nat.le_of_succ_le_succ fits))
  | horizontalRule => exact .horizontalRule
  | table table =>
      exact .table (table.alike_self lowInlines lowBlocks (Nat.le_of_succ_le_succ fits))
  | figure attr caption content =>
      obtain ⟨captionFits, inside⟩ := Nat.max_le.mp (Nat.le_of_succ_le_succ fits)
      exact .figure (caption.alike_self lowInlines lowBlocks captionFits)
        (lowBlocks content inside)
  | div attr content => exact .div (lowBlocks content (Nat.le_of_succ_le_succ fits))

theorem Document.alike_self (document : Document) (fits : document.height ≤ bound) :
    document.Alike inlines blocks document := by
  obtain ⟨version, metadata, content⟩ := document
  obtain ⟨entries, inside⟩ := Nat.max_le.mp fits
  exact .intro (MetaValue.alike_self_entries lowInlines lowBlocks metadata entries)
    (lowBlocks content inside)

omit lowInlines lowBlocks

theorem Inline.alike_refl (sameInlines : ∀ content, inlines content content)
    (sameBlocks : ∀ content, blocks content content) (inline : Inline) :
    inline.Alike inlines blocks inline :=
  inline.alike_self (fun content _ => sameInlines content) (fun content _ => sameBlocks content)
    (Nat.le_succ inline.height)

theorem Block.alike_refl (sameInlines : ∀ content, inlines content content)
    (sameBlocks : ∀ content, blocks content content) (block : Block) :
    block.Alike inlines blocks block :=
  block.alike_self (fun content _ => sameInlines content) (fun content _ => sameBlocks content)
    (Nat.le_succ block.height)

theorem Document.alike_refl (sameInlines : ∀ content, inlines content content)
    (sameBlocks : ∀ content, blocks content content) (document : Document) :
    document.Alike inlines blocks document :=
  document.alike_self (fun content _ => sameInlines content)
    (fun content _ => sameBlocks content) (Nat.le_refl document.height)

end

/-! ## Height of what is alike -/

section

variable {bound : Nat} {inlines : List Inline → List Inline → Prop}
  {blocks : List Block → List Block → Prop}

theorem Citation.Alike.height_le
    (lowInlines : ∀ xs ys, inlines xs ys → Inline.tallest ys ≤ bound) {x y : Citation}
    (alike : x.Alike inlines y) : y.height ≤ bound := by
  cases alike with
  | intro front back => exact Nat.max_le.mpr ⟨lowInlines _ _ front, lowInlines _ _ back⟩

theorem Cell.Alike.height_le
    (lowBlocks : ∀ xs ys, blocks xs ys → Block.tallest ys ≤ bound) {x y : Cell}
    (alike : x.Alike blocks y) : y.height ≤ bound := by
  cases alike with
  | intro inside => exact lowBlocks _ _ inside

theorem Row.Alike.height_le
    (lowBlocks : ∀ xs ys, blocks xs ys → Block.tallest ys ≤ bound) {x y : Row}
    (alike : x.Alike blocks y) : y.height ≤ bound := by
  cases alike with
  | intro each =>
      exact Cell.tallest_le_iff.mpr
        (forall_of_forall₂ (fun _ _ alike => alike.height_le lowBlocks) each)

theorem Row.Alike.tallest_le
    (lowBlocks : ∀ xs ys, blocks xs ys → Block.tallest ys ≤ bound) {xs ys : List Row}
    (each : List.Forall₂ (Row.Alike blocks) xs ys) : Row.tallest ys ≤ bound :=
  Row.tallest_le_iff.mpr (forall_of_forall₂ (fun _ _ alike => alike.height_le lowBlocks) each)

theorem TableBody.Alike.height_le
    (lowBlocks : ∀ xs ys, blocks xs ys → Block.tallest ys ≤ bound) {x y : TableBody}
    (alike : x.Alike blocks y) : y.height ≤ bound := by
  cases alike with
  | intro heading each =>
      exact Nat.max_le.mpr
        ⟨Row.Alike.tallest_le lowBlocks heading, Row.Alike.tallest_le lowBlocks each⟩

variable (lowInlines : ∀ xs ys, inlines xs ys → Inline.tallest ys ≤ bound)
  (lowBlocks : ∀ xs ys, blocks xs ys → Block.tallest ys ≤ bound)

include lowInlines lowBlocks

theorem Inline.Alike.height_le {x y : Inline} (alike : x.Alike inlines blocks y) :
    y.height ≤ bound + 1 := by
  cases alike with
  | cite each inside =>
      have cited := forall_of_forall₂ (fun _ _ alike => alike.height_le lowInlines) each
      exact Nat.succ_le_succ
        (Nat.max_le.mpr ⟨Citation.tallest_le_iff.mpr cited, lowInlines _ _ inside⟩)
  | note inside => exact Nat.succ_le_succ (lowBlocks _ _ inside)
  | str | code | space | softBreak | lineBreak | math | raw =>
      exact Nat.succ_le_succ (Nat.zero_le bound)
  | emph inside | underline inside | strong inside | strikeout inside | superscript inside
  | subscript inside | smallCaps inside | quoted inside | link inside | image inside
  | span inside => exact Nat.succ_le_succ (lowInlines _ _ inside)

theorem Caption.Alike.height_le {x y : Caption} (alike : x.Alike inlines blocks y) :
    y.height ≤ bound := by
  cases alike with
  | intro brief inside =>
      cases brief with
      | none => exact lowBlocks _ _ inside
      | some short => exact Nat.max_le.mpr ⟨lowInlines _ _ short, lowBlocks _ _ inside⟩

theorem Table.Alike.height_le {x y : Table} (alike : x.Alike inlines blocks y) :
    y.height ≤ bound := by
  cases alike with
  | intro captions heads each feet =>
      have bodies := forall_of_forall₂ (fun _ _ alike => alike.height_le lowBlocks) each
      have upper := Nat.max_le.mpr
        ⟨captions.height_le lowInlines lowBlocks, Row.Alike.tallest_le lowBlocks heads⟩
      have lower := Nat.max_le.mpr
        ⟨TableBody.tallest_le_iff.mpr bodies, Row.Alike.tallest_le lowBlocks feet⟩
      exact Nat.max_le.mpr ⟨upper, lower⟩

theorem Block.Alike.height_le {x y : Block} (alike : x.Alike inlines blocks y) :
    y.height ≤ bound + 1 := by
  cases alike with
  | lineBlock each =>
      exact Nat.succ_le_succ
        (Inline.tallestLine_le_iff.mpr (forall_of_forall₂ lowInlines each))
  | orderedList each | bulletList each =>
      exact Nat.succ_le_succ (Block.tallestItem_le_iff.mpr (forall_of_forall₂ lowBlocks each))
  | definitionList each =>
      refine Nat.succ_le_succ (Block.tallestDefinition_le_iff.mpr (forall_of_forall₂ ?_ each))
      rintro _ _ ⟨defined, each⟩
      exact ⟨lowInlines _ _ defined,
        Block.tallestItem_le_iff.mpr (forall_of_forall₂ lowBlocks each)⟩
  | table inside => exact Nat.succ_le_succ (inside.height_le lowInlines lowBlocks)
  | figure captions inside =>
      exact Nat.succ_le_succ
        (Nat.max_le.mpr ⟨captions.height_le lowInlines lowBlocks, lowBlocks _ _ inside⟩)
  | code | raw | horizontalRule => exact Nat.succ_le_succ (Nat.zero_le bound)
  | plain inside | para inside | header inside => exact Nat.succ_le_succ (lowInlines _ _ inside)
  | blockQuote inside | div inside => exact Nat.succ_le_succ (lowBlocks _ _ inside)

end

section

variable {bound : Nat} {inlines : List Inline → List Inline → Prop}
  {blocks : List Block → List Block → Prop}

mutual

theorem MetaValue.Alike.height_le
    (lowInlines : ∀ xs ys, inlines xs ys → Inline.tallest ys ≤ bound)
    (lowBlocks : ∀ xs ys, blocks xs ys → Block.tallest ys ≤ bound) {x y : MetaValue}
    (alike : x.Alike inlines blocks y) : y.height ≤ bound := by
  cases alike with
  | map each => exact MetaValue.AlikeEntries.tallestEntry_le lowInlines lowBlocks each
  | list each => exact MetaValue.AlikeItems.tallest_le lowInlines lowBlocks each
  | bool | string => exact Nat.zero_le bound
  | inlines inside => exact lowInlines _ _ inside
  | blocks inside => exact lowBlocks _ _ inside

theorem MetaValue.AlikeItems.tallest_le
    (lowInlines : ∀ xs ys, inlines xs ys → Inline.tallest ys ≤ bound)
    (lowBlocks : ∀ xs ys, blocks xs ys → Block.tallest ys ≤ bound) {xs ys : List MetaValue}
    (alike : MetaValue.AlikeItems inlines blocks xs ys) : MetaValue.tallest ys ≤ bound := by
  cases alike with
  | nil => exact Nat.zero_le bound
  | cons first others =>
      exact Nat.max_le.mpr
        ⟨MetaValue.Alike.height_le lowInlines lowBlocks first,
          MetaValue.AlikeItems.tallest_le lowInlines lowBlocks others⟩

theorem MetaValue.AlikeEntries.tallestEntry_le
    (lowInlines : ∀ xs ys, inlines xs ys → Inline.tallest ys ≤ bound)
    (lowBlocks : ∀ xs ys, blocks xs ys → Block.tallest ys ≤ bound)
    {xs ys : List (String × MetaValue)} (alike : MetaValue.AlikeEntries inlines blocks xs ys) :
    MetaValue.tallestEntry ys ≤ bound := by
  cases alike with
  | nil => exact Nat.zero_le bound
  | cons first others =>
      exact Nat.max_le.mpr
        ⟨MetaValue.Alike.height_le lowInlines lowBlocks first,
          MetaValue.AlikeEntries.tallestEntry_le lowInlines lowBlocks others⟩

end

theorem Document.Alike.height_le
    (lowInlines : ∀ xs ys, inlines xs ys → Inline.tallest ys ≤ bound)
    (lowBlocks : ∀ xs ys, blocks xs ys → Block.tallest ys ≤ bound) {x y : Document}
    (alike : x.Alike inlines blocks y) : y.height ≤ bound := by
  cases alike with
  | intro entries inside =>
      exact Nat.max_le.mpr
        ⟨entries.tallestEntry_le lowInlines lowBlocks, lowBlocks _ _ inside⟩

end

end DocFilter
