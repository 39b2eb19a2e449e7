import DocFilter.Proofs.Document.Nodes
import DocFilter.Proofs.Walk.Passthrough

/-!
# Walks in reading order

A walk in which every node stays, or gives way to one node with the same nodes inside,
asks about all nodes of the document in reading order, each once.
-/

namespace DocFilter

/-- With these answers a dialogue asks about these nodes, one after the other, and comes
to an end. -/
inductive Dialogue.Asks (answers : Answers) {α : Type} : Dialogue α → List Node → Prop where
  | done (value : α) : Asks answers (.done value) []
  | inline {node : Inline} {next : List Inline → Dialogue α} {nodes : List Inline}
      {rest : List Node} (answered : Answers.nodes node (answers.inline node) = .ok nodes)
      (following : Asks answers (next nodes) rest) :
      Asks answers (.inline node next) (.inline node :: rest)
  | block {node : Block} {next : List Block → Dialogue α} {nodes : List Block}
      {rest : List Node} (answered : Answers.nodes node (answers.block node) = .ok nodes)
      (following : Asks answers (next nodes) rest) :
      Asks answers (.block node next) (.block node :: rest)

namespace Dialogue.Asks

variable {answers : Answers} {α β : Type}

/-- What a dialogue asks about is followed by what its continuation asks about. -/
theorem bind {dialogue : Dialogue α} {next : α → Dialogue β} {first others : List Node}
    (asks : dialogue.Asks answers first) (following : ∀ value, (next value).Asks answers others) :
    (dialogue >>= next).Asks answers (first ++ others) := by
  induction asks with
  | done value => exact following value
  | inline answered _ ih => exact .inline answered ih
  | block answered _ ih => exact .block answered ih

theorem map {dialogue : Dialogue α} {build : α → β} {nodes : List Node}
    (asks : dialogue.Asks answers nodes) :
    (do return build (← dialogue) : Dialogue β).Asks answers nodes := by
  have followed := asks.bind fun value => .done (build value)
  rwa [List.append_nil] at followed

theorem mapM {visit : α → Dialogue β} {nodes : α → List Node} {xs : List α}
    (each : ∀ a ∈ xs, (visit a).Asks answers (nodes a)) :
    (xs.mapM visit).Asks answers (xs.flatMap nodes) := by
  induction xs with
  | nil =>
      rw [List.mapM_nil]
      exact .done []
  | cons a rest ih =>
      obtain ⟨first, others⟩ := List.forall_mem_cons.mp each
      rw [List.mapM_cons, List.flatMap_cons]
      exact first.bind fun _ => (ih others).map

/-- A list is rebuilt by asking about each of its nodes and then about those inside what
takes its place. -/
theorem splice {visit : α → Dialogue (List α)} {descend : α → Dialogue α} {node : α → Node}
    {inner : α → List Node} {content : List α}
    (each : ∀ a ∈ content, ∃ other, (descend other).Asks answers (inner a) ∧
      ∀ {β : Type} (next : List α → Dialogue β) (rest : List Node),
        (next [other]).Asks answers rest → (visit a >>= next).Asks answers (node a :: rest)) :
    (Visitor.splice visit descend content).Asks answers
      (content.flatMap fun a => node a :: inner a) := by
  induction content with
  | nil => exact .done []
  | cons a rest ih =>
      obtain ⟨⟨other, inside, visited⟩, others⟩ := List.forall_mem_cons.mp each
      rw [Visitor.splice, List.flatMap_cons, List.cons_append]
      apply visited
      have rebuilt : ([other].mapM descend).Asks answers (inner a) := by
        rw [List.mapM_cons, List.mapM_nil]
        exact inside.map
      exact rebuilt.bind fun _ => (ih others).map

end Dialogue.Asks

/-! ## Asking about the nodes inside a node -/

section

variable {answers : Answers} {bound : Nat} {f : List Inline → Dialogue (List Inline)}
  {h : List Block → Dialogue (List Block)}
  (inlines : ∀ content, Inline.tallest content ≤ bound →
    (f content).Asks answers (Inline.nodesOf content))
  (blocks : ∀ content, Block.tallest content ≤ bound →
    (h content).Asks answers (Block.nodesOf content))

include inlines in
theorem Citation.traverse_asks (citation : Citation) (fits : citation.height ≤ bound) :
    (citation.traverse f).Asks answers citation.nodes := by
  obtain ⟨key, before, after, mode, noteNumber, hash⟩ := citation
  obtain ⟨front, back⟩ := Nat.max_le.mp fits
  exact (inlines before front).bind fun _ => (inlines after back).map

include blocks in
theorem Cell.traverse_asks (cell : Cell) (fits : cell.height ≤ bound) :
    (cell.traverse h).Asks answers cell.nodes := by
  obtain ⟨attr, alignment, rowSpan, colSpan, content⟩ := cell
  exact (blocks content fits).map

include blocks in
theorem Row.traverse_asks (row : Row) (fits : row.height ≤ bound) :
    (row.traverse h).Asks answers row.nodes := by
  obtain ⟨attr, cells⟩ := row
  have low := Cell.tallest_le_iff.mp fits
  rw [nodes, Cell.nodesOf_eq]
  have each : (cells.mapM (Cell.traverse h)).Asks answers (cells.flatMap Cell.nodes) :=
    .mapM fun cell member => cell.traverse_asks blocks (low cell member)
  exact each.map

include blocks in
theorem Row.traverse_asks_all (rows : List Row) (fits : Row.tallest rows ≤ bound) :
    (rows.mapM (Row.traverse h)).Asks answers (Row.nodesOf rows) := by
  have low := Row.tallest_le_iff.mp fits
  rw [nodesOf_eq]
  exact .mapM fun row member => row.traverse_asks blocks (low row member)

include blocks in
theorem TableBody.traverse_asks (body : TableBody) (fits : body.height ≤ bound) :
    (body.traverse h).Asks answers body.nodes := by
  obtain ⟨attr, rowHeadColumns, head, rows⟩ := body
  obtain ⟨headFits, rowsFit⟩ := Nat.max_le.mp fits
  exact (Row.traverse_asks_all blocks head headFits).bind fun _ =>
    (Row.traverse_asks_all blocks rows rowsFit).map

include inlines blocks

/-- The nodes inside an inline are asked about in reading order if those of lists are. -/
theorem Inline.traverse_asks (inline : Inline) (fits : inline.height ≤ bound + 1) :
    (inline.traverse f h).Asks answers inline.inner := by
  cases inline with
  | cite citations content =>
      obtain ⟨cited, inside⟩ := Nat.max_le.mp (Nat.le_of_succ_le_succ fits)
      have low := Citation.tallest_le_iff.mp cited
      have each : (citations.mapM (Citation.traverse f)).Asks answers
          (citations.flatMap Citation.nodes) :=
        .mapM fun citation member => citation.traverse_asks inlines (low citation member)
      rw [inner, Citation.nodesOf_eq]
      exact each.bind fun _ => (inlines content inside).map
  | note content => exact (blocks content (Nat.le_of_succ_le_succ fits)).map
  | str | code | space | softBreak | lineBreak | math | raw => exact .done _
  | emph content | underline content | strong content | strikeout content
  | superscript content | subscript content | smallCaps content | quoted _ content
  | link _ content _ | image _ content _ | span _ content =>
      exact (inlines content (Nat.le_of_succ_le_succ fits)).map

theorem Caption.traverse_asks (caption : Caption) (fits : caption.height ≤ bound) :
    (caption.traverse f h).Asks answers caption.nodes := by
  obtain ⟨short, long⟩ := caption
  cases short with
  | none =>
      rw [traverse, Option.mapM_none, pure_bind]
      exact (blocks long fits).map
  | some short =>
      obtain ⟨brief, inside⟩ := Nat.max_le.mp fits
      have first : (Option.mapM f (some short)).Asks answers (Inline.nodesOf short) := by
        rw [Option.mapM_some, map_eq_pure_bind]
        exact (inlines short brief).map
      exact first.bind fun _ => (blocks long inside).map

theorem Table.traverse_asks (table : Table) (fits : table.height ≤ bound) :
    (table.traverse f h).Asks answers table.nodes := by
  obtain ⟨attr, caption, colSpecs, ⟨headAttr, head⟩, bodies, ⟨footAttr, foot⟩⟩ := table
  obtain ⟨upper, lower⟩ := Nat.max_le.mp fits
  obtain ⟨captionFits, headFits⟩ := Nat.max_le.mp upper
  obtain ⟨bodiesFit, footFits⟩ := Nat.max_le.mp lower
  have low := TableBody.tallest_le_iff.mp bodiesFit
  have sections : (bodies.mapM (TableBody.traverse h)).Asks answers
      (bodies.flatMap TableBody.nodes) :=
    .mapM fun body member => body.traverse_asks blocks (low body member)
  rw [nodes, TableBody.nodesOf_eq]
  refine (caption.traverse_asks inlines blocks captionFits).bind fun _ => ?_
  refine (Row.traverse_asks_all blocks head headFits).bind fun _ => ?_
  exact sections.bind fun _ => (Row.traverse_asks_all blocks foot footFits).map

theorem Block.traverse_asks (block : Block) (fits : block.height ≤ bound + 1) :
    (block.traverse f h).Asks answers block.inner := by
  have items : ∀ items, Block.tallestItem items ≤ bound →
      (items.mapM h).Asks answers (nodesOfItems items) := by
    intro items low
    rw [nodesOfItems_eq]
    exact .mapM fun item member => blocks item (Block.tallestItem_le_iff.mp low item member)
  cases block with
  | plain content | para content | header _ _ content =>
      exact (inlines content (Nat.le_of_succ_le_succ fits)).map
  | lineBlock lines =>
      have low := Inline.tallestLine_le_iff.mp (Nat.le_of_succ_le_succ fits)
      have each : (lines.mapM f).Asks answers (lines.flatMap Inline.nodesOf) :=
        .mapM fun line member => inlines line (low line member)
      rw [inner, Inline.nodesOfLines_eq]
      exact each.map
  | blockQuote content | div _ content =>
      exact (blocks content (Nat.le_of_succ_le_succ fits)).map
  | orderedList _ list | bulletList list => exact (items list (Nat.le_of_succ_le_succ fits)).map
  | definitionList list =>
      have low := Block.tallestDefinition_le_iff.mp (Nat.le_of_succ_le_succ fits)
      rw [inner, nodesOfDefinitions_eq]
      refine Dialogue.Asks.map (.mapM fun item member => ?_)
      obtain ⟨term, definitions⟩ := low item member
      exact (inlines item.1 term).bind fun _ => (items item.2 definitions).map
  | table table =>
      exact (table.traverse_asks inlines blocks (Nat.le_of_succ_le_succ fits)).map
  | figure attr caption content =>
      obtain ⟨captionFits, inside⟩ := Nat.max_le.mp (Nat.le_of_succ_le_succ fits)
      exact (caption.traverse_asks inlines blocks captionFits).bind fun _ =>
        (blocks content inside).map
  | code | raw | horizontalRule => exact .done _

end

section

variable {answers : Answers} {bound : Nat} {f : List Inline → Dialogue (List Inline)}
  {h : List Block → Dialogue (List Block)}

mutual

theorem MetaValue.traverse_asks
    (inlines : ∀ content, Inline.tallest content ≤ bound →
      (f content).Asks answers (Inline.nodesOf content))
    (blocks : ∀ content, Block.tallest content ≤ bound →
      (h content).Asks answers (Block.nodesOf content)) :
    ∀ value : MetaValue, value.height ≤ bound → (value.traverse f h).Asks answers value.nodes
  | .map entries, fits => (MetaValue.traverse_asks_entries inlines blocks entries fits).map
  | .list items, fits => (MetaValue.traverse_asks_items inlines blocks items fits).map
  | .bool _, _ => .done _
  | .string _, _ => .done _
  | .inlines content, fits => (inlines content fits).map
  | .blocks content, fits => (blocks content fits).map

theorem MetaValue.traverse_asks_items
    (inlines : ∀ content, Inline.tallest content ≤ bound →
      (f content).Asks answers (Inline.nodesOf content))
    (blocks : ∀ content, Block.tallest content ≤ bound →
      (h content).Asks answers (Block.nodesOf content)) :
    ∀ values : List MetaValue, MetaValue.tallest values ≤ bound →
      (MetaValue.traverseItems f h values).Asks answers (MetaValue.nodesOf values)
  | [], _ => .done _
  | value :: rest, fits => by
      obtain ⟨first, others⟩ := Nat.max_le.mp fits
      exact (MetaValue.traverse_asks inlines blocks value first).bind fun _ =>
        (MetaValue.traverse_asks_items inlines blocks rest others).map

theorem MetaValue.traverse_asks_entries
    (inlines : ∀ content, Inline.tallest content ≤ bound →
      (f content).Asks answers (Inline.nodesOf content))
    (blocks : ∀ content, Block.tallest content ≤ bound →
      (h content).Asks answers (Block.nodesOf content)) :
    ∀ entries : List (String × MetaValue), MetaValue.tallestEntry entries ≤ bound →
      (MetaValue.traverseEntries f h entries).Asks answers (MetaValue.nodesOfEntries entries)
  | [], _ => .done _
  | (_, value) :: rest, fits => by
      obtain ⟨first, others⟩ := Nat.max_le.mp fits
      exact (MetaValue.traverse_asks inlines blocks value first).bind fun _ =>
        (MetaValue.traverse_asks_entries inlines blocks rest others).map

end

end

/-! ## Answers that leave the reading order alone -/

namespace Answers

/-- Every node stays, or gives way to one that is no taller and has the same nodes inside. -/
structure Steady (answers : Answers) : Prop where
  inline (node : Inline) : ∃ other, nodes node (answers.inline node) = .ok [other] ∧
    other.inner = node.inner ∧ other.height ≤ node.height
  block (node : Block) : ∃ other, nodes node (answers.block node) = .ok [other] ∧
    other.inner = node.inner ∧ other.height ≤ node.height

theorem keep_steady : keep.Steady where
  inline node := ⟨node, rfl, rfl, Nat.le_refl _⟩
  block node := ⟨node, rfl, rfl, Nat.le_refl _⟩

namespace Steady

variable {answers : Answers} {limit : Nat}

theorem asks_inlines (steady : answers.Steady)
    (descend : ∀ inline : Inline, inline.height ≤ limit →
      (Dialogue.visitor.descendInline limit inline).Asks answers inline.inner)
    (content : List Inline) (fits : Inline.tallest content ≤ limit) :
    (Dialogue.visitor.inlines limit content).Asks answers (Inline.nodesOf content) := by
  have low := Inline.tallest_le_iff.mp fits
  rw [Inline.nodesOf_eq]
  apply Dialogue.Asks.splice
  intro inline member
  obtain ⟨other, answered, same, lower⟩ := steady.inline inline
  refine ⟨other, same ▸ descend other (Nat.le_trans lower (low inline member)), ?_⟩
  intro β next rest following
  exact .inline answered following

theorem asks_blocks (steady : answers.Steady)
    (descend : ∀ block : Block, block.height ≤ limit →
      (Dialogue.visitor.descendBlock limit block).Asks answers block.inner)
    (content : List Block) (fits : Block.tallest content ≤ limit) :
    (Dialogue.visitor.blocks limit content).Asks answers (Block.nodesOf content) := by
  have low := Block.tallest_le_iff.mp fits
  rw [Block.nodesOf_eq]
  apply Dialogue.Asks.splice
  intro block member
  obtain ⟨other, answered, same, lower⟩ := steady.block block
  refine ⟨other, same ▸ descend other (Nat.le_trans lower (low block member)), ?_⟩
  intro β next rest following
  exact .block answered following

/-- The nodes inside a node that is low enough are asked about in reading order. -/
theorem asks_descend (steady : answers.Steady) (limit : Nat) :
    (∀ inline : Inline, inline.height ≤ limit →
      (Dialogue.visitor.descendInline limit inline).Asks answers inline.inner) ∧
    ∀ block : Block, block.height ≤ limit →
      (Dialogue.visitor.descendBlock limit block).Asks answers block.inner := by
  induction limit with
  | zero =>
      constructor
      · intro inline fits
        exact absurd inline.height_pos (Nat.not_lt.mpr fits)
      · intro block fits
        exact absurd block.height_pos (Nat.not_lt.mpr fits)
  | succ limit ih =>
      have inlines := steady.asks_inlines ih.1
      have blocks := steady.asks_blocks ih.2
      constructor
      · exact Inline.traverse_asks inlines blocks
      · exact Block.traverse_asks inlines blocks

theorem asks_document (steady : answers.Steady) {source : Document}
    (fits : source.height ≤ limit) :
    (Dialogue.visitor.document limit source).Asks answers source.nodes := by
  obtain ⟨descendInline, descendBlock⟩ := steady.asks_descend limit
  obtain ⟨entries, inside⟩ := Nat.max_le.mp fits
  have inlines := steady.asks_inlines descendInline
  have blocks := steady.asks_blocks descendBlock
  exact (MetaValue.traverse_asks_entries inlines blocks source.metadata entries).bind fun _ =>
    (blocks source.blocks inside).map

end Steady

end Answers

end DocFilter
