import DocFilter.Document.Decode
import DocFilter.Document.Encode
import DocFilter.Proofs.Decode.Objects

/-!
# Decoders read what documents are written as

The decoder of each type reads the value that an element of the type is written
as. Inlines and blocks are treated by induction on the level at which their
decoders are cut off: whatever is less deep is read.
-/

namespace DocFilter

open Decode (Decoder Reads ReadsItems Payload Vocabulary setOnce setOnce_new required)

variable {level : Nat}

namespace Decode.Reads

variable {α β : Type} {decoder : Decoder α} {value : Json}

/-- What is read up to a level is read up to a lower one. -/
theorem mono {lesser : Nat} {result : α} (reads : Reads level decoder value result)
    (le : lesser ≤ level) : Reads lesser decoder value result := by
  intro mode outline readAs holds
  exact reads mode outline readAs ⟨Nat.le_trans holds.reached le, holds.room⟩

/-- A kind with one part has what its part is read as. -/
theorem onePart {type : String} {build : α → β} {part : α}
    (reads : Reads level decoder value part) :
    Reads level ((onePart build decoder).decode type) value (build part) := by
  intro mode outline readAs holds
  have read := reads mode outline readAs holds
  simp only [DocFilter.onePart, Payload.decode, mapped, read]
  rfl

/-- A kind with several parts has what these are read as. -/
theorem parts {type tag : String} {size : Nat} {items : ItemsM α} {values : List Json}
    {result : α} (reads : ReadsItems level items values result) :
    Reads level ((Decode.parts type tag size items).decode type) (.list values) result :=
  .positional _ _ reads

end Decode.Reads

/-! ## Vocabularies and records without nodes -/

theorem QuoteType.reads (type : QuoteType) : Reads level decoder (.tagged type.tag) type :=
  .choice (by cases type <;> rfl)

theorem MathType.reads (type : MathType) : Reads level decoder (.tagged type.tag) type :=
  .choice (by cases type <;> rfl)

theorem CitationMode.reads (mode : CitationMode) : Reads level decoder (.tagged mode.tag) mode :=
  .choice (by cases mode <;> rfl)

theorem ListStyle.reads (style : ListStyle) : Reads level decoder (.tagged style.tag) style :=
  .choice (by cases style <;> rfl)

theorem ListDelimiter.reads (delimiter : ListDelimiter) :
    Reads level decoder (.tagged delimiter.tag) delimiter :=
  .choice (by cases delimiter <;> rfl)

theorem Alignment.reads (alignment : Alignment) :
    Reads level decoder (.tagged alignment.tag) alignment :=
  .choice (by cases alignment <;> rfl)

theorem Attr.reads (attr : Attr) : Reads level decoder attr.toJson attr :=
  .tuple 3 (.item (.string _) (.item (.list_map fun _ _ => .string _)
    (.item (.list_map fun _ _ => .pair (.string _) (.string _)) (.pure attr))))

theorem Target.reads (target : Target) : Reads level decoder target.toJson target :=
  .tuple 2 (.item (.string _) (.item (.string _) (.pure target)))

theorem ListAttributes.reads (attributes : ListAttributes) :
    Reads level decoder attributes.toJson attributes :=
  .tuple 3 (.item (.int32 _) (.item attributes.style.reads
    (.item attributes.delimiter.reads (.pure attributes))))

theorem ColWidth.reads (width : ColWidth) : Reads level decoder width.toJson width := by
  cases width with
  | fixed fraction =>
      have reads : Reads (level + 1) decoder (toJson (.fixed fraction)) (.fixed fraction) :=
        .node_content rfl (.onePart (.float64 fraction))
      exact reads.mono (Nat.le_succ level)
  | default => exact .node_bare rfl rfl

theorem ColSpec.reads (spec : ColSpec) : Reads level decoder spec.toJson spec :=
  .tuple 2 (.item spec.alignment.reads (.item spec.width.reads (.pure spec)))

/-! ## Lists of nodes -/

theorem Inline.toJsons_eq (content : List Inline) : toJsons content = content.map toJson := by
  induction content with
  | nil => rfl
  | cons inline rest ih => rw [toJsons, ih, List.map_cons]

theorem Block.toJsons_eq (content : List Block) : toJsons content = content.map toJson := by
  induction content with
  | nil => rfl
  | cons block rest ih => rw [toJsons, ih, List.map_cons]

theorem Inline.linesToJson_eq (lines : List (List Inline)) :
    linesToJson lines = lines.map fun line => .list (toJsons line) := by
  induction lines with
  | nil => rfl
  | cons line rest ih => rw [linesToJson, ih, List.map_cons]

theorem Block.itemsToJson_eq (items : List (List Block)) :
    itemsToJson items = items.map fun item => .list (toJsons item) := by
  induction items with
  | nil => rfl
  | cons item rest ih => rw [itemsToJson, ih, List.map_cons]

theorem Block.definitionsToJson_eq (items : List (List Inline × List (List Block))) :
    definitionsToJson items = items.map fun item =>
      .list [.list (Inline.toJsons item.1), .list (itemsToJson item.2)] := by
  induction items with
  | nil => rfl
  | cons item rest ih => rw [definitionsToJson, ih, List.map_cons]

theorem Citation.toJsons_eq (citations : List Citation) :
    toJsons citations = citations.map toJson := by
  induction citations with
  | nil => rfl
  | cons citation rest ih => rw [toJsons, ih, List.map_cons]

theorem Cell.toJsons_eq (cells : List Cell) : toJsons cells = cells.map toJson := by
  induction cells with
  | nil => rfl
  | cons cell rest ih => rw [toJsons, ih, List.map_cons]

theorem Row.toJsons_eq (rows : List Row) : toJsons rows = rows.map toJson := by
  induction rows with
  | nil => rfl
  | cons row rest ih => rw [toJsons, ih, List.map_cons]

theorem TableBody.toJsons_eq (bodies : List TableBody) : toJsons bodies = bodies.map toJson := by
  induction bodies with
  | nil => rfl
  | cons body rest ih => rw [toJsons, ih, List.map_cons]

theorem MetaValue.toJsons_eq (values : List MetaValue) : toJsons values = values.map toJson := by
  induction values with
  | nil => rfl
  | cons value rest ih => rw [toJsons, ih, List.map_cons]

theorem MetaValue.entriesToJson_eq (entries : List (String × MetaValue)) :
    entriesToJson entries = entries.map fun entry => (entry.1, entry.2.toJson) := by
  induction entries with
  | nil => rfl
  | cons entry rest ih => rw [entriesToJson, ih, List.map_cons]

/-! ## Records around inlines and blocks -/

section

variable {inline : Decoder Inline} {block : Decoder Block}

theorem Inline.reads_list (inlines : ∀ inner : Inline, Reads level inline inner.toJson inner)
    (content : List Inline) :
    Reads level (Decode.list inline) (.list (toJsons content)) content := by
  rw [toJsons_eq]
  exact .list_map fun inner _ => inlines inner

theorem Inline.reads_lines (inlines : ∀ inner : Inline, Reads level inline inner.toJson inner)
    (lines : List (List Inline)) :
    Reads level (Decode.list (Decode.list inline)) (.list (linesToJson lines)) lines := by
  rw [linesToJson_eq]
  exact .list_map fun line _ => reads_list inlines line

theorem Block.reads_list (blocks : ∀ inner : Block, Reads level block inner.toJson inner)
    (content : List Block) :
    Reads level (Decode.list block) (.list (toJsons content)) content := by
  rw [toJsons_eq]
  exact .list_map fun inner _ => blocks inner

theorem Block.reads_items (blocks : ∀ inner : Block, Reads level block inner.toJson inner)
    (items : List (List Block)) :
    Reads level (Decode.list (Decode.list block)) (.list (itemsToJson items)) items := by
  rw [itemsToJson_eq]
  exact .list_map fun item _ => reads_list blocks item

theorem Block.reads_definitions (inlines : ∀ inner : Inline, Reads level inline inner.toJson inner)
    (blocks : ∀ inner : Block, Reads level block inner.toJson inner)
    (items : List (List Inline × List (List Block))) :
    Reads level (Decode.list (Decode.pair (Decode.list inline) (Decode.list (Decode.list block))))
      (.list (definitionsToJson items)) items := by
  rw [definitionsToJson_eq]
  exact .list_map fun item _ =>
    .pair (Inline.reads_list inlines item.1) (reads_items blocks item.2)

/-- What has been met of a citation after members with the given names. -/
def Citation.upTo (citation : Citation) (met : List String) : CitationDraft where
  key := if "citationId" ∈ met then some citation.key else none
  before := if "citationPrefix" ∈ met then some citation.before else none
  after := if "citationSuffix" ∈ met then some citation.after else none
  mode := if "citationMode" ∈ met then some citation.mode else none
  noteNumber := if "citationNoteNum" ∈ met then some citation.noteNumber else none
  hash := if "citationHash" ∈ met then some citation.hash else none

theorem Citation.reads (inlines : ∀ inner : Inline, Reads level inline inner.toJson inner)
    (citation : Citation) : Reads level (decoder inline) citation.toJson citation := by
  obtain ⟨key, before, after, mode, noteNumber, hash⟩ := citation
  refine .record (upTo ⟨key, before, after, mode, noteNumber, hash⟩) rfl (by simp) (by simp) ?_ ?_
  · intro name value position room met outline new readAs holds
    simp only [List.mem_cons, List.not_mem_nil, or_false, Prod.mk.injEq] at position
    rcases position with ⟨rfl, rfl⟩ | ⟨rfl, rfl⟩ | ⟨rfl, rfl⟩ | ⟨rfl, rfl⟩ | ⟨rfl, rfl⟩ | ⟨rfl, rfl⟩
    · have read := Reads.string key room outline readAs holds
      simp [CitationDraft.accept, upTo, setOnce_new new read]
    · have read := Inline.reads_list inlines before room outline readAs holds
      simp [CitationDraft.accept, upTo, setOnce_new new read]
    · have read := Inline.reads_list inlines after room outline readAs holds
      simp [CitationDraft.accept, upTo, setOnce_new new read]
    · have read := mode.reads room outline readAs holds
      simp [CitationDraft.accept, upTo, setOnce_new new read]
    · have read := Reads.int32 noteNumber room outline readAs holds
      simp [CitationDraft.accept, upTo, setOnce_new new read]
    · have read := Reads.int32 hash room outline readAs holds
      simp [CitationDraft.accept, upTo, setOnce_new new read]
  · intro all met
    simp only [List.mem_cons, List.not_mem_nil, or_false, forall_eq_or_imp, forall_eq] at met
    obtain ⟨metKey, metBefore, metAfter, metMode, metNumber, metHash⟩ := met
    simp [CitationDraft.finish, upTo, required, metKey, metBefore, metAfter, metMode, metNumber,
      metHash]

theorem Caption.reads (inlines : ∀ inner : Inline, Reads level inline inner.toJson inner)
    (blocks : ∀ inner : Block, Reads level block inner.toJson inner) (caption : Caption) :
    Reads level (decoder inline block) caption.toJson caption := by
  obtain ⟨short, long⟩ := caption
  cases short with
  | none => exact .tuple 2 (.item (.optional_none _) (.item (Block.reads_list blocks _) (.pure _)))
  | some short =>
      exact .tuple 2 (.item (.optional_some (Inline.reads_list inlines short))
        (.item (Block.reads_list blocks _) (.pure _)))

theorem Cell.reads (blocks : ∀ inner : Block, Reads level block inner.toJson inner)
    (cell : Cell) : Reads level (decoder block) cell.toJson cell := by
  obtain ⟨attr, alignment, rowSpan, colSpan, content⟩ := cell
  exact .tuple 5 (.item attr.reads (.item alignment.reads (.item (.int32 _) (.item (.int32 _)
    (.item (Block.reads_list blocks content) (.pure _))))))

theorem Row.reads (blocks : ∀ inner : Block, Reads level block inner.toJson inner)
    (row : Row) : Reads level (decoder block) row.toJson row := by
  obtain ⟨attr, cells⟩ := row
  rw [toJson, Cell.toJsons_eq]
  exact .tuple 2 (.item attr.reads (.item (.list_map fun cell _ => cell.reads blocks) (.pure _)))

theorem Row.reads_list (blocks : ∀ inner : Block, Reads level block inner.toJson inner)
    (rows : List Row) : Reads level (Decode.list (decoder block)) (.list (toJsons rows)) rows := by
  rw [toJsons_eq]
  exact .list_map fun row _ => row.reads blocks

theorem TableHead.reads (blocks : ∀ inner : Block, Reads level block inner.toJson inner)
    (head : TableHead) : Reads level (decoder block) head.toJson head := by
  obtain ⟨attr, rows⟩ := head
  exact .tuple 2 (.item attr.reads (.item (Row.reads_list blocks rows) (.pure _)))

theorem TableBody.reads (blocks : ∀ inner : Block, Reads level block inner.toJson inner)
    (body : TableBody) : Reads level (decoder block) body.toJson body := by
  obtain ⟨attr, rowHeadColumns, head, rows⟩ := body
  exact .tuple 4 (.item attr.reads (.item (.int32 _) (.item (Row.reads_list blocks head)
    (.item (Row.reads_list blocks rows) (.pure _)))))

theorem TableFoot.reads (blocks : ∀ inner : Block, Reads level block inner.toJson inner)
    (foot : TableFoot) : Reads level (decoder block) foot.toJson foot := by
  obtain ⟨attr, rows⟩ := foot
  exact .tuple 2 (.item attr.reads (.item (Row.reads_list blocks rows) (.pure _)))

theorem Table.reads (inlines : ∀ inner : Inline, Reads level inline inner.toJson inner)
    (blocks : ∀ inner : Block, Reads level block inner.toJson inner) (table : Table) :
    Reads level (decoder inline block) table.toJson table := by
  obtain ⟨attr, caption, colSpecs, head, bodies, foot⟩ := table
  rw [toJson, TableBody.toJsons_eq]
  exact .tuple 6 (.item attr.reads (.item (caption.reads inlines blocks)
    (.item (.list_map fun spec _ => spec.reads) (.item (head.reads blocks)
      (.item (.list_map fun body _ => body.reads blocks) (.item (foot.reads blocks) (.pure _)))))))

/-! ## Nodes -/

/-- The tag of a kind of inlines means the kind. -/
theorem InlineKind.named (kind : InlineKind) :
    (vocabularyOf "Inline" all tag).named kind.tag = .ok kind := by
  cases kind <;> rfl

theorem BlockKind.named (kind : BlockKind) :
    (vocabularyOf "Block" all tag).named kind.tag = .ok kind := by
  cases kind <;> rfl

theorem MetaKind.named (kind : MetaKind) :
    (vocabularyOf "MetaValue" all tag).named kind.tag = .ok kind := by
  cases kind <;> rfl

/-- Inlines are read if the inlines and blocks inside are. -/
theorem Inline.reads_node (inlines : ∀ inner : Inline, Reads level inline inner.toJson inner)
    (blocks : ∀ inner : Block, Reads level block inner.toJson inner) (outer : Inline) :
    Reads (level + 1)
      (Decode.node (vocabularyOf "Inline" InlineKind.all InlineKind.tag)
        (InlineKind.payload inline block))
      outer.toJson outer := by
  have several := reads_list inlines
  cases outer with
  | str text => exact .node_content (InlineKind.named .str) (.onePart (.string text))
  | emph content => exact .node_content (InlineKind.named .emph) (.onePart (several content))
  | underline content =>
      exact .node_content (InlineKind.named .underline) (.onePart (several content))
  | strong content => exact .node_content (InlineKind.named .strong) (.onePart (several content))
  | strikeout content =>
      exact .node_content (InlineKind.named .strikeout) (.onePart (several content))
  | superscript content =>
      exact .node_content (InlineKind.named .superscript) (.onePart (several content))
  | subscript content =>
      exact .node_content (InlineKind.named .subscript) (.onePart (several content))
  | smallCaps content =>
      exact .node_content (InlineKind.named .smallCaps) (.onePart (several content))
  | quoted type content =>
      exact .node_content (InlineKind.named .quoted)
        (.parts (.item type.reads (.item (several content) (.pure _))))
  | cite citations content =>
      rw [toJson, Citation.toJsons_eq]
      exact .node_content (InlineKind.named .cite)
        (.parts (.item (.list_map fun citation _ => citation.reads inlines)
          (.item (several content) (.pure _))))
  | code attr text =>
      exact .node_content (InlineKind.named .code)
        (.parts (.item attr.reads (.item (.string text) (.pure _))))
  | space => exact .node_bare (InlineKind.named .space) rfl
  | softBreak => exact .node_bare (InlineKind.named .softBreak) rfl
  | lineBreak => exact .node_bare (InlineKind.named .lineBreak) rfl
  | math type text =>
      exact .node_content (InlineKind.named .math)
        (.parts (.item type.reads (.item (.string text) (.pure _))))
  | raw format text =>
      exact .node_content (InlineKind.named .raw)
        (.parts (.item (.string format) (.item (.string text) (.pure _))))
  | link attr content target =>
      exact .node_content (InlineKind.named .link)
        (.parts (.item attr.reads (.item (several content) (.item target.reads (.pure _)))))
  | image attr content target =>
      exact .node_content (InlineKind.named .image)
        (.parts (.item attr.reads (.item (several content) (.item target.reads (.pure _)))))
  | note content =>
      exact .node_content (InlineKind.named .note) (.onePart (Block.reads_list blocks content))
  | span attr content =>
      exact .node_content (InlineKind.named .span)
        (.parts (.item attr.reads (.item (several content) (.pure _))))

theorem Block.reads_node (inlines : ∀ inner : Inline, Reads level inline inner.toJson inner)
    (blocks : ∀ inner : Block, Reads level block inner.toJson inner) (outer : Block) :
    Reads (level + 1)
      (Decode.node (vocabularyOf "Block" BlockKind.all BlockKind.tag)
        (BlockKind.payload inline block))
      outer.toJson outer := by
  have prose := Inline.reads_list inlines
  have several := reads_list blocks
  cases outer with
  | plain content => exact .node_content (BlockKind.named .plain) (.onePart (prose content))
  | para content => exact .node_content (BlockKind.named .para) (.onePart (prose content))
  | lineBlock lines =>
      exact .node_content (BlockKind.named .lineBlock)
        (.onePart (Inline.reads_lines inlines lines))
  | code attr text =>
      exact .node_content (BlockKind.named .code)
        (.parts (.item attr.reads (.item (.string text) (.pure _))))
  | raw format text =>
      exact .node_content (BlockKind.named .raw)
        (.parts (.item (.string format) (.item (.string text) (.pure _))))
  | blockQuote content =>
      exact .node_content (BlockKind.named .blockQuote) (.onePart (several content))
  | orderedList attributes items =>
      exact .node_content (BlockKind.named .orderedList)
        (.parts (.item attributes.reads (.item (reads_items blocks items) (.pure _))))
  | bulletList items =>
      exact .node_content (BlockKind.named .bulletList) (.onePart (reads_items blocks items))
  | definitionList items =>
      exact .node_content (BlockKind.named .definitionList)
        (.onePart (reads_definitions inlines blocks items))
  | header depth attr content =>
      exact .node_content (BlockKind.named .header)
        (.parts (.item (.int32 depth) (.item attr.reads (.item (prose content) (.pure _)))))
  | horizontalRule => exact .node_bare (BlockKind.named .horizontalRule) rfl
  | table table =>
      exact .node_content (BlockKind.named .table) (.onePart (table.reads inlines blocks))
  | figure attr caption content =>
      exact .node_content (BlockKind.named .figure)
        (.parts (.item attr.reads (.item (caption.reads inlines blocks)
          (.item (several content) (.pure _)))))
  | div attr content =>
      exact .node_content (BlockKind.named .div)
        (.parts (.item attr.reads (.item (several content) (.pure _))))

end

/-- Objects take a container. -/
theorem Decode.Reads.object_of_zero {α : Type} {decoder : Decoder α} {result : α}
    (members : List (String × Json)) : Reads 0 decoder (.object members) result := by
  intro mode outline readAs holds
  exact absurd holds.reached (Nat.not_succ_le_zero _)

/-- Inlines and blocks are read up to the level at which their decoders are cut off. -/
theorem reads_decoderAt (level : Nat) :
    (∀ inline : Inline, Reads level (Inline.decoderAt level) inline.toJson inline) ∧
      ∀ block : Block, Reads level (Block.decoderAt level) block.toJson block := by
  induction level with
  | zero =>
      constructor
      · intro inline
        cases inline <;> exact .object_of_zero _
      · intro block
        cases block <;> exact .object_of_zero _
  | succ level ih =>
      obtain ⟨inlines, blocks⟩ := ih
      exact ⟨Inline.reads_node inlines blocks, Block.reads_node inlines blocks⟩

/-! ## Metadata and documents -/

/-- The keys of every map in a metadata value increase. -/
inductive MetaValue.Sorted : MetaValue → Prop where
  | map {entries : List (String × MetaValue)} (increasing : Entries.Sorted entries)
      (each : ∀ entry ∈ entries, Sorted entry.2) : Sorted (.map entries)
  | list {items : List MetaValue} (each : ∀ item ∈ items, Sorted item) : Sorted (.list items)
  | bool (value : Bool) : Sorted (.bool value)
  | string (text : String) : Sorted (.string text)
  | inlines (content : List Inline) : Sorted (.inlines content)
  | blocks (content : List Block) : Sorted (.blocks content)

/-- The keys of the metadata, and of every map in them, increase. -/
structure Document.Sorted (document : Document) : Prop where
  increasing : Entries.Sorted document.metadata
  each : ∀ entry ∈ document.metadata, entry.2.Sorted

namespace Document.Sorted

/-- Documents that are built from blocks are in order. -/
theorem ofBlocks (blocks : List Block) : (Document.ofBlocks blocks).Sorted where
  increasing := .nil
  each _ none := nomatch none

end Document.Sorted

/-- Metadata values are read up to the level at which their decoder is cut off. -/
theorem MetaValue.reads_decoderAt (level : Nat) (within : level ≤ nodeLevels) :
    ∀ value : MetaValue, value.Sorted → Reads level (decoderAt level) value.toJson value := by
  induction level with
  | zero =>
      intro value _
      cases value <;> exact .object_of_zero _
  | succ level ih =>
      intro value sorted
      have inner := ih (Nat.le_of_succ_le within)
      obtain ⟨inlines, blocks⟩ := DocFilter.reads_decoderAt nodeLevels
      cases sorted with
      | map increasing each =>
          rw [toJson, entriesToJson_eq]
          exact .node_content (MetaKind.named .map)
            (.onePart (.map increasing fun entry member => inner entry.2 (each entry member)))
      | list each =>
          rw [toJson, toJsons_eq]
          exact .node_content (MetaKind.named .list)
            (.onePart (.list_map fun item member => inner item (each item member)))
      | bool value => exact .node_content (MetaKind.named .bool) (.onePart (.bool value))
      | string text => exact .node_content (MetaKind.named .string) (.onePart (.string text))
      | inlines content =>
          exact .node_content (MetaKind.named .inlines)
            (.onePart ((Inline.reads_list inlines content).mono (Nat.le_of_succ_le within)))
      | blocks content =>
          exact .node_content (MetaKind.named .blocks)
            (.onePart ((Block.reads_list blocks content).mono (Nat.le_of_succ_le within)))

def Document.upTo (document : Document) (met : List String) : DocumentDraft where
  version := if "pandoc-api-version" ∈ met then some document.version else none
  metadata := if "meta" ∈ met then some document.metadata else none
  blocks := if "blocks" ∈ met then some document.blocks else none

/-- Documents whose metadata are in order are read. -/
theorem Document.reads (document : Document) (sorted : document.Sorted) :
    Reads nodeLevels decoder document.toJson document := by
  obtain ⟨version, metadata, blocks⟩ := document
  refine .record (upTo ⟨version, metadata, blocks⟩) rfl (by simp) (by simp) ?_ ?_
  · intro name value position room met outline new readAs holds
    simp only [List.mem_cons, List.not_mem_nil, or_false, Prod.mk.injEq] at position
    rcases position with ⟨rfl, rfl⟩ | ⟨rfl, rfl⟩ | ⟨rfl, rfl⟩
    · have read := Reads.list_map (fun number _ => Reads.nat32 number) room outline readAs holds
      simp [DocumentDraft.accept, upTo, setOnce_new new read]
    · rw [MetaValue.entriesToJson_eq] at readAs holds
      have read := Reads.map sorted.increasing
        (fun entry member => MetaValue.reads_decoderAt nodeLevels (Nat.le_refl _) entry.2
          (sorted.each entry member)) room outline readAs holds
      simp [DocumentDraft.accept, upTo, Metadata.decoder, MetaValue.decoder, setOnce_new new read]
    · have read := Block.reads_list (reads_decoderAt nodeLevels).2 blocks room outline readAs holds
      simp [DocumentDraft.accept, upTo, Block.decoder, setOnce_new new read]
  · intro all met
    simp only [List.mem_cons, List.not_mem_nil, or_false, forall_eq_or_imp, forall_eq] at met
    obtain ⟨metVersion, metMetadata, metBlocks⟩ := met
    simp [DocumentDraft.finish, upTo, required, metVersion, metMetadata, metBlocks]

end DocFilter
