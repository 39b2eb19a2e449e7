import DocFilter.Document.Text
import DocFilter.Proofs.Document.Codec
import DocFilter.Proofs.Json.RoundTrip

/-!
# Documents read back

A document is read back from its text, in either layout. The numbers in the text
are legible: integers are those of 32 bits, and floating point numbers are
widths of columns.
-/

namespace DocFilter

open Json (FitsWord)

/-! ## Integers in documents -/

namespace Json

/-- Every integer in the value fits a word. -/
def Wordy (value : Json) : Prop := ∀ number, .whole number ∈ value.numbers → FitsWord number

namespace Wordy

theorem string (text : String) : Wordy (.string text) := by
  intro number none
  cases none

theorem real (value : Float) : Wordy (.real value) := by
  intro number other
  cases List.mem_singleton.mp other

theorem int {value : Int} (fits : FitsWord value) : Wordy (.int value) := by
  intro number same
  cases List.mem_singleton.mp same
  exact fits

theorem int32 (value : Int32) : Wordy (.int value.toInt) := by
  have above := value.le_toInt
  have below := value.toInt_lt
  exact .int ⟨by omega, by omega⟩

theorem nat32 (value : UInt32) : Wordy (.int value.toNat) := by
  have below := value.toNat_lt
  exact .int ⟨by omega, by omega⟩

/-- The integers in a list fit if those in its items do. -/
theorem list {items : List Json} (each : ∀ item ∈ items, Wordy item) : Wordy (.list items) := by
  intro number within
  obtain ⟨item, member, inside⟩ := mem_listNumbers.mp within
  exact each item member number inside

theorem object {members : List (String × Json)} (each : ∀ member ∈ members, Wordy member.2) :
    Wordy (.object members) := by
  intro number within
  obtain ⟨member, listed, inside⟩ := mem_memberNumbers.mp within
  exact each member listed number inside

/-- The integers in a list fit if those in its first item and in the others do. -/
theorem cons {first : Json} {rest : List Json} (head : Wordy first)
    (others : ∀ item ∈ rest, Wordy item) : ∀ item ∈ first :: rest, Wordy item := by
  intro item member
  rcases List.mem_cons.mp member with rfl | later
  · exact head
  · exact others item later

theorem nil : ∀ item ∈ ([] : List Json), Wordy item := by
  intro item none
  cases none

theorem tagged (tag : String) : Wordy (.tagged tag) :=
  .object (List.forall_mem_singleton.mpr (.string tag))

theorem node (tag : String) {content : Json} (inside : Wordy content) :
    Wordy (.node tag content) :=
  .object (List.forall_mem_cons.mpr ⟨.string tag, List.forall_mem_singleton.mpr inside⟩)

end Wordy

end Json

open Json (Wordy)

theorem Attr.wordy (attr : Attr) : attr.toJson.Wordy := by
  refine .list (.cons (.string _) (.cons (.list ?_) (.cons (.list ?_) .nil)))
  · intro item member
    obtain ⟨name, -, rfl⟩ := List.mem_map.mp member
    exact .string name
  · intro item member
    obtain ⟨⟨key, value⟩, -, rfl⟩ := List.mem_map.mp member
    exact .list (.cons (.string key) (.cons (.string value) .nil))

theorem Target.wordy (target : Target) : target.toJson.Wordy :=
  .list (.cons (.string _) (.cons (.string _) .nil))

theorem ListAttributes.wordy (attributes : ListAttributes) : attributes.toJson.Wordy :=
  .list (.cons (.int32 _) (.cons (.tagged _) (.cons (.tagged _) .nil)))

theorem ColSpec.wordy (spec : ColSpec) : spec.toJson.Wordy := by
  obtain ⟨alignment, width⟩ := spec
  cases width with
  | fixed fraction => exact .list (.cons (.tagged _) (.cons (.node _ (.real fraction)) .nil))
  | default => exact .list (.cons (.tagged _) (.cons (.tagged _) .nil))

mutual

theorem Inline.wordy : ∀ inline : Inline, inline.toJson.Wordy
  | .str text => .node _ (.string text)
  | .emph content => .node _ (.list (Inline.wordy_list content))
  | .underline content => .node _ (.list (Inline.wordy_list content))
  | .strong content => .node _ (.list (Inline.wordy_list content))
  | .strikeout content => .node _ (.list (Inline.wordy_list content))
  | .superscript content => .node _ (.list (Inline.wordy_list content))
  | .subscript content => .node _ (.list (Inline.wordy_list content))
  | .smallCaps content => .node _ (.list (Inline.wordy_list content))
  | .quoted _ content =>
      .node _ (.list (.cons (.tagged _) (.cons (.list (Inline.wordy_list content)) .nil)))
  | .cite citations content =>
      .node _ (.list (.cons (.list (Citation.wordy_list citations))
        (.cons (.list (Inline.wordy_list content)) .nil)))
  | .code attr text => .node _ (.list (.cons attr.wordy (.cons (.string text) .nil)))
  | .space => .tagged _
  | .softBreak => .tagged _
  | .lineBreak => .tagged _
  | .math _ text => .node _ (.list (.cons (.tagged _) (.cons (.string text) .nil)))
  | .raw format text => .node _ (.list (.cons (.string format) (.cons (.string text) .nil)))
  | .link attr content target =>
      .node _ (.list (.cons attr.wordy (.cons (.list (Inline.wordy_list content))
        (.cons target.wordy .nil))))
  | .image attr content target =>
      .node _ (.list (.cons attr.wordy (.cons (.list (Inline.wordy_list content))
        (.cons target.wordy .nil))))
  | .note content => .node _ (.list (Block.wordy_list content))
  | .span attr content =>
      .node _ (.list (.cons attr.wordy (.cons (.list (Inline.wordy_list content)) .nil)))

theorem Inline.wordy_list : ∀ content : List Inline, ∀ item ∈ Inline.toJsons content, item.Wordy
  | [] => .nil
  | inline :: rest => .cons inline.wordy (Inline.wordy_list rest)

theorem Inline.wordy_lines : ∀ lines : List (List Inline),
    ∀ item ∈ Inline.linesToJson lines, item.Wordy
  | [] => .nil
  | line :: rest => .cons (.list (Inline.wordy_list line)) (Inline.wordy_lines rest)

theorem Citation.wordy : ∀ citation : Citation, citation.toJson.Wordy
  | ⟨key, before, after, _, noteNumber, hash⟩ => by
      refine .object ?_
      simp only [List.forall_mem_cons]
      exact ⟨.string key, .list (Inline.wordy_list before), .list (Inline.wordy_list after),
        .tagged _, .int32 noteNumber, .int32 hash, List.forall_mem_nil _⟩

theorem Citation.wordy_list : ∀ citations : List Citation,
    ∀ item ∈ Citation.toJsons citations, item.Wordy
  | [] => .nil
  | citation :: rest => .cons citation.wordy (Citation.wordy_list rest)

theorem Block.wordy : ∀ block : Block, block.toJson.Wordy
  | .plain content => .node _ (.list (Inline.wordy_list content))
  | .para content => .node _ (.list (Inline.wordy_list content))
  | .lineBlock lines => .node _ (.list (Inline.wordy_lines lines))
  | .code attr text => .node _ (.list (.cons attr.wordy (.cons (.string text) .nil)))
  | .raw format text => .node _ (.list (.cons (.string format) (.cons (.string text) .nil)))
  | .blockQuote content => .node _ (.list (Block.wordy_list content))
  | .orderedList attributes items =>
      .node _ (.list (.cons attributes.wordy (.cons (.list (Block.wordy_items items)) .nil)))
  | .bulletList items => .node _ (.list (Block.wordy_items items))
  | .definitionList items => .node _ (.list (Block.wordy_definitions items))
  | .header level attr content =>
      .node _ (.list (.cons (.int32 level) (.cons attr.wordy
        (.cons (.list (Inline.wordy_list content)) .nil))))
  | .horizontalRule => .tagged _
  | .table table => .node _ table.wordy
  | .figure attr caption content =>
      .node _ (.list (.cons attr.wordy (.cons caption.wordy
        (.cons (.list (Block.wordy_list content)) .nil))))
  | .div attr content =>
      .node _ (.list (.cons attr.wordy (.cons (.list (Block.wordy_list content)) .nil)))

theorem Block.wordy_list : ∀ content : List Block, ∀ item ∈ Block.toJsons content, item.Wordy
  | [] => .nil
  | block :: rest => .cons block.wordy (Block.wordy_list rest)

theorem Block.wordy_items : ∀ items : List (List Block),
    ∀ item ∈ Block.itemsToJson items, item.Wordy
  | [] => .nil
  | item :: rest => .cons (.list (Block.wordy_list item)) (Block.wordy_items rest)

theorem Block.wordy_definitions : ∀ items : List (List Inline × List (List Block)),
    ∀ item ∈ Block.definitionsToJson items, item.Wordy
  | [] => .nil
  | (term, definitions) :: rest =>
      .cons (.list (.cons (.list (Inline.wordy_list term))
        (.cons (.list (Block.wordy_items definitions)) .nil))) (Block.wordy_definitions rest)

theorem Caption.wordy : ∀ caption : Caption, caption.toJson.Wordy
  | ⟨none, long⟩ => .list (.cons (fun _ none => nomatch none)
      (.cons (.list (Block.wordy_list long)) .nil))
  | ⟨some short, long⟩ => .list (.cons (.list (Inline.wordy_list short))
      (.cons (.list (Block.wordy_list long)) .nil))

theorem Table.wordy : ∀ table : Table, table.toJson.Wordy
  | ⟨attr, caption, colSpecs, head, bodies, foot⟩ => by
      have columns : ∀ item ∈ colSpecs.map ColSpec.toJson, item.Wordy := by
        intro item member
        obtain ⟨spec, -, rfl⟩ := List.mem_map.mp member
        exact spec.wordy
      exact .list (.cons attr.wordy (.cons caption.wordy (.cons (.list columns)
        (.cons head.wordy (.cons (.list (TableBody.wordy_list bodies)) (.cons foot.wordy .nil))))))

theorem TableHead.wordy : ∀ head : TableHead, head.toJson.Wordy
  | ⟨attr, rows⟩ => .list (.cons attr.wordy (.cons (.list (Row.wordy_list rows)) .nil))

theorem TableBody.wordy : ∀ body : TableBody, body.toJson.Wordy
  | ⟨attr, rowHeadColumns, head, rows⟩ =>
      .list (.cons attr.wordy (.cons (.int32 rowHeadColumns)
        (.cons (.list (Row.wordy_list head)) (.cons (.list (Row.wordy_list rows)) .nil))))

theorem TableBody.wordy_list : ∀ bodies : List TableBody,
    ∀ item ∈ TableBody.toJsons bodies, item.Wordy
  | [] => .nil
  | body :: rest => .cons body.wordy (TableBody.wordy_list rest)

theorem TableFoot.wordy : ∀ foot : TableFoot, foot.toJson.Wordy
  | ⟨attr, rows⟩ => .list (.cons attr.wordy (.cons (.list (Row.wordy_list rows)) .nil))

theorem Row.wordy : ∀ row : Row, row.toJson.Wordy
  | ⟨attr, cells⟩ => .list (.cons attr.wordy (.cons (.list (Cell.wordy_list cells)) .nil))

theorem Row.wordy_list : ∀ rows : List Row, ∀ item ∈ Row.toJsons rows, item.Wordy
  | [] => .nil
  | row :: rest => .cons row.wordy (Row.wordy_list rest)

theorem Cell.wordy : ∀ cell : Cell, cell.toJson.Wordy
  | ⟨attr, _, rowSpan, colSpan, content⟩ =>
      .list (.cons attr.wordy (.cons (.tagged _) (.cons (.int32 rowSpan) (.cons (.int32 colSpan)
        (.cons (.list (Block.wordy_list content)) .nil)))))

theorem Cell.wordy_list : ∀ cells : List Cell, ∀ item ∈ Cell.toJsons cells, item.Wordy
  | [] => .nil
  | cell :: rest => .cons cell.wordy (Cell.wordy_list rest)

end

mutual

theorem MetaValue.wordy : ∀ value : MetaValue, value.toJson.Wordy
  | .map entries => .node _ (.object (MetaValue.wordy_entries entries))
  | .list items => .node _ (.list (MetaValue.wordy_list items))
  | .bool _ => .node _ fun _ none => nomatch none
  | .string text => .node _ (.string text)
  | .inlines content => .node _ (.list (Inline.wordy_list content))
  | .blocks content => .node _ (.list (Block.wordy_list content))

theorem MetaValue.wordy_list : ∀ values : List MetaValue,
    ∀ item ∈ MetaValue.toJsons values, item.Wordy
  | [] => .nil
  | value :: rest => .cons value.wordy (MetaValue.wordy_list rest)

theorem MetaValue.wordy_entries : ∀ entries : List (String × MetaValue),
    ∀ member ∈ MetaValue.entriesToJson entries, member.2.Wordy
  | [] => List.forall_mem_nil _
  | (_, value) :: rest =>
      List.forall_mem_cons.mpr ⟨value.wordy, MetaValue.wordy_entries rest⟩

end

/-- The integers in a document fit. -/
theorem Document.wordy (document : Document) : document.toJson.Wordy := by
  have version : ∀ item ∈ document.version.map fun number => Json.int number.toNat,
      item.Wordy := by
    intro item member
    obtain ⟨number, -, rfl⟩ := List.mem_map.mp member
    exact .nat32 number
  refine .object ?_
  simp only [List.forall_mem_cons]
  exact ⟨.list version, .object (MetaValue.wordy_entries document.metadata),
    .list (Block.wordy_list document.blocks), List.forall_mem_nil _⟩

/-! ## The round trip -/

/-- A text has room for the containers that it may nest. -/
theorem Decode.Mode.holds_direct {depth : Nat} (shallow : depth ≤ 127) :
    (direct 127).Holds nodeLevels depth where
  reached := Nat.le_succ_of_le shallow
  room room same := by
    cases same
    exact shallow

/-- A decoder that reads a value reads it from every text that is the value, if containers
are nested at most as deep as a text may nest them. -/
theorem Decode.Reads.run_of_writtenAs {α : Type} {decoder : Decode.Decoder α} {value : Json}
    {result : α} {text : String} (reads : Decode.Reads nodeLevels decoder value result)
    (shallow : value.depth ≤ 127) (written : value.WrittenAs text) :
    Decode.run decoder (.ofText text) = .ok result := by
  obtain ⟨outline, scanned, readAs⟩ := written
  have decoded := reads (.direct 127) outline readAs (Mode.holds_direct shallow)
  rw [Decode.run, scanned]
  dsimp only
  rw [decoded]
  rfl

/-- A decoder that reads a value reads it from its text, if containers are nested as
deep as a text may nest them and the numbers are legible. -/
theorem Decode.Reads.run {α : Type} {decoder : Decode.Decoder α} {value : Json} {result : α}
    (layout : Json.Layout) (reads : Decode.Reads nodeLevels decoder value result)
    (shallow : value.depth ≤ 127) (legible : ∀ number ∈ value.numbers, Json.Legible number) :
    Decode.run decoder (.ofText (value.toText layout)) = .ok result :=
  reads.run_of_writtenAs shallow (.of_legible layout legible)

/-- The numbers in a document are legible if the widths of columns are faithful. -/
theorem Document.legible (document : Document)
    (faithful : ∀ width, .real width ∈ document.toJson.numbers → Decimal.Faithful width) :
    ∀ number ∈ document.toJson.numbers, Json.Legible number := by
  intro number member
  cases number with
  | whole value => exact Json.legible_whole (document.wordy value member)
  | real width => exact Json.legible_real (faithful width member)

/-- A document is read from every text that is its value. -/
theorem Document.ofText_of_writtenAs {document : Document} (sorted : document.Sorted)
    (shallow : document.toJson.depth ≤ 127) {text : String}
    (written : document.toJson.WrittenAs text) : ofText text = .ok document := by
  rw [ofText, ofSource, (document.reads sorted).run_of_writtenAs shallow written]
  rfl

/-- A document is read back from its text in either layout, if it nests containers at
most as deep as a text may, its metadata are in order, and the decimal text of every
width of a column is that width again. -/
theorem Document.ofText_toText (document : Document) (layout : Json.Layout)
    (sorted : document.Sorted) (shallow : document.toJson.depth ≤ 127)
    (faithful : ∀ width, .real width ∈ document.toJson.numbers → Decimal.Faithful width) :
    ofText (document.toText layout) = .ok document := by
  have run := (document.reads sorted).run layout shallow (document.legible faithful)
  rw [ofText, ofSource, toText, run]
  rfl

/-- A table with a column of half the width of the text, a note in its caption, and
nested metadata. -/
def Document.halfWidth : Document where
  version := currentVersion
  metadata := [("subject", .map [("draft", .bool true), ("title", .inlines [.str "\u0007"])])]
  blocks := [.table ⟨.ofIdentifier "t", ⟨none, [.plain [.note [.para [.str "\"", .space]]]]⟩,
    [⟨.left, .fixed 0.5⟩], ⟨.empty, []⟩,
    [⟨.empty, 0, [], [⟨.empty, [⟨.empty, .default, 1, 1, [.horizontalRule]⟩]⟩]⟩], ⟨.empty, []⟩⟩]

/-- The text of half a column's width is that width. -/
theorem Decimal.faithful_half : Faithful 0.5 := by
  have real : (⟨false, [0], [5], none⟩ : Numeral).real? = some 0.5 := by decide +kernel
  have number : (⟨false, [0], [5], none⟩ : Numeral).number? = some (.real 0.5) := by
    show Option.map Number.real _ = _
    rw [real]
    rfl
  have read : (Json.Scalar.numeral ⟨false, [0], [5], none⟩ none).read =
      .ok (.number (.real 0.5)) := by
    rw [Json.Scalar.read, number]
    rfl
  exact ⟨['0', '.', '5'], _, by decide +kernel, by decide +kernel, read⟩

/-- The round trip of a document with all kinds of parts, in the indented layout. -/
theorem Document.ofText_toText_halfWidth :
    ofText (halfWidth.toText .indented) = .ok halfWidth := by
  have sorted : halfWidth.Sorted := by
    constructor
    · exact List.pairwise_singleton _ _
    · intro entry member
      obtain rfl := List.mem_singleton.mp member
      have inOrder : "draft" < "title" := by decide
      refine .map (List.pairwise_pair.mpr inOrder) ?_
      intro entry member
      simp only [List.mem_cons, List.not_mem_nil, or_false] at member
      rcases member with rfl | rfl
      · exact .bool true
      · exact .inlines _
  have faithful : ∀ width, .real width ∈ halfWidth.toJson.numbers → Decimal.Faithful width := by
    intro width member
    have numbers : halfWidth.toJson.numbers =
        [.whole 1, .whole 23, .whole 1, .real 0.5, .whole 0, .whole 1, .whole 1] := rfl
    rw [numbers] at member
    simp only [List.mem_cons, List.not_mem_nil, reduceCtorEq, Decimal.Number.real.injEq,
      false_or, or_false] at member
    exact member ▸ Decimal.faithful_half
  exact ofText_toText halfWidth .indented sorted (by decide) faithful

end DocFilter
