import DocFilter.Proofs.Channel
import DocFilter.Proofs.Document.Accepted
import DocFilter.Proofs.Document.RoundTrip
import DocFilter.Proofs.Rendering.Complete
import DocFilter.Proofs.Walk.Covering

/-!
# Filtered texts are read back

Markup and paragraphs open no more containers at a time than the code and the tables that
they take the place of, and have no floating point numbers of their own. A text that was
read and filtered is therefore written as one that is read again, as the document that the
filter made.
-/

namespace DocFilter

open Json (Covers)

/-! ## Markup -/

namespace Json

theorem numbers_node (tag : String) (content : Json) :
    (node tag content).numbers = content.numbers :=
  List.append_nil content.numbers

/-- Markup is covered by whatever has a container in another one. -/
theorem covers_markup {whole : Json} (deep : 2 ≤ whole.depth) (tag format text : String) :
    whole.Covers (.node tag (.list [.string format, .string text])) where
  depth_le := deep
  reals := nofun

/-- A node with a list is covered if it is with each item alone. -/
theorem covers_node_list {whole : Json} {tag : String} {items : List Json}
    (deep : 2 ≤ whole.depth) (each : ∀ item ∈ items, whole.Covers (.node tag (.list [item]))) :
    whole.Covers (.node tag (.list items)) where
  depth_le := by
    obtain ⟨inner, same⟩ : ∃ inner, whole.depth = inner + 2 := ⟨whole.depth - 2, by omega⟩
    have low (item : Json) (member : item ∈ items) : item.depth ≤ inner := by
      have fits := (each item member).depth_le
      rw [depth_node, depth, depths, depths, Nat.max_zero, same] at fits
      exact Nat.le_of_succ_le_succ (Nat.le_of_succ_le_succ fits)
    rw [depth_node, same]
    exact Nat.succ_le_succ (depth_list_le low)
  reals width within := by
    rw [numbers_node] at within
    obtain ⟨item, member, inside⟩ := mem_listNumbers.mp within
    refine (each item member).reals width ?_
    rw [numbers_node]
    exact mem_listNumbers.mpr ⟨item, List.mem_singleton_self item, inside⟩

/-- A node that begins with attributes has lists in lists in a list. -/
theorem deep_of_attr (tag : String) (attr : Attr) (rest : List Json) :
    4 ≤ (node tag (.list (attr.toJson :: rest))).depth := by
  have classes : 1 ≤ (Json.strings attr.classes).depth := Nat.succ_le_succ (Nat.zero_le _)
  have inside : 2 ≤ attr.toJson.depth :=
    Nat.succ_le_succ
      (Nat.le_trans classes (Nat.le_trans (Nat.le_max_left _ _) (Nat.le_max_right _ _)))
  have listed : attr.toJson.depth ≤ depths (attr.toJson :: rest) := Nat.le_max_left _ _
  rw [depth_node]
  exact Nat.succ_le_succ (Nat.succ_le_succ (Nat.le_trans inside listed))

end Json

theorem Table.deep (table : Table) : 4 ≤ (Block.table table).toJson.depth := by
  obtain ⟨attr, caption, colSpecs, head, bodies, foot⟩ := table
  exact Json.deep_of_attr "Table" attr _

/-! ## Tables -/

section

variable {whole : Json}

theorem Block.covered_self {content : List Block}
    (covers : whole.Covers (.list (toJsons content))) :
    List.Forall₂ (fun x y => x = y ∧ whole.Covers y.toJson) content content := by
  rw [toJsons_eq] at covers
  exact List.forall₂_same.mpr fun block member => ⟨rfl, covers.of_mapped member⟩

theorem Row.covered_self {rows : List Row} (covers : whole.Covers (.list (toJsons rows))) :
    List.Forall₂ (Row.Alike (List.Forall₂ fun x y => x = y ∧ whole.Covers y.toJson)) rows rows := by
  rw [toJsons_eq] at covers
  refine List.forall₂_same.mpr fun ⟨attr, cells⟩ member => ?_
  have row := (covers.of_mapped member).trans (.item (.tail _ (.head _)))
  rw [Cell.toJsons_eq] at row
  refine .intro
    (List.forall₂_same.mpr fun ⟨attr, alignment, rowSpan, colSpan, content⟩ listed => ?_)
  have cell := (row.of_mapped listed).trans
    (.item (.tail _ (.tail _ (.tail _ (.tail _ (.head _))))))
  exact .intro (Block.covered_self cell)

theorem Caption.covered_self {caption : Caption} (covers : whole.Covers caption.toJson) :
    caption.Alike (fun _ _ => True)
      (List.Forall₂ fun x y => x = y ∧ whole.Covers y.toJson) caption := by
  obtain ⟨short, long⟩ := caption
  cases short with
  | none => exact .intro .none (Block.covered_self (covers.trans (.item (.tail _ (.head _)))))
  | some short =>
      exact .intro (.some trivial) (Block.covered_self (covers.trans (.item (.tail _ (.head _)))))

theorem TableBody.covered_self {body : TableBody} (covers : whole.Covers body.toJson) :
    body.Alike (List.Forall₂ fun x y => x = y ∧ whole.Covers y.toJson) body := by
  obtain ⟨attr, rowHeadColumns, head, rows⟩ := body
  have heading := covers.trans (.item (.tail _ (.tail _ (.head _))))
  have others := covers.trans (.item (.tail _ (.tail _ (.tail _ (.head _)))))
  exact .intro (Row.covered_self heading) (Row.covered_self others)

/-- A table is like itself, with blocks that are covered as the table is. -/
theorem Table.covered_self {table : Table} (covers : whole.Covers table.toJson) :
    table.Alike (fun _ _ => True)
      (List.Forall₂ fun x y => x = y ∧ whole.Covers y.toJson) table := by
  obtain ⟨attr, caption, colSpecs, ⟨headAttr, head⟩, bodies, ⟨footAttr, foot⟩⟩ := table
  have captions := covers.trans (.item (.tail _ (.head _)))
  have heads := covers.trans (.item (.tail _ (.tail _ (.tail _ (.head _)))))
  have sections := covers.trans (.item (.tail _ (.tail _ (.tail _ (.tail _ (.head _))))))
  have feet := covers.trans (.item (.tail _ (.tail _ (.tail _ (.tail _ (.tail _ (.head _)))))))
  rw [TableBody.toJsons_eq] at sections
  refine .intro (Caption.covered_self captions) ?_ ?_ ?_
  · exact Row.covered_self (heads.trans (.item (.tail _ (.head _))))
  · exact List.forall₂_same.mpr fun body member =>
      TableBody.covered_self (sections.of_mapped member)
  · exact Row.covered_self (feet.trans (.item (.tail _ (.head _))))

end

namespace Tabular

/-- Equal inlines that a value covers if they stand alone in a paragraph. -/
def Covered (whole : Json) (x y : Inline) : Prop := x = y ∧ whole.Covers (Block.para [y]).toJson

theorem Rendered.covered {whole : Json} (deep : 2 ≤ whole.depth) {x y : Block}
    (rendered : Rendered (Covered whole) x y) : whole.Covers y.toJson := by
  cases rendered with
  | raw format text => exact Json.covers_markup deep "RawBlock" format text
  | @para _ content inside =>
      have each := forall_of_forall₂ (fun _ _ covered => covered.2) inside
      rw [Block.toJson, Inline.toJsons_eq]
      exact Json.covers_node_list deep (List.forall_mem_map.mpr each)

theorem blockInlines_covered {whole : Json} (place : Place) (x y : Block)
    (same : x = y ∧ whole.Covers y.toJson) :
    Agree Eq (List.Forall₂ (Covered whole)) (blockInlines place x) (blockInlines place y) := by
  obtain ⟨rfl, covers⟩ := same
  cases x with
  | plain content | para content =>
      refine .ok (List.forall₂_same.mpr fun inline member => ⟨rfl, covers.trans (.node ?_)⟩)
      rw [Inline.toJsons_eq]
      exact .list (List.forall_mem_singleton.mpr ⟨_, List.mem_map_of_mem member, .refl _⟩)
  | _ => exact .error rfl

theorem Options.answers_covers (options : Options) (format : String) :
    (options.answers format).Covers where
  inline node action answered := by
    cases answered
    exact List.forall_mem_singleton.mpr (.refl node.toJson)
  block node action answered := by
    rcases replacements_of_answers answered with rfl | ⟨table, parts, rfl, made, rfl⟩
    · exact List.forall_mem_singleton.mpr (.refl node.toJson)
    · have deep : 4 ≤ (Block.table table).toJson.depth := table.deep
      have shallow : 2 ≤ (Block.table table).toJson.depth := Nat.le_trans (by decide) deep
      have inside : (Block.table table).toJson.Covers table.toJson := .content
      have parted := TableParts.alike_self blockInlines_covered (Table.covered_self inside) made
      have markup (text : String) : Covered (Block.table table).toJson (options.rawInline text)
          (options.rawInline text) := ⟨rfl, deep, nofun⟩
      have rendered := render_rel options markup parted
      exact forall_of_forall₂ (fun _ _ block => block.covered shallow) rendered

end Tabular

/-! ## Listings -/

theorem Listing.Renderer.answers_covers (renderer : Renderer) (format : String) :
    (Rendering.answers format (.listings renderer)).Covers where
  inline node action answered := by
    by_cases due : renderer.options.targetFormat = format ∧ node.kind = .code
    · obtain ⟨attr, text, rfl⟩ := Inline.exists_of_kind_code due.2
      have marked := (onInline_code due.1 attr text).symm.trans answered
      obtain ⟨markup, -, rfl⟩ := exists_of_map_eq_ok marked
      have deep := Json.deep_of_attr "Code" attr [.string text]
      exact List.forall_mem_singleton.mpr (Json.covers_markup (Nat.le_trans (by decide) deep) _ _ _)
    · have kept : (renderer.onInline ⟨format, []⟩ node).outcome = .ok .keep :=
        onInline_keep fun target code => due ⟨target, code⟩
      cases kept.symm.trans answered
      exact List.forall_mem_singleton.mpr (.refl node.toJson)
  block node action answered := by
    by_cases due : renderer.options.targetFormat = format ∧ node.kind = .code
    · obtain ⟨attr, text, rfl⟩ := Block.exists_of_kind_code due.2
      have marked := (onBlock_code due.1 attr text).symm.trans answered
      obtain ⟨markup, -, rfl⟩ := exists_of_map_eq_ok marked
      have deep := Json.deep_of_attr "CodeBlock" attr [.string text]
      exact List.forall_mem_singleton.mpr (Json.covers_markup (Nat.le_trans (by decide) deep) _ _ _)
    · have kept : (renderer.onBlock ⟨format, []⟩ node).outcome = .ok .keep :=
        onBlock_keep fun target code => due ⟨target, code⟩
      cases kept.symm.trans answered
      exact List.forall_mem_singleton.mpr (.refl node.toJson)

/-! ## Chains -/

theorem Rendering.answers_covers (rendering : Rendering) (format : String) :
    (rendering.answers format).Covers := by
  cases rendering with
  | listings renderer => exact renderer.answers_covers format
  | tables options => exact options.answers_covers format

section

variable (format : String)

mutual

/-- No chain of renderings replaces a node by what the node does not cover. -/
theorem Chain.answers_covers : ∀ chain : Chain Rendering, (chain.answers format).Covers
  | .leaf rendering => rendering.answers_covers format
  | .identity => Answers.keep_covers
  | .composite members => Chain.answersOf_covers members

theorem Chain.answersOf_covers : ∀ members : List (Chain Rendering),
    (Chain.answersOf format members).Covers
  | [] => Answers.keep_covers
  | member :: rest => (Chain.answers_covers member).orElse (Chain.answersOf_covers rest)

end

end

/-! ## Whole texts -/

/-- What is written for a document that a document covers, which was read, is read back. -/
theorem Document.ofText_of_covers {text : Text.Source} {source result : Document}
    (read : ofSource text = .ok source) (covers : source.toJson.Covers result.toJson)
    (sorted : result.Sorted)
    (faithful : ∀ width, .real width ∈ source.toJson.numbers → Decimal.Faithful width)
    (layout : Json.Layout) : ofText (result.toText layout) = .ok result := by
  have shallow := Nat.le_trans covers.depth_le (depth_le_of_ofSource read)
  have legible := result.legible fun width member => faithful width (covers.reals width member)
  have run := (result.reads sorted).run layout shallow legible
  rw [ofText, ofSource, toText, run]
  rfl

section

variable {chain : Chain Rendering} {format : String} {limit : Document → Nat} {text out : String}
  {σ : Type} {state : σ}

/-- A text that a chain of renderings made of another one is read as the document that the
chain made, if the decimal text of every width of a column is that width again. -/
theorem Document.ofText_filterText
    (faithful : ∀ source, ofText text = .ok source →
      ∀ width, .real width ∈ source.toJson.numbers → Decimal.Faithful width)
    (filtered : (filterText chain.rendering format limit text state).result = .ok out) :
    ∃ source result, ofText text = .ok source ∧
      (source.filter chain.rendering format (limit source) state).result = .ok result ∧
      out = result.toText .compact ∧ ofText out = .ok result := by
  obtain ⟨result, made, rfl⟩ := exists_of_map_eq_ok filtered
  rw [filterSource_result] at made
  obtain ⟨source, read, walked⟩ := exists_of_bind_eq_ok made
  have read := eq_ok_of_mapError_eq_ok read
  refine ⟨source, result, read, walked, rfl, ?_⟩
  rw [(chain.gives_answers ⟨format, source.metadata⟩).result] at walked
  obtain ⟨covers, sorted⟩ := (chain.answers_covers format).document walked
  exact ofText_of_covers read covers (sorted (sorted_of_ofSource read)) (faithful source read)
    .compact

end

/-- A table with a column of half the width of the text, and code in its caption. -/
def Document.halfTable : Document :=
  .ofBlocks [.table ⟨.empty, ⟨none, [.plain [.code .empty "a"]]⟩, [⟨.left, .fixed 0.5⟩],
    ⟨.empty, []⟩, [⟨.empty, 0, [], [.ofCells [.ofBlocks [.plain [.str "b"]]]]⟩], ⟨.empty, []⟩⟩]

/-- The table is rendered with its code, and the text of the rendering is read back. -/
theorem Document.ofText_filterText_halfTable :
    ∃ out result,
      (filterText Chain.nested.rendering "latex" height (halfTable.toText .indented) ()).result =
        .ok out ∧
      (halfTable.filter Chain.nested.rendering "latex" halfTable.height ()).result =
        .ok result ∧
      ofText out = .ok result := by
  have half : ∀ width, .real width ∈ halfTable.toJson.numbers → Decimal.Faithful width := by
    intro width member
    have numbers : halfTable.toJson.numbers =
        [.whole 1, .whole 23, .whole 1, .real 0.5, .whole 0, .whole 1, .whole 1] := rfl
    rw [numbers] at member
    simp only [List.mem_cons, List.not_mem_nil, reduceCtorEq, Decimal.Number.real.injEq,
      false_or, or_false] at member
    exact member ▸ Decimal.faithful_half
  have read : ofSource (.ofText (halfTable.toText .indented)) = .ok halfTable := by
    have run := (halfTable.reads (.ofBlocks _)).run .indented (by decide) (halfTable.legible half)
    rw [ofSource, toText, run]
    rfl
  obtain ⟨result, walked⟩ : ∃ result,
      (halfTable.filter Chain.nested.rendering "latex" halfTable.height ()).result = .ok result :=
    exists_of_isOk (by decide +kernel)
  have filtered :
      (filterText Chain.nested.rendering "latex" height (halfTable.toText .indented) ()).result =
        .ok (result.toText .compact) := by
    rw [filterText]
    dsimp only
    rw [filterSource_result, read]
    exact congrArg (Except.map fun result => result.toText .compact) walked
  have faithful : ∀ source, ofText (halfTable.toText .indented) = .ok source →
      ∀ width, .real width ∈ source.toJson.numbers → Decimal.Faithful width := by
    intro source same
    cases read.symm.trans same
    exact half
  obtain ⟨source, other, same, again, -, back⟩ := ofText_filterText faithful filtered
  cases read.symm.trans same
  cases walked.symm.trans again
  exact ⟨_, result, filtered, walked, back⟩

end DocFilter
