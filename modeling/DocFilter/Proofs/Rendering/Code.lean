import DocFilter.Proofs.Rendering.Order
import DocFilter.Proofs.Walk.Counting

/-!
# Walks of renderers of listings

Markup takes the place of code, and there are no nodes inside either of them. A walk
that renders listings is therefore offered the nodes of the document as it was, and
replaces as many of them as are code.
-/

namespace DocFilter

namespace Marking

variable {marking : Marking}

/-- Code gives way to markup, and each other node stays. -/
theorem answers_steady (marking : Marking) : marking.answers.Steady where
  inline node := by
    by_cases code : node.kind = .code
    · obtain ⟨attr, text, rfl⟩ := Inline.exists_of_kind_code code
      exact ⟨.raw marking.format (marking.inline attr text), rfl, rfl, Nat.le_refl 1⟩
    · rw [answers_inline_other code]
      exact ⟨node, rfl, rfl, Nat.le_refl node.height⟩
  block node := by
    by_cases code : node.kind = .code
    · obtain ⟨attr, text, rfl⟩ := Block.exists_of_kind_code code
      exact ⟨.raw marking.format (marking.block attr text), rfl, rfl, Nat.le_refl 1⟩
    · rw [answers_block_other code]
      exact ⟨node, rfl, rfl, Nat.le_refl node.height⟩

theorem offer_node (node : Node) : (marking.answers.offer node).node = node := by
  cases node <;> rfl

/-- Something takes the place of a node exactly if it is code. -/
theorem offer_isReplacement (node : Node) :
    (marking.answers.offer node).answer.isReplacement = node.isCode := by
  cases node with
  | inline value => cases value <;> rfl
  | block value => cases value <;> rfl

variable {σ : Type} {source : Document} {filter : NodeFilter σ} {format : String} {limit : Nat}
  {state : σ}

/-- A walk that marks code counts the nodes of the document and, among them, those that are
code. -/
theorem walkStats_eq (fits : source.height ≤ limit)
    (gives : filter.Gives ⟨format, source.metadata⟩ marking.answers) :
    source.walkStats filter format limit state =
      ⟨source.nodes.countP Node.isBlock, source.nodes.countP Node.isInline,
        source.nodes.countP Node.isCode⟩ := by
  rw [Document.walkStats_eq_after, Document.offers_of_steady marking.answers_steady fits gives]
  simp only [WalkStats.after, List.countP_map, Function.comp_def, offer_node,
    offer_isReplacement, Nat.zero_add]

end Marking

/-- A renderer of listings that could be made replaces all code by its markup for the parts
of that code, and nothing else. It counts each node of the document once, and each code as
replaced. -/
theorem Document.filter_listings {options : Listing.Options} {renderer : Listing.Renderer}
    (made : Listing.Renderer.ofOptions? options = .ok renderer) {source : Document}
    {format : String} (target : renderer.options.targetFormat = format) {limit : Nat}
    (fits : source.height ≤ limit) {σ : Type} (state : σ) :
    ∃ marking : Marking,
      marking.format = format ∧
      (∀ attr text,
        renderer.renderBlock (.ofAttr attr text renderer.options.defaultLanguage) =
          .ok (marking.block attr text)) ∧
      (∀ attr text,
        renderer.renderInline (.ofAttr attr text renderer.options.defaultLanguage) =
          .ok (marking.inline attr text)) ∧
      (source.filter renderer.filter format limit state).result =
        .ok (source.marked marking) ∧
      source.walkStats renderer.filter format limit state =
        { blocks := source.nodes.countP Node.isBlock
          inlines := source.nodes.countP Node.isInline
          replaced := source.nodes.countP Node.isCode } := by
  obtain ⟨-, valid⟩ := Listing.Renderer.ofOptions?_eq_ok.mp made
  have gives : (renderer.filter (σ := σ)).Gives ⟨format, source.metadata⟩
      (renderer.marking format).answers := valid.gives_marking target
  refine ⟨renderer.marking format, rfl, fun attr text => valid.renderBlock_eq _,
    fun attr text => valid.renderInline_eq _, ?_, Marking.walkStats_eq fits gives⟩
  rw [gives.result, Answers.document_marking _ fits]

/-- The code in the cell of a nested table and in the captions around it is replaced. -/
theorem Document.filter_listings_nestedTables :
    Listing.Renderer.ofOptions? .bare = .ok ⟨.bare⟩ ∧ nestedTables.height ≤ 7 ∧
      ∃ marking : Marking,
        marking.format = "latex" ∧
        (nestedTables.filter (Listing.Renderer.filter ⟨.bare⟩) "latex" 7 ()).result =
          .ok (nestedTables.marked marking) ∧
        nestedTables.walkStats (Listing.Renderer.filter ⟨.bare⟩) "latex" 7 () =
          { blocks := 6, inlines := 4, replaced := 3 } := by
  have made : Listing.Renderer.ofOptions? .bare = .ok ⟨.bare⟩ :=
    Listing.Renderer.ofOptions?_eq_ok.mpr ⟨rfl, by decide +kernel, by decide +kernel⟩
  have fits : nestedTables.height ≤ 7 := by decide
  obtain ⟨marking, same, -, -, result, counted⟩ := filter_listings made rfl fits ()
  exact ⟨made, fits, marking, same, result, counted.trans (by decide)⟩

end DocFilter
