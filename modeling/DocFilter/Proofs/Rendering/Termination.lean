import DocFilter.Proofs.Rendering.Complete

/-!
# Walks that come to an end

The children of what takes the place of a node are offered as well, so a walk comes to an
end because of what the filter answers, not because documents are finite. It does if
nothing is replaced by anything taller, and no chain of renderings does that: markup has
no children, and the paragraphs that a table is rendered as hold inlines of that table.
-/

namespace DocFilter

/-! ## Chains of renderings -/

namespace Listing.Renderer

variable {renderer : Renderer} {context : Context}

/-- An inline stays or markup takes its place. -/
theorem onInline_action {node : Inline} {action : Action Inline}
    (answered : (renderer.onInline context node).outcome = .ok action) :
    action = .keep ∨ ∃ markup, action = .one (.raw context.format markup) := by
  by_cases other : renderer.options.targetFormat = context.format → node.kind ≠ .code
  · cases (onInline_keep other).symm.trans answered
    exact .inl rfl
  · obtain ⟨target, code⟩ := not_forall.mp other
    obtain ⟨attr, text, rfl⟩ := Inline.exists_of_kind_code (not_not.mp code)
    rw [onInline_code target] at answered
    obtain ⟨markup, -, rfl⟩ := exists_of_map_eq_ok answered
    exact .inr ⟨markup, rfl⟩

theorem onBlock_action {node : Block} {action : Action Block}
    (answered : (renderer.onBlock context node).outcome = .ok action) :
    action = .keep ∨ ∃ markup, action = .one (.raw context.format markup) := by
  by_cases other : renderer.options.targetFormat = context.format → node.kind ≠ .code
  · cases (onBlock_keep other).symm.trans answered
    exact .inl rfl
  · obtain ⟨target, code⟩ := not_forall.mp other
    obtain ⟨attr, text, rfl⟩ := Block.exists_of_kind_code (not_not.mp code)
    rw [onBlock_code target] at answered
    obtain ⟨markup, -, rfl⟩ := exists_of_map_eq_ok answered
    exact .inr ⟨markup, rfl⟩

end Listing.Renderer

namespace Rendering

variable (format : String)

/-- Code is rendered as markup, which is no taller. -/
theorem listings_lowers (renderer : Listing.Renderer) :
    (answers format (.listings renderer)).Lowers where
  inline node action answered := by
    rcases Listing.Renderer.onInline_action answered with rfl | ⟨markup, rfl⟩
    · exact List.forall_mem_singleton.mpr (Nat.le_refl node.height)
    · exact List.forall_mem_singleton.mpr node.height_pos
  block node action answered := by
    rcases Listing.Renderer.onBlock_action answered with rfl | ⟨markup, rfl⟩
    · exact List.forall_mem_singleton.mpr (Nat.le_refl node.height)
    · exact List.forall_mem_singleton.mpr node.height_pos

theorem answers_lowers (rendering : Rendering) : (rendering.answers format).Lowers := by
  cases rendering with
  | listings renderer => exact listings_lowers format renderer
  | tables options => exact options.answers_lowers

end Rendering

namespace Chain

section

variable (format : String)

mutual

/-- No chain of renderings answers with anything taller. -/
theorem answers_lowers : ∀ chain : Chain Rendering, (chain.answers format).Lowers
  | .leaf rendering => rendering.answers_lowers format
  | .identity => Answers.keep_lowers
  | .composite members => Chain.answersOf_lowers members

theorem answersOf_lowers : ∀ members : List (Chain Rendering), (answersOf format members).Lowers
  | [] => Answers.keep_lowers
  | member :: rest => (Chain.answers_lowers member).orElse (Chain.answersOf_lowers rest)

end

end

theorem rendering_lowers {σ : Type} (chain : Chain Rendering) (context : Context) :
    (chain.rendering (σ := σ)).Lowers context :=
  (chain.answers_lowers context.format).gives (chain.gives_answers context)

end Chain

/-! ## Documents -/

/-- Every walk of a document with a filter that never answers with anything taller comes to
an end, and it never goes down further than the height of the document: the outcome is the
same with that limit and with any higher one. Every chain of renderings is such a
filter. -/
theorem Document.filter_terminates :
    (∀ {σ : Type} (filter : NodeFilter σ) (source : Document) (format : String),
      filter.Lowers ⟨format, source.metadata⟩ → ∀ (state : σ) (limit : Nat),
        source.height ≤ limit →
          (source.filter filter format limit state).result ≠ .error .tooDeep ∧
            source.filter filter format limit state =
              source.filter filter format source.height state) ∧
    ∀ {σ : Type} (chain : Chain Rendering) (context : Context),
      (chain.rendering (σ := σ)).Lowers context := by
  constructor
  · intro σ filter source format lowers state limit fits
    exact filter_of_lowers lowers fits
  · intro σ chain context
    exact chain.rendering_lowers context

/-- Tables in one another, with code in them, are rendered without going down further than
they are high. -/
theorem Document.filter_terminates_nestedTables :
    nestedTables.height = 6 ∧
      (nestedTables.filter Chain.nested.rendering "latex" 6 ()).result ≠ .error .tooDeep ∧
      nestedTables.filter Chain.nested.rendering "latex" 100 () =
        nestedTables.filter Chain.nested.rendering "latex" 6 () := by
  have high : nestedTables.height = 6 := by decide
  obtain ⟨terminates, chains⟩ := filter_terminates
  have lowers := chains (σ := Unit) Chain.nested ⟨"latex", nestedTables.metadata⟩
  obtain ⟨ends, -⟩ := terminates _ nestedTables "latex" lowers () 6 (by decide)
  obtain ⟨-, same⟩ := terminates _ nestedTables "latex" lowers () 100 (by decide)
  rw [high] at same
  exact ⟨high, ends, same⟩

/-! ## A filter that does not lower -/

namespace Answers

/-- Every paragraph is put into a division. -/
def wrapping : Answers where
  inline _ := .ok .keep
  block node :=
    match node with
    | .para content => .ok (.one (.div .empty [.para content]))
    | _ => .ok .keep

theorem wrapping_blocks {content : List Inline} {limit : Nat}
    (deep : wrapping.visitor.descendBlock limit (.div .empty [.para content]) =
      .error .tooDeep) :
    wrapping.visitor.blocks limit [.para content] = .error .tooDeep := by
  rw [Visitor.blocks, Visitor.splice]
  show ([Block.div .empty [.para content]].mapM (wrapping.visitor.descendBlock limit) >>=
    _) = (.error .tooDeep : Except Halt (List Block))
  rw [List.mapM_cons, deep]
  rfl

/-- The paragraph in the division is offered again, and so on down to any limit. -/
theorem wrapping_descendBlock (content : List Inline) (limit : Nat) :
    wrapping.visitor.descendBlock limit (.div .empty [.para content]) = .error .tooDeep := by
  induction limit with
  | zero => rfl
  | succ limit ih =>
      rw [Visitor.descendBlock, Block.traverse, ← Visitor.blocks, wrapping_blocks ih]
      rfl

end Answers

/-- A document with a paragraph is not walked to an end with any limit if paragraphs are put
into divisions. -/
theorem Document.filter_wrapping (content : List Inline) (format : String) (limit : Nat) :
    ((ofBlocks [.para content]).filter Answers.wrapping.filter format limit ()).result =
      .error .tooDeep := by
  have deep := Answers.wrapping_blocks (Answers.wrapping_descendBlock content limit)
  rw [(Answers.wrapping.filter_gives ⟨format, []⟩).result, Visitor.document, Document.traverse,
    ofBlocks, MetaValue.traverseEntries, pure_bind, deep]
  rfl

end DocFilter
