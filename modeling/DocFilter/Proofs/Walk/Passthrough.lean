import DocFilter.Proofs.Walk.Offers
import DocFilter.Rendering

/-!
# Walks that change nothing

A walk in which every node is kept takes every node apart and puts it together
again. It ends with the document it began with, if the document is not higher
than the limit. Chains of renderings keep every node for any format that is not
the target of one of them.
-/

namespace DocFilter

/-! ## The walk that keeps every node -/

theorem Inline.height_pos (inline : Inline) : 0 < inline.height := by
  cases inline <;> exact Nat.succ_pos _

theorem Block.height_pos (block : Block) : 0 < block.height := by
  cases block <;> exact Nat.succ_pos _

/-- Lists that are low enough, each related to itself. -/
def Low {α : Type} (tallest : List α → Nat) (bound : Nat) (xs ys : List α) : Prop :=
  xs = ys ∧ tallest xs ≤ bound

section

variable {ε : Type} {bound : Nat} {f : List Inline → Except ε (List Inline)}
  {h : List Block → Except ε (List Block)}
  (lowInlines : ∀ content, Inline.tallest content ≤ bound → f content = .ok content)
  (lowBlocks : ∀ content, Block.tallest content ≤ bound → h content = .ok content)

include lowInlines in
theorem agree_inlines (xs ys : List Inline) (low : Low Inline.tallest bound xs ys) :
    Agree Eq Eq (f xs) (pure ys : Except ε (List Inline)) := by
  obtain ⟨rfl, fits⟩ := low
  rw [lowInlines xs fits]
  exact .ok rfl

include lowBlocks in
theorem agree_blocks (xs ys : List Block) (low : Low Block.tallest bound xs ys) :
    Agree Eq Eq (h xs) (pure ys : Except ε (List Block)) := by
  obtain ⟨rfl, fits⟩ := low
  rw [lowBlocks xs fits]
  exact .ok rfl

include lowInlines lowBlocks

theorem Inline.traverse_eq_ok (inline : Inline) (fits : inline.height ≤ bound + 1) :
    inline.traverse f h = .ok inline := by
  have alike : inline.Alike (Low Inline.tallest bound) (Low Block.tallest bound) inline :=
    inline.alike_self (fun _ low => ⟨rfl, low⟩) (fun _ low => ⟨rfl, low⟩) fits
  have related := (Relator.agree Eq).traverseInline (agree_inlines lowInlines)
    (agree_blocks lowBlocks) alike
  rw [Inline.traverse_pure] at related
  exact ((Relator.agree Eq).mono related fun _ _ alike =>
    alike.eq (fun _ _ => id) (fun _ _ => id)).eq

theorem Block.traverse_eq_ok (block : Block) (fits : block.height ≤ bound + 1) :
    block.traverse f h = .ok block := by
  have alike : block.Alike (Low Inline.tallest bound) (Low Block.tallest bound) block :=
    block.alike_self (fun _ low => ⟨rfl, low⟩) (fun _ low => ⟨rfl, low⟩) fits
  have related := (Relator.agree Eq).traverseBlock (agree_inlines lowInlines)
    (agree_blocks lowBlocks) alike
  rw [Block.traverse_pure] at related
  exact ((Relator.agree Eq).mono related fun _ _ alike =>
    alike.eq (fun _ _ => id) (fun _ _ => id)).eq

theorem Document.traverse_eq_ok (document : Document) (fits : document.height ≤ bound) :
    document.traverse f h = .ok document := by
  have alike : document.Alike (Low Inline.tallest bound) (Low Block.tallest bound) document :=
    document.alike_self (fun _ low => ⟨rfl, low⟩) (fun _ low => ⟨rfl, low⟩) fits
  have related := (Relator.agree Eq).traverseDocument (agree_inlines lowInlines)
    (agree_blocks lowBlocks) alike
  rw [Document.traverse_pure] at related
  exact ((Relator.agree Eq).mono related fun _ _ alike =>
    alike.eq (fun _ _ => id) (fun _ _ => id)).eq

end

theorem Visitor.splice_eq_pure {m : Type → Type} [Monad m] [LawfulMonad m] {α : Type}
    {visit : α → m (List α)} {descend : α → m α} {nodes : List α}
    (kept : ∀ node, visit node = pure [node])
    (same : ∀ node ∈ nodes, descend node = pure node) :
    splice visit descend nodes = pure nodes := by
  induction nodes with
  | nil => rfl
  | cons node rest ih =>
      have first := same node List.mem_cons_self
      have others := ih fun other later => same other (List.mem_cons_of_mem _ later)
      rw [splice, kept, pure_bind, List.mapM_cons, List.mapM_nil, first, others, pure_bind,
        pure_bind, pure_bind, pure_bind]
      rfl

namespace Answers

theorem keep_inlines {limit : Nat}
    (same : ∀ inline : Inline, inline.height ≤ limit →
      keep.visitor.descendInline limit inline = .ok inline)
    (content : List Inline) (fits : Inline.tallest content ≤ limit) :
    keep.visitor.inlines limit content = .ok content :=
  Visitor.splice_eq_pure (fun _ => rfl) fun inline member =>
    same inline (Inline.tallest_le_iff.mp fits inline member)

theorem keep_blocks {limit : Nat}
    (same : ∀ block : Block, block.height ≤ limit →
      keep.visitor.descendBlock limit block = .ok block)
    (content : List Block) (fits : Block.tallest content ≤ limit) :
    keep.visitor.blocks limit content = .ok content :=
  Visitor.splice_eq_pure (fun _ => rfl) fun block member =>
    same block (Block.tallest_le_iff.mp fits block member)

/-- Nodes that are not too high are kept as they are. -/
theorem keep_descend (limit : Nat) :
    (∀ inline : Inline, inline.height ≤ limit →
      keep.visitor.descendInline limit inline = .ok inline) ∧
    ∀ block : Block, block.height ≤ limit →
      keep.visitor.descendBlock limit block = .ok block := by
  induction limit with
  | zero =>
      constructor
      · intro inline fits
        exact absurd inline.height_pos (Nat.not_lt.mpr fits)
      · intro block fits
        exact absurd block.height_pos (Nat.not_lt.mpr fits)
  | succ limit ih =>
      obtain ⟨sameInline, sameBlock⟩ := ih
      constructor
      · intro inline fits
        exact inline.traverse_eq_ok (keep_inlines sameInline) (keep_blocks sameBlock) fits
      · intro block fits
        exact block.traverse_eq_ok (keep_inlines sameInline) (keep_blocks sameBlock) fits

theorem keep_document {source : Document} {limit : Nat} (fits : source.height ≤ limit) :
    keep.visitor.document limit source = .ok source := by
  obtain ⟨sameInline, sameBlock⟩ := keep_descend limit
  exact source.traverse_eq_ok (keep_inlines sameInline) (keep_blocks sameBlock) fits

end Answers

/-! ## Filters that keep every node -/

namespace Document

variable {σ : Type} {source : Document} {filter : NodeFilter σ} {format : String} {limit : Nat}
  {state : σ}

/-- A filter that keeps every node it is offered changes nothing. -/
theorem filter_of_kept (fits : source.height ≤ limit)
    (kept : ∀ offer ∈ source.offers filter format limit state, offer.answer = .keep) :
    (source.filter filter format limit state).result = .ok source ∧
      (source.walkStats filter format limit state).replaced = 0 := by
  rw [offers_eq] at kept
  obtain ⟨result, replaced⟩ := Walk.converse_of_kept kept
  have walked := Dialogue.document_run Answers.keep.visitor_stops limit source
  rw [filter_result, walkStats_eq, result, replaced, ← walked, Answers.keep_document fits]
  exact ⟨rfl, rfl⟩

end Document

/-! ## Chains of renderings -/

section

variable {σ : Type} {context : Context}

theorem NodeFilter.identity_gives : (NodeFilter.identity (σ := σ)).Gives context Answers.keep where
  inline _ _ := rfl
  block _ _ := rfl

/-- A rendering keeps every node for a format that is not its target. -/
theorem Rendering.gives_keep {rendering : Rendering}
    (other : rendering.targetFormat ≠ context.format) :
    (rendering.filter (σ := σ)).Gives context Answers.keep := by
  cases rendering with
  | listings renderer =>
      have differs : (context.format != renderer.options.targetFormat) = true :=
        bne_iff_ne.mpr other.symm
      constructor
      · intro node state
        show (renderer.onInline context node).outcome = _
        rw [Listing.Renderer.onInline, if_pos differs]
        rfl
      · intro node state
        show (renderer.onBlock context node).outcome = _
        rw [Listing.Renderer.onBlock, if_pos differs]
        rfl
  | tables options =>
      have differs : (context.format != options.targetFormat) = true :=
        bne_iff_ne.mpr other.symm
      constructor
      · intro node state
        rfl
      · intro node state
        show (options.onBlock context node).outcome = _
        unfold Tabular.Options.onBlock
        rw [if_pos differs]
        rfl

namespace Chain

mutual

/-- A chain keeps every node for a format that is no target of its members. -/
theorem gives_keep : ∀ chain : Chain Rendering,
    (∀ rendering ∈ chain.leaves, rendering.targetFormat ≠ context.format) →
      (chain.rendering (σ := σ)).Gives context Answers.keep
  | .leaf rendering, others => Rendering.gives_keep (others rendering List.mem_cons_self)
  | .identity, _ => NodeFilter.identity_gives
  | .composite members, others => Chain.gives_keep_all members others

theorem gives_keep_all : ∀ members : List (Chain Rendering),
    (∀ rendering ∈ leavesOf members, rendering.targetFormat ≠ context.format) →
      (toFilters (σ := σ) Rendering.filter members).Gives context Answers.keep
  | [], _ => NodeFilter.identity_gives
  | member :: rest, others => by
      have first := Chain.gives_keep member fun rendering listed =>
        others rendering (List.mem_append_left _ listed)
      have following := Chain.gives_keep_all rest fun rendering listed =>
        others rendering (List.mem_append_right _ listed)
      exact first.orElse following

end

end Chain

end

/-- A filter that keeps every node it is offered leaves a document as it is and replaces
nothing; and so does every chain of renderings none of which has the format as its
target, whatever its templates and whatever the tables in the document. -/
theorem Document.filter_passthrough {source : Document} {limit : Nat} (format : String)
    (fits : source.height ≤ limit) :
    (∀ {σ : Type} (filter : NodeFilter σ) (state : σ),
      (∀ offer ∈ source.offers filter format limit state, offer.answer = .keep) →
        (source.filter filter format limit state).result = .ok source ∧
          (source.walkStats filter format limit state).replaced = 0) ∧
    ∀ {σ : Type} (chain : Chain Rendering) (state : σ),
      (∀ rendering ∈ chain.leaves, rendering.targetFormat ≠ format) →
        (∀ offer ∈ source.offers chain.rendering format limit state, offer.answer = .keep) ∧
          (source.filter chain.rendering format limit state).result = .ok source ∧
          (source.walkStats chain.rendering format limit state).replaced = 0 := by
  constructor
  · intro σ filter state kept
    exact filter_of_kept fits kept
  · intro σ chain state others
    have gives : (chain.rendering (σ := σ)).Gives ⟨format, source.metadata⟩ Answers.keep :=
      chain.gives_keep others
    have kept := kept_of_gives limit state gives
    exact ⟨kept, filter_of_kept fits kept⟩

/-- A captioned table with a cell that cannot be rendered, and code. -/
def Document.unrenderable : Document :=
  .ofBlocks
    [.table ⟨.empty, ⟨none, [.plain [.code .empty "x"]]⟩, [], ⟨.empty, []⟩,
      [⟨.empty, 0, [], [⟨.empty, [⟨.empty, .default, 1, 1, [.horizontalRule]⟩]⟩]⟩],
      ⟨.empty, []⟩⟩,
    .code .empty "y"]

/-- The document passes through a filter that counts what it keeps, and through a chain
for another format, one of whose templates is malformed. -/
theorem Document.filter_passthrough_unrenderable :
    (unrenderable.filter
        ⟨fun _ _ count => ⟨.pure .keep, count + 1⟩, fun _ _ count => ⟨.pure .keep, count + 1⟩⟩
        "latex" 3 0).result = .ok unrenderable ∧
      (unrenderable.filter
        (Chain.composite [.leaf (.tables {}), .composite [.identity,
          .leaf (.listings ⟨{ blockTemplate := "$" }⟩)]]).rendering
        "html" 3 ()).result = .ok unrenderable := by
  have fits : unrenderable.height ≤ 3 := by decide
  constructor
  · exact ((filter_passthrough "latex" fits).1 _ 0 (by decide)).1
  · refine ((filter_passthrough "html" fits).2 _ () ?_).2.1
    decide

end DocFilter
