import DocFilter.Proofs.Walk.Passthrough

/-!
# The nesting of a walk

A walk with a higher limit asks the same questions as one with a lower limit, and goes on
where that one stops. If nothing is replaced by anything taller, no walk goes down
further than the document is high, so the limit makes no difference from there on.
-/

namespace DocFilter

namespace Dialogue

/-! ## Dialogues with a higher limit -/

/-- The second dialogue asks what the first asks, and goes on where the first stops at
its limit. If nodes never get taller, only answers are considered that are no taller
than the node, and then the first dialogue does not stop. -/
inductive Deepens (taller : Prop) {α β : Type} (results : α → β → Prop) :
    Dialogue α → Dialogue β → Prop where
  | done {a : α} {b : β} (related : results a b) : Deepens taller results (.done a) (.done b)
  | tooDeep (may : taller) (further : Dialogue β) : Deepens taller results .tooDeep further
  | inline (node : Inline) {next : List Inline → Dialogue α} {next' : List Inline → Dialogue β}
      (follow : ∀ nodes, taller ∨ Inline.tallest nodes ≤ node.height →
        Deepens taller results (next nodes) (next' nodes)) :
      Deepens taller results (.inline node next) (.inline node next')
  | block (node : Block) {next : List Block → Dialogue α} {next' : List Block → Dialogue β}
      (follow : ∀ nodes, taller ∨ Block.tallest nodes ≤ node.height →
        Deepens taller results (next nodes) (next' nodes)) :
      Deepens taller results (.block node next) (.block node next')

variable {taller : Prop}

theorem Deepens.bind {α β γ δ : Type} {results : α → β → Prop} {others : γ → δ → Prop}
    {x : Dialogue α} {y : Dialogue β} {f : α → Dialogue γ} {g : β → Dialogue δ}
    (deepens : Deepens taller results x y)
    (follow : ∀ a b, results a b → Deepens taller others (f a) (g b)) :
    Deepens taller others (x >>= f) (y >>= g) := by
  induction deepens with
  | done related => exact follow _ _ related
  | tooDeep may further => exact .tooDeep may _
  | inline node _ ih => exact .inline node ih
  | block node _ ih => exact .block node ih

/-- Going deeper is kept by sequencing. -/
def deepening (taller : Prop) : Relator Dialogue Dialogue where
  rel := Deepens taller
  pure := .done
  bind := Deepens.bind

/-! ## Walks with a higher limit -/

/-- Nodes that a walk may come to with so much of its limit left, the same in both walks. -/
def pending {α : Type} (taller : Prop) (height : α → Nat) : Visitor.Stages α where
  offered limit x y := x = y ∧ (taller ∨ height x ≤ limit)
  pending limit x y := x = y ∧ (taller ∨ height x ≤ limit)
  rebuilt _ x y := x = y

section

variable {limit more : Nat}

theorem inlines_pending {content : List Inline} (fits : taller ∨ Inline.tallest content ≤ limit) :
    List.Forall₂ ((pending taller Inline.height).offered limit) content content :=
  List.forall₂_same.mpr fun inline member =>
    ⟨rfl, fits.imp_right fun low => Inline.tallest_le_iff.mp low inline member⟩

theorem blocks_pending {content : List Block} (fits : taller ∨ Block.tallest content ≤ limit) :
    List.Forall₂ ((pending taller Block.height).offered limit) content content :=
  List.forall₂_same.mpr fun block member =>
    ⟨rfl, fits.imp_right fun low => Block.tallest_le_iff.mp low block member⟩

/-- Equal lists of nodes that a walk may come to with so much of its limit left. -/
abbrev PendingInlines (taller : Prop) (limit : Nat) : List Inline → List Inline → Prop :=
  List.Forall₂ ((pending taller Inline.height).offered limit)

abbrev PendingBlocks (taller : Prop) (limit : Nat) : List Block → List Block → Prop :=
  List.Forall₂ ((pending taller Block.height).offered limit)

theorem alike_inline {x : Inline} (fits : taller ∨ x.height ≤ limit + 1) :
    x.Alike (PendingInlines taller limit) (PendingBlocks taller limit) x := by
  rcases fits with may | fits
  · exact x.alike_refl (fun _ => inlines_pending (.inl may)) fun _ => blocks_pending (.inl may)
  · exact x.alike_self (fun _ low => inlines_pending (.inr low))
      (fun _ low => blocks_pending (.inr low)) fits

theorem alike_block {x : Block} (fits : taller ∨ x.height ≤ limit + 1) :
    x.Alike (PendingInlines taller limit) (PendingBlocks taller limit) x := by
  rcases fits with may | fits
  · exact x.alike_refl (fun _ => inlines_pending (.inl may)) fun _ => blocks_pending (.inl may)
  · exact x.alike_self (fun _ low => inlines_pending (.inr low))
      (fun _ low => blocks_pending (.inr low)) fits

theorem alike_document {x : Document} (fits : taller ∨ x.height ≤ limit) :
    x.Alike (PendingInlines taller limit) (PendingBlocks taller limit) x := by
  rcases fits with may | fits
  · exact x.alike_refl (fun _ => inlines_pending (.inl may)) fun _ => blocks_pending (.inl may)
  · exact x.alike_self (fun _ low => inlines_pending (.inr low))
      (fun _ low => blocks_pending (.inr low)) fits

theorem visitInline_deepens {x y : Inline}
    (same : (pending taller Inline.height).offered limit x y) :
    Deepens taller (List.Forall₂ ((pending taller Inline.height).pending limit))
      (visitor.inline x) (visitor.inline y) := by
  obtain ⟨rfl, fits⟩ := same
  refine .inline x fun nodes low => .done (inlines_pending ?_)
  rcases fits with may | fits
  · exact .inl may
  · exact low.imp_right fun low => Nat.le_trans low fits

theorem visitBlock_deepens {x y : Block}
    (same : (pending taller Block.height).offered limit x y) :
    Deepens taller (List.Forall₂ ((pending taller Block.height).pending limit))
      (visitor.block x) (visitor.block y) := by
  obtain ⟨rfl, fits⟩ := same
  refine .block x fun nodes low => .done (blocks_pending ?_)
  rcases fits with may | fits
  · exact .inl may
  · exact low.imp_right fun low => Nat.le_trans low fits

theorem inlines_deepens
    (descends : ∀ x y, (pending taller Inline.height).pending limit x y →
      Deepens taller Eq (visitor.descendInline limit x) (visitor.descendInline more y))
    (xs ys : List Inline) (each : PendingInlines taller limit xs ys) :
    (deepening taller).rel (List.Forall₂ Eq) (visitor.inlines limit xs)
      (visitor.inlines more ys) :=
  Visitor.splice_rel (fun _ _ => visitInline_deepens) descends each

theorem blocks_deepens
    (descends : ∀ x y, (pending taller Block.height).pending limit x y →
      Deepens taller Eq (visitor.descendBlock limit x) (visitor.descendBlock more y))
    (xs ys : List Block) (each : PendingBlocks taller limit xs ys) :
    (deepening taller).rel (List.Forall₂ Eq) (visitor.blocks limit xs)
      (visitor.blocks more ys) :=
  Visitor.splice_rel (fun _ _ => visitBlock_deepens) descends each

/-- A walk of a node with a higher limit goes deeper. -/
theorem descend_deepens (taller : Prop) (above : limit ≤ more) :
    (∀ x y, (pending taller Inline.height).pending limit x y →
      Deepens taller Eq (visitor.descendInline limit x) (visitor.descendInline more y)) ∧
    ∀ x y, (pending taller Block.height).pending limit x y →
      Deepens taller Eq (visitor.descendBlock limit x) (visitor.descendBlock more y) := by
  induction limit generalizing more with
  | zero =>
      -- No node has height zero, so the walk stops here only if nodes may get taller.
      constructor
      · rintro x _ ⟨rfl, fits⟩
        exact .tooDeep (fits.resolve_right (Nat.not_le.mpr x.height_pos)) _
      · rintro x _ ⟨rfl, fits⟩
        exact .tooDeep (fits.resolve_right (Nat.not_le.mpr x.height_pos)) _
  | succ limit ih =>
      obtain ⟨more, rfl⟩ := Nat.exists_eq_add_of_le' above
      obtain ⟨descendInline, descendBlock⟩ := ih (Nat.le_add_left limit more)
      have inlines := inlines_deepens descendInline
      have blocks := blocks_deepens descendBlock
      constructor
      · rintro x _ ⟨rfl, fits⟩
        have related := (deepening taller).traverseInline inlines blocks (alike_inline fits)
        exact (deepening taller).mono related
          fun _ _ alike => alike.eq eq_of_forall₂_eq eq_of_forall₂_eq
      · rintro x _ ⟨rfl, fits⟩
        have related := (deepening taller).traverseBlock inlines blocks (alike_block fits)
        exact (deepening taller).mono related
          fun _ _ alike => alike.eq eq_of_forall₂_eq eq_of_forall₂_eq

theorem document_deepens (taller : Prop) (source : Document) (above : limit ≤ more)
    (fits : taller ∨ source.height ≤ limit) :
    Deepens taller Eq (visitor.document limit source) (visitor.document more source) := by
  obtain ⟨descendInline, descendBlock⟩ := descend_deepens taller above
  have related := (deepening taller).traverseDocument (inlines_deepens descendInline)
    (blocks_deepens descendBlock) (alike_document fits)
  exact (deepening taller).mono related fun _ _ alike => alike.eq eq_of_forall₂_eq eq_of_forall₂_eq

end

end Dialogue

/-! ## Filters -/

/-- Nothing that a filter puts into the place of a node is taller than the node. -/
structure NodeFilter.Lowers {σ : Type} (filter : NodeFilter σ) (context : Context) : Prop where
  inline (node : Inline) (state : σ) {action : Action Inline} :
    (filter.inline context node state).report.outcome = .ok action →
      ∀ others, action.replacements? = some others →
        ∀ other ∈ others, other.height ≤ node.height
  block (node : Block) (state : σ) {action : Action Block} :
    (filter.block context node state).report.outcome = .ok action →
      ∀ others, action.replacements? = some others →
        ∀ other ∈ others, other.height ≤ node.height

theorem Action.forall_mem_after {α : Type} {height : α → Nat} {action : Action α} {node : α}
    (lowers : ∀ others, action.replacements? = some others →
      ∀ other ∈ others, height other ≤ height node) :
    ∀ other ∈ action.after node, height other ≤ height node := by
  cases action with
  | keep => exact List.forall_mem_singleton.mpr (Nat.le_refl (height node))
  | one replacement => exact lowers _ rfl
  | many replacements => exact lowers _ rfl

theorem Reply.nodes_ne_tooDeep {σ α : Type} (reply : Reply σ α) (node : α) :
    reply.nodes node ≠ .error .tooDeep := by
  intro stopped
  obtain ⟨error, -, same⟩ := Reply.exists_of_nodes_error stopped
  cases same

namespace NodeFilter.Lowers

variable {σ : Type} {filter : NodeFilter σ} {context : Context} {state : σ}

theorem tallest_inline (lowers : filter.Lowers context) {node : Inline} {nodes : List Inline}
    (answered : (filter.inline context node state).nodes node = .ok nodes) :
    Inline.tallest nodes ≤ node.height := by
  obtain ⟨action, outcome, rfl⟩ := Reply.exists_of_nodes answered
  exact Inline.tallest_le_iff.mpr (Action.forall_mem_after (lowers.inline node state outcome))

theorem tallest_block (lowers : filter.Lowers context) {node : Block} {nodes : List Block}
    (answered : (filter.block context node state).nodes node = .ok nodes) :
    Block.tallest nodes ≤ node.height := by
  obtain ⟨action, outcome, rfl⟩ := Reply.exists_of_nodes answered
  exact Block.tallest_le_iff.mpr (Action.forall_mem_after (lowers.block node state outcome))

end NodeFilter.Lowers

/-- What comes of a dialogue that does not stop at its limit comes of every deeper one;
and if a filter never answers with anything taller, none stops. -/
theorem Dialogue.Deepens.converse {taller : Prop} {σ α : Type} {filter : NodeFilter σ}
    {context : Context} {x y : Dialogue α} (progress : Progress σ)
    (deepens : Deepens taller Eq x y) (lowers : taller ∨ filter.Lowers context)
    (ends : taller → (Walk.converse filter context x progress).1 ≠ .error .tooDeep) :
    (Walk.converse filter context x progress).1 ≠ .error .tooDeep ∧
      Walk.converse filter context y progress = Walk.converse filter context x progress := by
  induction deepens generalizing progress with
  | done same =>
      cases same
      exact ⟨nofun, rfl⟩
  | tooDeep may further => exact absurd rfl (ends may)
  | inline node follow ih =>
      cases answered : (filter.inline context node progress.state).nodes node with
      | error halt =>
          rw [Walk.converse_inline_halt filter context answered,
            Walk.converse_inline_halt filter context answered]
          refine ⟨fun stopped => ?_, rfl⟩
          cases stopped
          exact Reply.nodes_ne_tooDeep _ _ answered
      | ok nodes =>
          rw [Walk.converse_inline filter context answered] at ends ⊢
          rw [Walk.converse_inline filter context answered]
          exact ih nodes (lowers.imp_right fun lowers => lowers.tallest_inline answered) _ ends
  | block node follow ih =>
      cases answered : (filter.block context node progress.state).nodes node with
      | error halt =>
          rw [Walk.converse_block_halt filter context answered,
            Walk.converse_block_halt filter context answered]
          refine ⟨fun stopped => ?_, rfl⟩
          cases stopped
          exact Reply.nodes_ne_tooDeep _ _ answered
      | ok nodes =>
          rw [Walk.converse_block filter context answered] at ends ⊢
          rw [Walk.converse_block filter context answered]
          exact ih nodes (lowers.imp_right fun lowers => lowers.tallest_block answered) _ ends

namespace Document

variable {σ : Type} {source : Document} {filter : NodeFilter σ} {format : String}
  {limit more : Nat} {state : σ}

/-- What comes of filtering a document depends on nothing but its dialogue with the filter. -/
theorem filter_congr
    (same : Walk.converse filter ⟨format, source.metadata⟩
        (Dialogue.visitor.document more source) ⟨state, {}, #[]⟩ =
      Walk.converse filter ⟨format, source.metadata⟩
        (Dialogue.visitor.document limit source) ⟨state, {}, #[]⟩) :
    source.filter filter format more state = source.filter filter format limit state := by
  rw [Document.filter, Document.filter, Walk.document_eq, Walk.document_eq, Walk.run_bind,
    Walk.run_bind, Dialogue.document_run (Walk.visitor_stops _ _),
    Dialogue.document_run (Walk.visitor_stops _ _), ← Walk.converse, ← Walk.converse, same]

/-- A filter that never answers with anything taller is not stopped by a limit of at least
the height of the document, and what comes of the walk does not depend on the limit. -/
theorem filter_of_lowers (lowers : filter.Lowers ⟨format, source.metadata⟩)
    (fits : source.height ≤ limit) :
    (source.filter filter format limit state).result ≠ .error .tooDeep ∧
      source.filter filter format limit state =
        source.filter filter format source.height state := by
  have deepens := Dialogue.document_deepens False source fits (.inr (Nat.le_refl _))
  obtain ⟨ends, same⟩ := deepens.converse ⟨state, {}, #[]⟩ (.inr lowers) nofun
  refine ⟨?_, filter_congr same⟩
  rw [filter_congr same, filter_result]
  exact ends

end Document

end DocFilter
