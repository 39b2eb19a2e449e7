import DocFilter.Proofs.Walk.Reading

/-!
# What a walk counts

A walk counts what it offers to the filter, whether it comes to an end or not. A filter
that keeps what it is offered, or that leaves the reading order alone, is offered all
nodes of the document in reading order.
-/

namespace DocFilter

/-! ## Offers -/

namespace Answers

/-- A node and the answer about it. -/
def offer (answers : Answers) : Node → Offer
  | .inline node => ⟨.inline node, .ofOutcome (answers.inline node)⟩
  | .block node => ⟨.block node, .ofOutcome (answers.block node)⟩

def Keeps (answers : Answers) : Node → Prop
  | .inline node => answers.inline node = .ok .keep
  | .block node => answers.block node = .ok .keep

theorem Keeps.offer_answer {answers : Answers} {node : Node} (keeps : answers.Keeps node) :
    (answers.offer node).answer = .keep := by
  cases node with
  | inline node => exact congrArg Answer.ofOutcome keeps
  | block node => exact congrArg Answer.ofOutcome keeps

end Answers

namespace Dialogue.Asks

variable {σ α : Type} {filter : NodeFilter σ} {context : Context} {answers : Answers}
  {dialogue : Dialogue α} {nodes : List Node}

/-- A dialogue in which all nodes are kept asks the same with the answers that keep them. -/
theorem of_keep (asks : dialogue.Asks .keep nodes) (kept : ∀ node ∈ nodes, answers.Keeps node) :
    dialogue.Asks answers nodes := by
  induction asks with
  | done value => exact .done value
  | @inline node next nodes rest answered following ih =>
      obtain ⟨first, others⟩ := List.forall_mem_cons.mp kept
      refine .inline ?_ (ih others)
      exact (congrArg (Answers.nodes node) first).trans answered
  | @block node next nodes rest answered following ih =>
      obtain ⟨first, others⟩ := List.forall_mem_cons.mp kept
      refine .block ?_ (ih others)
      exact (congrArg (Answers.nodes node) first).trans answered

/-- A filter that keeps every node it is offered is offered what the dialogue asks about. -/
theorem map_node_offersOf (asks : dialogue.Asks .keep nodes) {progress : Progress σ}
    (kept : ∀ offer ∈ Walk.offersOf filter context dialogue progress, offer.answer = .keep) :
    (Walk.offersOf filter context dialogue progress).map Offer.node = nodes := by
  induction asks generalizing progress with
  | done value => rfl
  | @inline node next nodes rest answered following ih =>
      cases answered
      rw [Walk.offersOf] at kept ⊢
      obtain ⟨first, others⟩ := List.forall_mem_cons.mp kept
      obtain ⟨stays, -⟩ := Reply.of_keep node first
      rw [stays] at others ⊢
      exact congrArg (Node.inline node :: ·) (ih others)
  | @block node next nodes rest answered following ih =>
      cases answered
      rw [Walk.offersOf] at kept ⊢
      obtain ⟨first, others⟩ := List.forall_mem_cons.mp kept
      obtain ⟨stays, -⟩ := Reply.of_keep node first
      rw [stays] at others ⊢
      exact congrArg (Node.block node :: ·) (ih others)

/-- A filter that gives answers is offered what the dialogue asks about. -/
theorem offersOf_eq (asks : dialogue.Asks answers nodes) (gives : filter.Gives context answers)
    (progress : Progress σ) :
    Walk.offersOf filter context dialogue progress = nodes.map answers.offer := by
  induction asks generalizing progress with
  | done value => rfl
  | @inline node next nodes rest answered following ih =>
      have replied := NodeFilter.Gives.nodes_eq (gives.inline node progress.state) node
      rw [Walk.offersOf, replied.trans answered, Walk.offerOfInline, gives.inline]
      exact congrArg (answers.offer (.inline node) :: ·) (ih _)
  | @block node next nodes rest answered following ih =>
      have replied := NodeFilter.Gives.nodes_eq (gives.block node progress.state) node
      rw [Walk.offersOf, replied.trans answered, Walk.offerOfBlock, gives.block]
      exact congrArg (answers.offer (.block node) :: ·) (ih _)

end Dialogue.Asks

/-! ## Counting -/

/-- The answer put something in the place of the node. -/
def Answer.isReplacement : Answer → Bool
  | .one => true
  | .many _ => true
  | .keep => false
  | .error => false

/-- What is counted after these offers. -/
def WalkStats.after (stats : WalkStats) (offers : List Offer) : WalkStats where
  blocks := stats.blocks + offers.countP fun offer => offer.node.isBlock
  inlines := stats.inlines + offers.countP fun offer => offer.node.isInline
  replaced := stats.replaced + offers.countP fun offer => offer.answer.isReplacement

theorem WalkStats.after_cons (stats : WalkStats) (offer : Offer) (rest : List Offer) :
    stats.after (offer :: rest) = (stats.after [offer]).after rest := by
  simp only [after, List.countP_cons, List.countP_nil]
  congr 1 <;> omega

theorem Reply.replaced_eq {σ α : Type} (reply : Reply σ α) :
    reply.replaced = if (Answer.ofOutcome reply.report.outcome).isReplacement then 1 else 0 := by
  rw [replaced]
  cases reply.report.outcome with
  | error error => rfl
  | ok action => cases action <;> rfl

namespace Walk

variable {σ α : Type} {filter : NodeFilter σ} {context : Context}

theorem afterInline_stats (node : Inline) (progress : Progress σ) :
    (progress.afterInline (filter.inline context node progress.state)).stats =
      progress.stats.after [offerOfInline filter context node progress.state] := by
  rw [Progress.afterInline, Reply.replaced_eq]
  simp only [WalkStats.after, List.countP_cons, List.countP_nil, offerOfInline,
    Node.isBlock, Node.isInline, Nat.zero_add]
  rfl

theorem afterBlock_stats (node : Block) (progress : Progress σ) :
    (progress.afterBlock (filter.block context node progress.state)).stats =
      progress.stats.after [offerOfBlock filter context node progress.state] := by
  rw [Progress.afterBlock, Reply.replaced_eq]
  simp only [WalkStats.after, List.countP_cons, List.countP_nil, offerOfBlock,
    Node.isBlock, Node.isInline, Nat.zero_add]
  rfl

/-- What is counted on a dialogue is what was offered on it, whether it fails or not. -/
theorem converse_stats (dialogue : Dialogue α) (progress : Progress σ) :
    (converse filter context dialogue progress).2.stats =
      progress.stats.after (offersOf filter context dialogue progress) := by
  induction dialogue generalizing progress with
  | done value => rfl
  | tooDeep => rfl
  | inline node next ih =>
      cases answered : (filter.inline context node progress.state).nodes node with
      | error halt =>
          rw [converse_inline_halt filter context answered, offersOf, answered, afterInline_stats]
      | ok nodes =>
          rw [converse_inline filter context answered, offersOf, answered, ih,
            WalkStats.after_cons, afterInline_stats]
  | block node next ih =>
      cases answered : (filter.block context node progress.state).nodes node with
      | error halt =>
          rw [converse_block_halt filter context answered, offersOf, answered, afterBlock_stats]
      | ok nodes =>
          rw [converse_block filter context answered, offersOf, answered, ih,
            WalkStats.after_cons, afterBlock_stats]

end Walk

/-! ## Documents -/

namespace Document

variable {σ : Type} {source : Document} {filter : NodeFilter σ} {format : String} {limit : Nat}
  {state : σ}

/-- What is counted on a walk is what was offered on it. -/
theorem walkStats_eq_after (source : Document) (filter : NodeFilter σ) (format : String)
    (limit : Nat) (state : σ) :
    source.walkStats filter format limit state =
      WalkStats.after {} (source.offers filter format limit state) := by
  rw [walkStats_eq, offers_eq, Walk.converse_stats]

/-- A filter that keeps every node it is offered is offered all nodes in reading order. -/
theorem map_node_offers (fits : source.height ≤ limit)
    (kept : ∀ offer ∈ source.offers filter format limit state, offer.answer = .keep) :
    (source.offers filter format limit state).map Offer.node = source.nodes := by
  rw [offers_eq] at kept ⊢
  exact (Answers.keep_steady.asks_document fits).map_node_offersOf kept

/-- A filter whose answers leave the reading order alone is offered all nodes in it. -/
theorem offers_of_steady {answers : Answers} (steady : answers.Steady)
    (fits : source.height ≤ limit) (gives : filter.Gives ⟨format, source.metadata⟩ answers) :
    source.offers filter format limit state = source.nodes.map answers.offer := by
  rw [offers_eq]
  exact (steady.asks_document fits).offersOf_eq gives _

/-- A document all of whose nodes are kept by a filter is not changed by it. -/
theorem filter_of_keeps {answers : Answers} (fits : source.height ≤ limit)
    (gives : filter.Gives ⟨format, source.metadata⟩ answers)
    (keeps : ∀ node ∈ source.nodes, answers.Keeps node) :
    (source.filter filter format limit state).result = .ok source ∧
      (source.walkStats filter format limit state).replaced = 0 := by
  have asks := (Answers.keep_steady.asks_document fits).of_keep keeps
  apply filter_of_kept fits
  rw [offers_eq, asks.offersOf_eq gives]
  intro offer member
  obtain ⟨node, listed, rfl⟩ := List.mem_map.mp member
  exact (keeps node listed).offer_answer

end Document

end DocFilter
