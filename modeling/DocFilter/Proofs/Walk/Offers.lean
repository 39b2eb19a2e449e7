import DocFilter.Proofs.Walk.Record

/-!
# What a filter is offered

Whoever watches a filter sees each node that a walk offers to it, with the answer.
The walk does not notice that its filter is watched, and a walk all of whose nodes
are seen to be kept is the one that keeps every node.
-/

namespace DocFilter

/-- An answer that keeps a node was no error and put nothing in its place. -/
theorem Answer.keep_of_ofOutcome {α : Type} {outcome : Except Error (Action α)}
    (kept : Answer.ofOutcome outcome = .keep) : outcome = .ok .keep := by
  cases outcome with
  | error error => cases kept
  | ok action =>
      cases action with
      | keep => rfl
      | one replacement => cases kept
      | many replacements => cases kept

theorem Reply.of_keep {σ α : Type} {reply : Reply σ α} (node : α)
    (kept : Answer.ofOutcome reply.report.outcome = .keep) :
    reply.nodes node = .ok [node] ∧ reply.replaced = 0 := by
  have outcome := Answer.keep_of_ofOutcome kept
  rw [Reply.nodes, Reply.replaced, outcome]
  exact ⟨rfl, rfl⟩

/-- How far a walk has come that is watched, with what was seen so far. -/
def Progress.watched {σ : Type} (progress : Progress σ) (seen : List Offer) :
    Progress (σ × Array Offer) :=
  ⟨(progress.state, seen.toArray), progress.stats, progress.notices⟩

namespace Walk

section

variable {σ α : Type} (filter : NodeFilter σ) (context : Context)

/-- An inline and what a filter answers about it. -/
def offerOfInline (node : Inline) (state : σ) : Offer :=
  ⟨.inline node, .ofOutcome (filter.inline context node state).report.outcome⟩

def offerOfBlock (node : Block) (state : σ) : Offer :=
  ⟨.block node, .ofOutcome (filter.block context node state).report.outcome⟩

/-- The nodes that a filter is offered in a dialogue, with its answers. -/
def offersOf : Dialogue α → Progress σ → List Offer
  | .done _, _ => []
  | .tooDeep, _ => []
  | .inline node next, progress =>
      let reply := filter.inline context node progress.state
      offerOfInline filter context node progress.state ::
        match reply.nodes node with
        | .ok nodes => offersOf (next nodes) (progress.afterInline reply)
        | .error _ => []
  | .block node next, progress =>
      let reply := filter.block context node progress.state
      offerOfBlock filter context node progress.state ::
        match reply.nodes node with
        | .ok nodes => offersOf (next nodes) (progress.afterBlock reply)
        | .error _ => []

/-- A trace shows what was recorded, with less said about the answers. -/
theorem offersOf_eq_map (dialogue : Dialogue α) (progress : Progress σ) :
    offersOf filter context dialogue progress =
      (enquiries filter context dialogue progress).map Enquiry.offer := by
  induction dialogue generalizing progress with
  | done value => rfl
  | tooDeep => rfl
  | inline node next ih =>
      rw [offersOf, enquiries, List.map_cons, Enquiry.offer_ofInline]
      refine congrArg (offerOfInline filter context node progress.state :: ·) ?_
      cases (filter.inline context node progress.state).nodes node with
      | error halt => rfl
      | ok nodes => exact ih nodes _
  | block node next ih =>
      rw [offersOf, enquiries, List.map_cons, Enquiry.offer_ofBlock]
      refine congrArg (offerOfBlock filter context node progress.state :: ·) ?_
      cases (filter.block context node progress.state).nodes node with
      | error halt => rfl
      | ok nodes => exact ih nodes _

/-- To watch a filter is to note what a trace shows. -/
theorem traced_eq_noting :
    filter.traced = filter.noting fun seen enquiry => seen.push enquiry.offer := by
  simp only [NodeFilter.traced, NodeFilter.noting, Enquiry.offer_ofInline, Enquiry.offer_ofBlock]

/-- A walk does not notice that its filter is watched. -/
theorem converse_traced (dialogue : Dialogue α) (progress : Progress σ) (seen : List Offer) :
    converse filter.traced context dialogue (progress.watched seen) =
      ((converse filter context dialogue progress).1,
        (converse filter context dialogue progress).2.watched
          (seen ++ offersOf filter context dialogue progress)) := by
  have foldl_push (asked : List Enquiry) :
      asked.foldl (fun seen enquiry => seen.push enquiry.offer) seen.toArray =
        (seen ++ asked.map Enquiry.offer).toArray := by
    induction asked generalizing seen with
    | nil => simp
    | cons first rest ih => simp [ih]
  have noted := converse_noting filter context (fun seen enquiry => seen.push enquiry.offer)
    dialogue progress seen.toArray
  rw [foldl_push, ← offersOf_eq_map, ← traced_eq_noting] at noted
  exact noted

end

section

variable {σ α : Type} {filter : NodeFilter σ} {context : Context}

/-- A dialogue with a filter that keeps every node it is offered ends as the one in which
every node is kept, and with nothing replaced. -/
theorem converse_of_kept {dialogue : Dialogue α} {progress : Progress σ}
    (kept : ∀ offer ∈ offersOf filter context dialogue progress, offer.answer = .keep) :
    (converse filter context dialogue progress).1 = dialogue.run Answers.keep.visitor ∧
      (converse filter context dialogue progress).2.stats.replaced =
        progress.stats.replaced := by
  induction dialogue generalizing progress with
  | done value => exact ⟨rfl, rfl⟩
  | tooDeep => exact ⟨rfl, rfl⟩
  | inline node next ih =>
      rw [offersOf] at kept
      obtain ⟨first, others⟩ := List.forall_mem_cons.mp kept
      obtain ⟨stays, none⟩ := Reply.of_keep node first
      rw [stays] at others
      obtain ⟨result, replaced⟩ := ih [node] others
      rw [converse_inline filter context stays]
      refine ⟨result, replaced.trans ?_⟩
      rw [Progress.afterInline_replaced, none, Nat.add_zero]
  | block node next ih =>
      rw [offersOf] at kept
      obtain ⟨first, others⟩ := List.forall_mem_cons.mp kept
      obtain ⟨stays, none⟩ := Reply.of_keep node first
      rw [stays] at others
      obtain ⟨result, replaced⟩ := ih [node] others
      rw [converse_block filter context stays]
      refine ⟨result, replaced.trans ?_⟩
      rw [Progress.afterBlock_replaced, none, Nat.add_zero]

/-- A filter that keeps all nodes keeps those it is offered. -/
theorem offersOf_keep (gives : filter.Gives context Answers.keep) (dialogue : Dialogue α)
    (progress : Progress σ) :
    ∀ offer ∈ offersOf filter context dialogue progress, offer.answer = .keep := by
  induction dialogue generalizing progress with
  | done value => exact List.forall_mem_nil _
  | tooDeep => exact List.forall_mem_nil _
  | inline node next ih =>
      have kept : (offerOfInline filter context node progress.state).answer = .keep := by
        rw [offerOfInline, gives.inline]
        rfl
      rw [offersOf, (Reply.of_keep node kept).1]
      exact List.forall_mem_cons.mpr ⟨kept, ih [node] _⟩
  | block node next ih =>
      have kept : (offerOfBlock filter context node progress.state).answer = .keep := by
        rw [offerOfBlock, gives.block]
        rfl
      rw [offersOf, (Reply.of_keep node kept).1]
      exact List.forall_mem_cons.mpr ⟨kept, ih [node] _⟩

end

end Walk

namespace Document

variable {σ : Type}

/-- The nodes that a filter is offered on a walk of a document, with its answers. -/
def offers (source : Document) (filter : NodeFilter σ) (format : String) (limit : Nat)
    (state : σ) : List Offer :=
  (source.filter filter.traced format limit (state, #[])).state.2.toList

/-- What is counted on a walk of a document. -/
def walkStats (source : Document) (filter : NodeFilter σ) (format : String) (limit : Nat)
    (state : σ) : WalkStats :=
  ((Walk.document filter format limit source).run { state }).2.stats

variable (source : Document) (filter : NodeFilter σ) (format : String) (limit : Nat) (state : σ)

theorem offers_eq :
    source.offers filter format limit state =
      Walk.offersOf filter ⟨format, source.metadata⟩ (Dialogue.visitor.document limit source)
        ⟨state, {}, #[]⟩ := by
  have walked := (Walk.run_document filter.traced format limit source ⟨(state, #[]), {}, #[]⟩).2.1
  have traced := Walk.converse_traced filter ⟨format, source.metadata⟩
    (Dialogue.visitor.document limit source) ⟨state, {}, #[]⟩ []
  exact congrArg (fun state => state.2.toList)
    (walked.trans (congrArg (fun outcome => outcome.2.state) traced))

theorem walkStats_eq :
    source.walkStats filter format limit state =
      (Walk.converse filter ⟨format, source.metadata⟩ (Dialogue.visitor.document limit source)
        ⟨state, {}, #[]⟩).2.stats :=
  (Walk.run_document filter format limit source ⟨state, {}, #[]⟩).2.2

theorem kept_of_gives {source : Document} {filter : NodeFilter σ} {format : String}
    (limit : Nat) (state : σ)
    (gives : filter.Gives ⟨format, source.metadata⟩ Answers.keep) :
    ∀ offer ∈ source.offers filter format limit state, offer.answer = .keep := by
  rw [offers_eq]
  exact Walk.offersOf_keep gives _ _

end Document

end DocFilter
