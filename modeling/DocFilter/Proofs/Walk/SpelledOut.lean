import DocFilter.Proofs.Walk.Counting

/-!
# Forms of actions

A filter can let a node stay, replace it by itself or by a list with nothing else in it.
The walk goes on with the same nodes in each case, and only counts differently. So a
filter may be replaced by one that always says what takes the place of a node.
-/

namespace DocFilter

/-- The action in a form with more words: a node that stays takes its own place, and what
takes its place alone is a list of one. -/
def Action.spelledOut {α : Type} (node : α) : Action α → Action α
  | .keep => .one node
  | .one replacement => .many [replacement]
  | .many replacements => .many replacements

theorem Action.after_spelledOut {α : Type} (node : α) (action : Action α) :
    (action.spelledOut node).after node = action.after node := by
  cases action <;> rfl

namespace Reply

variable {σ α : Type}

/-- The reply with its action spelled out, the same error, notices and state. -/
def spelledOut (node : α) (reply : Reply σ α) : Reply σ α where
  report := ⟨reply.report.outcome.map (Action.spelledOut node), reply.report.notices⟩
  state := reply.state

/-- The walk goes on with the same nodes. -/
theorem nodes_spelledOut (node : α) (reply : Reply σ α) :
    (reply.spelledOut node).nodes node = reply.nodes node := by
  obtain ⟨⟨outcome, notices⟩, state⟩ := reply
  cases outcome with
  | error error => rfl
  | ok action => exact congrArg Except.ok (action.after_spelledOut node)

end Reply

/-- The filter that answers as another one, with every action spelled out. -/
def NodeFilter.spelledOut {σ : Type} (filter : NodeFilter σ) : NodeFilter σ where
  block context node state := (filter.block context node state).spelledOut node
  inline context node state := (filter.inline context node state).spelledOut node

/-! ## Offers -/

/-- The answer of a filter that spells out what another one answers. -/
def Answer.spelledOut : Answer → Answer
  | .keep => .one
  | .one => .many 1
  | .many count => .many count
  | .error => .error

theorem Answer.isReplacement_spelledOut (answer : Answer) :
    answer.spelledOut.isReplacement = true ↔ answer.spelledOut ≠ .error := by
  cases answer <;> simp [spelledOut, isReplacement]

theorem Answer.ofOutcome_spelledOut {α : Type} (node : α) (outcome : Except Error (Action α)) :
    ofOutcome (outcome.map (Action.spelledOut node)) = (ofOutcome outcome).spelledOut := by
  cases outcome with
  | error error => rfl
  | ok action => cases action <;> rfl

/-- The same node, with the answer spelled out. -/
def Offer.spelledOut (offer : Offer) : Offer := ⟨offer.node, offer.answer.spelledOut⟩

namespace Walk

variable {σ α : Type} (filter : NodeFilter σ) (context : Context)

theorem offerOfInline_spelledOut (node : Inline) (state : σ) :
    offerOfInline filter.spelledOut context node state =
      (offerOfInline filter context node state).spelledOut :=
  congrArg (Offer.mk (.inline node)) (Answer.ofOutcome_spelledOut node _)

theorem offerOfBlock_spelledOut (node : Block) (state : σ) :
    offerOfBlock filter.spelledOut context node state =
      (offerOfBlock filter context node state).spelledOut :=
  congrArg (Offer.mk (.block node)) (Answer.ofOutcome_spelledOut node _)

/-- A dialogue with a filter is the dialogue with the filter that spells everything out,
whatever the two walks have counted and told before. -/
theorem converse_spelledOut (dialogue : Dialogue α) (progress : Progress σ) (stats : WalkStats)
    (notices : Array Notice) :
    let spelled : Progress σ := ⟨progress.state, stats, notices⟩
    (converse filter.spelledOut context dialogue spelled).1 =
        (converse filter context dialogue progress).1 ∧
      (converse filter.spelledOut context dialogue spelled).2.state =
        (converse filter context dialogue progress).2.state ∧
      offersOf filter.spelledOut context dialogue spelled =
        (offersOf filter context dialogue progress).map Offer.spelledOut := by
  induction dialogue generalizing progress stats notices with
  | done value => exact ⟨rfl, rfl, rfl⟩
  | tooDeep => exact ⟨rfl, rfl, rfl⟩
  | inline node next ih =>
      intro spelled
      have nodes : (filter.spelledOut.inline context node spelled.state).nodes node =
          (filter.inline context node progress.state).nodes node :=
        Reply.nodes_spelledOut node _
      rw [offersOf, offersOf, offerOfInline_spelledOut]
      cases answered : (filter.inline context node progress.state).nodes node with
      | error halt =>
          rw [answered] at nodes
          rw [converse_inline_halt filter context answered,
            converse_inline_halt filter.spelledOut context nodes, nodes]
          exact ⟨rfl, rfl, rfl⟩
      | ok replaced =>
          rw [answered] at nodes
          obtain ⟨result, state, offers⟩ := ih replaced
            (progress.afterInline (filter.inline context node progress.state)) _ _
          rw [converse_inline filter context answered,
            converse_inline filter.spelledOut context nodes, nodes]
          exact ⟨result, state, congrArg (List.cons _) offers⟩
  | block node next ih =>
      intro spelled
      have nodes : (filter.spelledOut.block context node spelled.state).nodes node =
          (filter.block context node progress.state).nodes node :=
        Reply.nodes_spelledOut node _
      rw [offersOf, offersOf, offerOfBlock_spelledOut]
      cases answered : (filter.block context node progress.state).nodes node with
      | error halt =>
          rw [answered] at nodes
          rw [converse_block_halt filter context answered,
            converse_block_halt filter.spelledOut context nodes, nodes]
          exact ⟨rfl, rfl, rfl⟩
      | ok replaced =>
          rw [answered] at nodes
          obtain ⟨result, state, offers⟩ := ih replaced
            (progress.afterBlock (filter.block context node progress.state)) _ _
          rw [converse_block filter context answered,
            converse_block filter.spelledOut context nodes, nodes]
          exact ⟨result, state, congrArg (List.cons _) offers⟩

end Walk

/-! ## Documents -/

namespace WalkStats

variable (offers : List Offer)

/-- As many blocks and inlines are counted when answers are spelled out. -/
theorem after_spelledOut :
    (after {} (offers.map Offer.spelledOut)).blocks = (after {} offers).blocks ∧
      (after {} (offers.map Offer.spelledOut)).inlines = (after {} offers).inlines := by
  constructor
  · exact congrArg (0 + ·) List.countP_map
  · exact congrArg (0 + ·) List.countP_map

/-- Every node counts as replaced that the filter did not fail on. -/
theorem replaced_after_spelledOut :
    (after {} (offers.map Offer.spelledOut)).replaced =
      (offers.map Offer.spelledOut).countP fun offer => offer.answer ≠ .error := by
  refine (Nat.zero_add _).trans (List.countP_congr fun offer member => ?_)
  obtain ⟨original, -, rfl⟩ := List.mem_map.mp member
  rw [decide_eq_true_iff]
  exact original.answer.isReplacement_spelledOut

end WalkStats

namespace Document

variable {σ : Type} (source : Document) (filter : NodeFilter σ) (format : String) (limit : Nat)
  (state : σ)

theorem offers_spelledOut :
    source.offers filter.spelledOut format limit state =
      (source.offers filter format limit state).map Offer.spelledOut := by
  rw [offers_eq, offers_eq]
  exact (Walk.converse_spelledOut filter _ _ ⟨state, {}, #[]⟩ {} #[]).2.2

/-- A walk ends with the same result and the same state if the filter spells its answers
out: if it replaces by themselves the nodes that it would let stay, and by a list of one
those that it would replace by one node. It is offered the same nodes in the same order,
as many blocks and inlines are counted, and every node counts as replaced that the filter
did not fail on. -/
theorem filter_spelledOut :
    let plain := source.filter filter format limit state
    let spelled := source.filter filter.spelledOut format limit state
    let offers := source.offers filter.spelledOut format limit state
    let stats := source.walkStats filter.spelledOut format limit state
    spelled.result = plain.result ∧ spelled.state = plain.state ∧
      offers.map Offer.node = (source.offers filter format limit state).map Offer.node ∧
      stats.blocks = (source.walkStats filter format limit state).blocks ∧
      stats.inlines = (source.walkStats filter format limit state).inlines ∧
      stats.replaced = offers.countP fun offer => offer.answer ≠ .error := by
  intro plain spelled offers stats
  obtain ⟨result, last, -⟩ := Walk.converse_spelledOut filter ⟨format, source.metadata⟩
    (Dialogue.visitor.document limit source) ⟨state, {}, #[]⟩ {} #[]
  have offered := source.offers_spelledOut filter format limit state
  have counted := source.walkStats_eq_after filter.spelledOut format limit state
  rw [offered] at counted
  obtain ⟨blocks, inlines⟩ :=
    WalkStats.after_spelledOut (source.offers filter format limit state)
  rw [← counted, ← walkStats_eq_after] at blocks inlines
  refine ⟨?_, ?_, ?_, blocks, inlines, ?_⟩
  · exact (filter_result ..).trans (result.trans (filter_result ..).symm)
  · exact (filter_state ..).trans (last.trans (filter_state ..).symm)
  · exact (congrArg (List.map Offer.node) offered).trans List.map_map
  · exact (congrArg WalkStats.replaced counted).trans
      ((WalkStats.replaced_after_spelledOut _).trans (congrArg _ offered.symm))

end Document

end DocFilter
