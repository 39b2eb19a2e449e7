import DocFilter.Filter.Trace
import DocFilter.Proofs.Walk.Answers

/-!
# Records of walks

A record of a walk holds each node that the filter was asked about, in order, with all that
it answered. Notes can be taken beside any filter, and the walk is the same with and without
them. Once the filter fails it is not asked again, and the walk fails with its error.
-/

namespace DocFilter

/-- The same action on nodes that stand for the former ones. -/
def Action.map {α β : Type} (f : α → β) : Action α → Action β
  | .keep => .keep
  | .one replacement => .one (f replacement)
  | .many replacements => .many (replacements.map f)

/-- A node that a filter was asked about, and what it answered. -/
structure Enquiry where
  node : Node
  outcome : Except Error (Action Node)

namespace Enquiry

def ofInline (node : Inline) (outcome : Except Error (Action Inline)) : Enquiry :=
  ⟨.inline node, outcome.map (Action.map .inline)⟩

def ofBlock (node : Block) (outcome : Except Error (Action Block)) : Enquiry :=
  ⟨.block node, outcome.map (Action.map .block)⟩

/-- What a trace shows of an enquiry. -/
def offer (enquiry : Enquiry) : Offer := ⟨enquiry.node, .ofOutcome enquiry.outcome⟩

/-- The error that the filter failed with. -/
def error? (enquiry : Enquiry) : Option Error :=
  match enquiry.outcome with
  | .ok _ => none
  | .error error => some error

/-- The filter answered that something takes the place of the node. -/
def replaces (enquiry : Enquiry) : Bool :=
  match enquiry.outcome with
  | .ok action => action.isReplace
  | .error _ => false

theorem ofOutcome_map {α β : Type} (f : α → β) (outcome : Except Error (Action α)) :
    Answer.ofOutcome (outcome.map (Action.map f)) = Answer.ofOutcome outcome := by
  cases outcome with
  | error error => rfl
  | ok action =>
      cases action with
      | keep => rfl
      | one replacement => rfl
      | many replacements => exact congrArg Answer.many (List.length_map f)

@[simp] theorem offer_ofInline (node : Inline) (outcome : Except Error (Action Inline)) :
    (ofInline node outcome).offer = ⟨.inline node, .ofOutcome outcome⟩ :=
  congrArg (Offer.mk (.inline node)) (ofOutcome_map Node.inline outcome)

@[simp] theorem offer_ofBlock (node : Block) (outcome : Except Error (Action Block)) :
    (ofBlock node outcome).offer = ⟨.block node, .ofOutcome outcome⟩ :=
  congrArg (Offer.mk (.block node)) (ofOutcome_map Node.block outcome)

end Enquiry

namespace Reply

variable {σ α : Type} {reply : Reply σ α} {node : α}

theorem exists_of_nodes {nodes : List α} (answered : reply.nodes node = .ok nodes) :
    ∃ action, reply.report.outcome = .ok action ∧ nodes = action.after node := by
  rw [Reply.nodes] at answered
  cases outcome : reply.report.outcome with
  | error error =>
      rw [outcome] at answered
      cases answered
  | ok action =>
      rw [outcome] at answered
      cases answered
      exact ⟨action, rfl, rfl⟩

theorem exists_of_nodes_error {halt : Halt} (failed : reply.nodes node = .error halt) :
    ∃ error, reply.report.outcome = .error error ∧ halt = .failed error := by
  rw [Reply.nodes] at failed
  cases outcome : reply.report.outcome with
  | error error =>
      rw [outcome] at failed
      cases failed
      exact ⟨error, rfl, rfl⟩
  | ok action =>
      rw [outcome] at failed
      cases failed

end Reply

/-! ## Taking notes -/

/-- The same filter with notes beside it. -/
def NodeFilter.noting {σ τ : Type} (filter : NodeFilter σ) (note : τ → Enquiry → τ) :
    NodeFilter (σ × τ) where
  block context node state :=
    let reply := filter.block context node state.1
    ⟨reply.report, reply.state, note state.2 (.ofBlock node reply.report.outcome)⟩
  inline context node state :=
    let reply := filter.inline context node state.1
    ⟨reply.report, reply.state, note state.2 (.ofInline node reply.report.outcome)⟩

/-- The same filter with a record of what it was asked and what it answered. -/
def NodeFilter.recorded {σ : Type} (filter : NodeFilter σ) : NodeFilter (σ × List Enquiry) :=
  filter.noting fun record enquiry => record ++ [enquiry]

/-- How far a walk has come, with notes beside the state of the filter. -/
def Progress.beside {σ τ : Type} (progress : Progress σ) (notes : τ) : Progress (σ × τ) :=
  ⟨(progress.state, notes), progress.stats, progress.notices⟩

namespace Walk

variable {σ α : Type}

section

variable (filter : NodeFilter σ) (context : Context)

/-- What a filter is asked in a dialogue, and what it answers. -/
def enquiries : Dialogue α → Progress σ → List Enquiry
  | .done _, _ => []
  | .tooDeep, _ => []
  | .inline node next, progress =>
      let reply := filter.inline context node progress.state
      .ofInline node reply.report.outcome ::
        match reply.nodes node with
        | .ok nodes => enquiries (next nodes) (progress.afterInline reply)
        | .error _ => []
  | .block node next, progress =>
      let reply := filter.block context node progress.state
      .ofBlock node reply.report.outcome ::
        match reply.nodes node with
        | .ok nodes => enquiries (next nodes) (progress.afterBlock reply)
        | .error _ => []

variable {τ : Type} (note : τ → Enquiry → τ)

/-- A walk does not notice that notes are taken, and all enquiries are noted in order. -/
theorem converse_noting (dialogue : Dialogue α) (progress : Progress σ) (notes : τ) :
    converse (filter.noting note) context dialogue (progress.beside notes) =
      ((converse filter context dialogue progress).1,
        (converse filter context dialogue progress).2.beside
          ((enquiries filter context dialogue progress).foldl note notes)) := by
  induction dialogue generalizing progress notes with
  | done value => rfl
  | tooDeep => rfl
  | inline node next ih =>
      have noted : ((filter.noting note).inline context node
          (progress.beside notes).state).nodes node =
          (filter.inline context node progress.state).nodes node := rfl
      cases answered : (filter.inline context node progress.state).nodes node with
      | error halt =>
          rw [converse_inline_halt filter context answered,
            converse_inline_halt (filter.noting note) context (noted.trans answered), enquiries,
            answered]
          rfl
      | ok nodes =>
          rw [converse_inline filter context answered,
            converse_inline (filter.noting note) context (noted.trans answered), enquiries,
            answered]
          exact ih nodes (progress.afterInline _) _
  | block node next ih =>
      have noted : ((filter.noting note).block context node
          (progress.beside notes).state).nodes node =
          (filter.block context node progress.state).nodes node := rfl
      cases answered : (filter.block context node progress.state).nodes node with
      | error halt =>
          rw [converse_block_halt filter context answered,
            converse_block_halt (filter.noting note) context (noted.trans answered), enquiries,
            answered]
          rfl
      | ok nodes =>
          rw [converse_block filter context answered,
            converse_block (filter.noting note) context (noted.trans answered), enquiries,
            answered]
          exact ih nodes (progress.afterBlock _) _

/-- A walk does not notice that a record is kept, and the record is complete. -/
theorem converse_recorded (dialogue : Dialogue α) (progress : Progress σ)
    (record : List Enquiry) :
    converse filter.recorded context dialogue (progress.beside record) =
      ((converse filter context dialogue progress).1,
        (converse filter context dialogue progress).2.beside
          (record ++ enquiries filter context dialogue progress)) := by
  have foldl_concat (asked : List Enquiry) :
      asked.foldl (fun record enquiry => record ++ [enquiry]) record = record ++ asked := by
    induction asked generalizing record with
    | nil => simp
    | cons first rest ih => simp [ih]
  rw [NodeFilter.recorded, converse_noting, foldl_concat]

end

/-! ## Failures -/

/-- What there is to say about the enquiries of a computation that ended so: either none of
them failed, or the last one did, with the error that was returned. -/
def Concludes (result : Except Halt α) (asked : List Enquiry) : Prop :=
  match result with
  | .error (.failed error) =>
      ∃ before last, asked = before ++ [last] ∧ last.error? = some error ∧
        ∀ enquiry ∈ before, enquiry.error? = none
  | _ => ∀ enquiry ∈ asked, enquiry.error? = none

theorem Concludes.cons {result : Except Halt α} {asked : List Enquiry} {first : Enquiry}
    (answered : first.error? = none) (concludes : Concludes result asked) :
    Concludes result (first :: asked) := by
  cases result with
  | ok value => exact List.forall_mem_cons.mpr ⟨answered, concludes⟩
  | error halt =>
      cases halt with
      | tooDeep => exact List.forall_mem_cons.mpr ⟨answered, concludes⟩
      | failed error =>
          obtain ⟨before, last, rfl, failed, others⟩ := concludes
          exact ⟨first :: before, last, rfl, failed, List.forall_mem_cons.mpr ⟨answered, others⟩⟩

theorem Concludes.singleton {last : Enquiry} {error : Error} (failed : last.error? = some error) :
    Concludes (.error (.failed error) : Except Halt α) [last] :=
  ⟨[], last, rfl, failed, List.forall_mem_nil _⟩

section

variable (filter : NodeFilter σ) (context : Context)

/-- A dialogue ends with the error of the last enquiry, if that failed, and no enquiry before
it did. -/
theorem converse_concludes (dialogue : Dialogue α) (progress : Progress σ) :
    Concludes (converse filter context dialogue progress).1
      (enquiries filter context dialogue progress) := by
  induction dialogue generalizing progress with
  | done value => exact List.forall_mem_nil _
  | tooDeep => exact List.forall_mem_nil _
  | inline node next ih =>
      rw [enquiries]
      cases answered : (filter.inline context node progress.state).nodes node with
      | error halt =>
          obtain ⟨error, outcome, rfl⟩ := Reply.exists_of_nodes_error answered
          rw [converse_inline_halt filter context answered]
          apply Concludes.singleton
          rw [outcome]
          rfl
      | ok nodes =>
          obtain ⟨action, outcome, -⟩ := Reply.exists_of_nodes answered
          rw [converse_inline filter context answered]
          refine Concludes.cons ?_ (ih nodes _)
          rw [outcome]
          rfl
  | block node next ih =>
      rw [enquiries]
      cases answered : (filter.block context node progress.state).nodes node with
      | error halt =>
          obtain ⟨error, outcome, rfl⟩ := Reply.exists_of_nodes_error answered
          rw [converse_block_halt filter context answered]
          apply Concludes.singleton
          rw [outcome]
          rfl
      | ok nodes =>
          obtain ⟨action, outcome, -⟩ := Reply.exists_of_nodes answered
          rw [converse_block filter context answered]
          refine Concludes.cons ?_ (ih nodes _)
          rw [outcome]
          rfl

end

end Walk

end DocFilter
