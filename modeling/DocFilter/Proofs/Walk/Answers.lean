import DocFilter.Filter.Chain
import DocFilter.Proofs.Walk.Dialogue

/-!
# What a filter answers

A visit asks the filter once, counts the node, and counts it again if something
takes its place. If the answers depend on nothing but the node, the result of a
walk is that of the visitor who gives these answers, whatever the state.
-/

namespace DocFilter

/-! ## One visit -/

/-- What takes the place of a node, unless the filter failed. -/
def Reply.nodes {σ α : Type} (reply : Reply σ α) (node : α) : Except Halt (List α) :=
  match reply.report.outcome with
  | .ok action => .ok (action.after node)
  | .error error => .error (.failed error)

/-- How often something took the place of the node: once or never. -/
def Reply.replaced {σ α : Type} (reply : Reply σ α) : Nat :=
  match reply.report.outcome with
  | .ok .keep => 0
  | .ok _ => 1
  | .error _ => 0

/-- How far a walk has come after an answer about an inline. -/
def Progress.afterInline {σ : Type} (progress : Progress σ) (reply : Reply σ Inline) :
    Progress σ where
  state := reply.state
  stats :=
    { progress.stats with
      inlines := progress.stats.inlines + 1
      replaced := progress.stats.replaced + reply.replaced }
  notices := progress.notices ++ reply.report.notices

@[simp] theorem Progress.afterInline_replaced {σ : Type} (progress : Progress σ)
    (reply : Reply σ Inline) :
    (progress.afterInline reply).stats.replaced = progress.stats.replaced + reply.replaced := rfl

def Progress.afterBlock {σ : Type} (progress : Progress σ) (reply : Reply σ Block) :
    Progress σ where
  state := reply.state
  stats :=
    { progress.stats with
      blocks := progress.stats.blocks + 1
      replaced := progress.stats.replaced + reply.replaced }
  notices := progress.notices ++ reply.report.notices

@[simp] theorem Progress.afterBlock_replaced {σ : Type} (progress : Progress σ)
    (reply : Reply σ Block) :
    (progress.afterBlock reply).stats.replaced = progress.stats.replaced + reply.replaced := rfl

namespace Walk

variable {σ α β : Type}

/-- What follows a computation is run where it leaves off, unless it failed. -/
theorem run_bind (x : Walk σ α) (next : α → Walk σ β) (progress : Progress σ) :
    (x >>= next).run progress =
      match x.run progress with
      | (.ok value, after) => (next value).run after
      | (.error halt, after) => (.error halt, after) := by
  show (ExceptT.bindCont next (x.run progress).1) (x.run progress).2 = _
  generalize x.run progress = outcome
  obtain ⟨result, after⟩ := outcome
  cases result with
  | ok value => rfl
  | error halt => rfl

theorem visitor_stops (filter : NodeFilter σ) (context : Context) :
    (visitor filter context).Stops := fun _ => rfl

/-- What a filter answers is passed on, with its notices and its new state. -/
theorem run_receive (ask : σ → Reply σ α) (progress : Progress σ) :
    (receive ask).run progress =
      ((ask progress.state).report.outcome.mapError .failed,
        { progress with
          state := (ask progress.state).state
          notices := progress.notices ++ (ask progress.state).report.notices }) := by
  rw [receive, run_bind]
  show (set _ >>= fun _ => _ : Walk σ (Action α)).run progress = _
  generalize ask progress.state = reply
  obtain ⟨⟨outcome, notices⟩, state⟩ := reply
  cases outcome with
  | ok action => rfl
  | error error => rfl

theorem run_count (change : WalkStats → WalkStats) (progress : Progress σ) :
    (count change).run progress =
      (.ok (), { progress with stats := change progress.stats }) := rfl

theorem run_inline (filter : NodeFilter σ) (context : Context) (node : Inline)
    (progress : Progress σ) :
    ((visitor filter context).inline node).run progress =
      ((filter.inline context node progress.state).nodes node,
        progress.afterInline (filter.inline context node progress.state)) := by
  rw [visitor]
  dsimp only
  rw [offerInline, run_bind, run_bind, run_count]
  dsimp only
  rw [run_receive]
  dsimp only
  generalize filter.inline context node progress.state = reply
  obtain ⟨⟨outcome, notices⟩, state⟩ := reply
  cases outcome with
  | error error => rfl
  | ok action => cases action <;> rfl

theorem run_block (filter : NodeFilter σ) (context : Context) (node : Block)
    (progress : Progress σ) :
    ((visitor filter context).block node).run progress =
      ((filter.block context node progress.state).nodes node,
        progress.afterBlock (filter.block context node progress.state)) := by
  rw [visitor]
  dsimp only
  rw [offerBlock, run_bind, run_bind, run_count]
  dsimp only
  rw [run_receive]
  dsimp only
  generalize filter.block context node progress.state = reply
  obtain ⟨⟨outcome, notices⟩, state⟩ := reply
  cases outcome with
  | error error => rfl
  | ok action => cases action <;> rfl

section

variable (filter : NodeFilter σ) (context : Context)

/-- What comes of a dialogue with a filter, and how far the walk has come then. -/
def converse (dialogue : Dialogue α) (progress : Progress σ) : Except Halt α × Progress σ :=
  (dialogue.run (visitor filter context)).run progress

theorem converse_inline {node : Inline} {next : List Inline → Dialogue α}
    {progress : Progress σ} {nodes : List Inline}
    (answered : (filter.inline context node progress.state).nodes node = .ok nodes) :
    converse filter context (.inline node next) progress =
      converse filter context (next nodes)
        (progress.afterInline (filter.inline context node progress.state)) := by
  rw [converse, Dialogue.run, run_bind, run_inline, answered]
  rfl

theorem converse_inline_halt {node : Inline} {next : List Inline → Dialogue α}
    {progress : Progress σ} {halt : Halt}
    (failed : (filter.inline context node progress.state).nodes node = .error halt) :
    converse filter context (.inline node next) progress =
      (.error halt, progress.afterInline (filter.inline context node progress.state)) := by
  rw [converse, Dialogue.run, run_bind, run_inline, failed]

theorem converse_block {node : Block} {next : List Block → Dialogue α}
    {progress : Progress σ} {nodes : List Block}
    (answered : (filter.block context node progress.state).nodes node = .ok nodes) :
    converse filter context (.block node next) progress =
      converse filter context (next nodes)
        (progress.afterBlock (filter.block context node progress.state)) := by
  rw [converse, Dialogue.run, run_bind, run_block, answered]
  rfl

theorem converse_block_halt {node : Block} {next : List Block → Dialogue α}
    {progress : Progress σ} {halt : Halt}
    (failed : (filter.block context node progress.state).nodes node = .error halt) :
    converse filter context (.block node next) progress =
      (.error halt, progress.afterBlock (filter.block context node progress.state)) := by
  rw [converse, Dialogue.run, run_bind, run_block, failed]

end

/-- A walk of a document is the dialogue of the document with the filter, up to a last
notice. -/
theorem run_document (filter : NodeFilter σ) (format : String) (limit : Nat)
    (source : Document) (progress : Progress σ) :
    let context : Context := ⟨format, source.metadata⟩
    let talk := converse filter context (Dialogue.visitor.document limit source) progress
    ((document filter format limit source).run progress).1 = talk.1 ∧
      ((document filter format limit source).run progress).2.state = talk.2.state ∧
      ((document filter format limit source).run progress).2.stats = talk.2.stats := by
  intro context talk
  rw [document_eq, run_bind, Dialogue.document_run (visitor_stops _ _), ← converse]
  generalize reached : converse filter _ _ progress = outcome
  have same : talk = outcome := reached
  obtain ⟨result, after⟩ := outcome
  rw [same]
  cases result with
  | ok value => exact ⟨rfl, rfl, rfl⟩
  | error halt => exact ⟨rfl, rfl, rfl⟩

end Walk

/-- What comes of filtering a document is what comes of its dialogue. -/
theorem Document.filter_result {σ : Type} (source : Document) (filter : NodeFilter σ)
    (format : String) (limit : Nat) (state : σ) :
    (source.filter filter format limit state).result =
      (Walk.converse filter ⟨format, source.metadata⟩ (Dialogue.visitor.document limit source)
        ⟨state, {}, #[]⟩).1 :=
  (Walk.run_document filter format limit source ⟨state, {}, #[]⟩).1

theorem Document.filter_state {σ : Type} (source : Document) (filter : NodeFilter σ)
    (format : String) (limit : Nat) (state : σ) :
    (source.filter filter format limit state).state =
      (Walk.converse filter ⟨format, source.metadata⟩ (Dialogue.visitor.document limit source)
        ⟨state, {}, #[]⟩).2.state :=
  (Walk.run_document filter format limit source ⟨state, {}, #[]⟩).2.1

/-! ## Answers that depend on nothing but the node -/

/-- An answer for every node. -/
structure Answers where
  inline : Inline → Except Error (Action Inline)
  block : Block → Except Error (Action Block)

namespace Answers

/-- What takes the place of a node that is answered so. -/
def nodes {α : Type} (node : α) : Except Error (Action α) → Except Halt (List α)
  | .ok action => .ok (action.after node)
  | .error error => .error (.failed error)

def visitor (answers : Answers) : Visitor (Except Halt) where
  inline node := nodes node (answers.inline node)
  block node := nodes node (answers.block node)
  tooDeep := .error .tooDeep

theorem visitor_stops (answers : Answers) : answers.visitor.Stops := fun _ => rfl

def keep : Answers := ⟨fun _ => .ok .keep, fun _ => .ok .keep⟩

/-- The first of two answers that does not keep the node. -/
def either {α : Type} : Except Error (Action α) → Except Error (Action α) →
    Except Error (Action α)
  | .ok .keep, second => second
  | first, _ => first

/-- Answers, and others for the nodes that are kept. -/
def orElse (first second : Answers) : Answers where
  inline node := either (first.inline node) (second.inline node)
  block node := either (first.block node) (second.block node)

end Answers

/-- A filter gives answers in every state. -/
structure NodeFilter.Gives {σ : Type} (filter : NodeFilter σ) (context : Context)
    (answers : Answers) : Prop where
  inline : ∀ node state,
    (filter.inline context node state).report.outcome = answers.inline node
  block : ∀ node state, (filter.block context node state).report.outcome = answers.block node

namespace NodeFilter.Gives

variable {σ : Type} {context : Context} {filter : NodeFilter σ} {answers : Answers}

theorem nodes_eq {α : Type} {reply : Reply σ α} {outcome : Except Error (Action α)}
    (given : reply.report.outcome = outcome) (node : α) :
    reply.nodes node = Answers.nodes node outcome := by
  rw [Reply.nodes, given]
  cases outcome <;> rfl

theorem outcome_orElse {α : Type} (reply : Reply σ α) (second : σ → Reply σ α) :
    (reply.orElse second).report.outcome =
      Answers.either reply.report.outcome (second reply.state).report.outcome := by
  obtain ⟨⟨outcome, notices⟩, state⟩ := reply
  cases outcome with
  | error error => rfl
  | ok action => cases action <;> rfl

/-- A chain of two filters gives the answers of the first, and those of the second for
what the first keeps. -/
theorem orElse {first second : NodeFilter σ} {answers answers' : Answers}
    (gives : first.Gives context answers) (gives' : second.Gives context answers') :
    (first.orElse second).Gives context (answers.orElse answers') where
  inline node state := by
    show ((first.inline context node state).orElse (second.inline context node)).report.outcome =
      Answers.either (answers.inline node) (answers'.inline node)
    rw [outcome_orElse, gives.inline, gives'.inline]
  block node state := by
    show ((first.block context node state).orElse (second.block context node)).report.outcome =
      Answers.either (answers.block node) (answers'.block node)
    rw [outcome_orElse, gives.block, gives'.block]

/-- The result of a walk does not depend on the state. -/
theorem converse_result (gives : filter.Gives context answers) {α : Type}
    (dialogue : Dialogue α) (progress : Progress σ) :
    (Walk.converse filter context dialogue progress).1 = dialogue.run answers.visitor := by
  induction dialogue generalizing progress with
  | done value => rfl
  | tooDeep => rfl
  | inline node next ih =>
      have given := nodes_eq (gives.inline node progress.state) node
      show _ = Answers.nodes node (answers.inline node) >>= _
      cases answered : Answers.nodes node (answers.inline node) with
      | ok nodes =>
          rw [Walk.converse_inline filter context (given.trans answered)]
          exact ih nodes _
      | error halt =>
          rw [Walk.converse_inline_halt filter context (given.trans answered)]
          rfl
  | block node next ih =>
      have given := nodes_eq (gives.block node progress.state) node
      show _ = Answers.nodes node (answers.block node) >>= _
      cases answered : Answers.nodes node (answers.block node) with
      | ok nodes =>
          rw [Walk.converse_block filter context (given.trans answered)]
          exact ih nodes _
      | error halt =>
          rw [Walk.converse_block_halt filter context (given.trans answered)]
          rfl

/-- What comes of filtering a document is what its answers make of it. -/
theorem result {source : Document} {format : String} {limit : Nat}
    (gives : filter.Gives ⟨format, source.metadata⟩ answers) (state : σ) :
    (source.filter filter format limit state).result =
      answers.visitor.document limit source := by
  rw [Document.filter_result, gives.converse_result, Dialogue.document_run answers.visitor_stops]

end NodeFilter.Gives

end DocFilter
