import DocFilter.Proofs.Walk.Frames
import DocFilter.Proofs.Walk.Offers

/-!
# Flat chains

A chain asks the filters at its leaves in order, up to the first that fails or puts
something in the place of the node. How the leaves are grouped and where identities stand
between them makes no difference to any walk, nor to what is asked of any leaf.
-/

namespace DocFilter

namespace NodeFilter

variable {σ : Type}

/-- Two chains in a row are one chain. -/
theorem chain_append (filters others : List (NodeFilter σ)) :
    chain (filters ++ others) = (chain filters).orElse (chain others) := by
  induction filters with
  | nil => exact (identity_orElse (chain others)).symm
  | cons first rest ih =>
      show first.orElse (chain (rest ++ others)) =
        (first.orElse (chain rest)).orElse (chain others)
      rw [ih, orElse_assoc]

end NodeFilter

namespace Chain

variable {φ : Type}

/-- The chain of the filters at the leaves. -/
def flat (chain : Chain φ) : Chain φ := .composite (chain.leaves.map .leaf)

theorem leavesOf_map_leaf (filters : List φ) : leavesOf (filters.map .leaf) = filters := by
  induction filters with
  | nil => rfl
  | cons first rest ih =>
      show first :: leavesOf (rest.map .leaf) = first :: rest
      rw [ih]

@[simp] theorem leaves_flat (chain : Chain φ) : chain.flat.leaves = chain.leaves :=
  leavesOf_map_leaf chain.leaves

section

variable {σ : Type} (interpret : φ → NodeFilter σ)

mutual

/-- A chain is no more than its leaves. -/
theorem toFilter_eq_chain : ∀ chain : Chain φ,
    chain.toFilter interpret = NodeFilter.chain (chain.leaves.map interpret)
  | .leaf filter => (NodeFilter.orElse_identity (interpret filter)).symm
  | .identity => rfl
  | .composite members => toFilters_eq_chain members

theorem toFilters_eq_chain : ∀ members : List (Chain φ),
    toFilters interpret members = NodeFilter.chain ((leavesOf members).map interpret)
  | [] => rfl
  | member :: rest => by
      rw [toFilters, toFilter_eq_chain member, toFilters_eq_chain rest, leavesOf,
        List.map_append, NodeFilter.chain_append]

end

/-- A chain and the chain of its leaves are the same filter. -/
theorem toFilter_flat (chain : Chain φ) :
    chain.flat.toFilter interpret = chain.toFilter interpret := by
  rw [toFilter_eq_chain, toFilter_eq_chain, leaves_flat]

end

/-- Identities and chains without members are left out. -/
example (a b c : φ) :
    flat (.composite [.composite [.leaf a, .identity], .composite [], .composite
      [.leaf b, .composite [.identity, .leaf c]]]) = .composite [.leaf a, .leaf b, .leaf c] := rfl

end Chain

/-! ## Who is asked -/

/-- The node was asked about and stays. -/
def Enquiry.kept (node : Node) : Enquiry := ⟨node, .ok .keep⟩

/-- Who in a chain was asked, and what each answered, when the chain was asked. -/
inductive Consulted {ι : Type} : List ι → List (ι × Enquiry) → Enquiry → Prop where
  /-- All keep the node, and so does the chain. -/
  | all (leaves : List ι) (node : Node) :
      Consulted leaves (leaves.map fun leaf => (leaf, .kept node)) (.kept node)
  /-- The first that does not keep the node answers for the chain; none after it is asked. -/
  | upTo (before : List ι) (leaf : ι) (after : List ι) (enquiry : Enquiry)
      (decides : enquiry.outcome ≠ .ok .keep) :
      Consulted (before ++ leaf :: after)
        ((before.map fun leaf => (leaf, .kept enquiry.node)) ++ [(leaf, enquiry)]) enquiry

namespace Consulted

variable {ι : Type} {leaves : List ι} {asked : List (ι × Enquiry)} {enquiry : Enquiry}

theorem cons (leaf : ι) (consulted : Consulted leaves asked enquiry) :
    Consulted (leaf :: leaves) ((leaf, .kept enquiry.node) :: asked) enquiry := by
  cases consulted with
  | all leaves node => exact .all (leaf :: leaves) node
  | upTo before decider after enquiry decides =>
      exact .upTo (leaf :: before) decider after enquiry decides

end Consulted

namespace Reply

variable {σ τ α : Type}

/-- A reply with notes beside the state. -/
def beside (reply : Reply σ α) (notes : τ) : Reply (σ × τ) α :=
  ⟨reply.report, reply.state, notes⟩

/-- The enquiry about a node that was replied to so. -/
def enquiry (reply : Reply σ α) (toNode : α → Node) (node : α) : Enquiry :=
  ⟨toNode node, reply.report.outcome.map (Action.map toNode)⟩

end Reply

/-- A filter answers as another one does, and appends to a log what belongs to the enquiry. -/
structure NodeFilter.Logs {σ β : Type} (logger : NodeFilter (σ × List β))
    (filter : NodeFilter σ) (belongs : List β → Enquiry → Prop) : Prop where
  inline : ∀ context node state log, ∃ entries,
    logger.inline context node (state, log) =
        (filter.inline context node state).beside (log ++ entries) ∧
      belongs entries ((filter.inline context node state).enquiry .inline node)
  block : ∀ context node state log, ∃ entries,
    logger.block context node (state, log) =
        (filter.block context node state).beside (log ++ entries) ∧
      belongs entries ((filter.block context node state).enquiry .block node)

/-- The same filter, which writes down under a name what it was asked and what it answered. -/
def NodeFilter.logging {σ ι : Type} (name : ι) (filter : NodeFilter σ) :
    NodeFilter (σ × List (ι × Enquiry)) :=
  filter.noting fun log enquiry => log ++ [(name, enquiry)]

/-- If one more filter is put in front of others, either it is the only one that is asked,
or it keeps the node and the others are asked as before. -/
theorem Reply.orElse_logging {σ α ι : Type} (toNode : α → Node) (node : α) (leaf : ι)
    {leaves : List ι} (reply : Reply σ α) {second : σ → Reply σ α}
    {secondLogging : σ × List (ι × Enquiry) → Reply (σ × List (ι × Enquiry)) α}
    (follows : ∀ state log, ∃ asked,
      secondLogging (state, log) = (second state).beside (log ++ asked) ∧
        Consulted leaves asked ((second state).enquiry toNode node))
    (log : List (ι × Enquiry)) :
    ∃ asked,
      (reply.beside (log ++ [(leaf, reply.enquiry toNode node)])).orElse secondLogging =
        (reply.orElse second).beside (log ++ asked) ∧
      Consulted (leaf :: leaves) asked ((reply.orElse second).enquiry toNode node) := by
  obtain ⟨⟨outcome, notices⟩, state⟩ := reply
  match outcome with
  | .error error => exact ⟨_, rfl, .upTo [] leaf leaves _ nofun⟩
  | .ok (.one replacement) => exact ⟨_, rfl, .upTo [] leaf leaves _ nofun⟩
  | .ok (.many replacements) => exact ⟨_, rfl, .upTo [] leaf leaves _ nofun⟩
  | .ok .keep =>
      obtain ⟨asked, answered, consulted⟩ :=
        follows state (log ++ [(leaf, .kept (toNode node))])
      refine ⟨(leaf, .kept (toNode node)) :: asked, ?_, consulted.cons leaf⟩
      rw [List.append_assoc] at answered
      show (let following := secondLogging (state, log ++ [(leaf, .kept (toNode node))])
        Reply.mk ⟨following.report.outcome, notices ++ following.report.notices⟩
          following.state) = _
      rw [answered]
      rfl

/-- The filters at the leaves of a chain, each of which writes down what it was asked. -/
def Chain.logging {σ ι : Type} (interpret : ι → NodeFilter σ) (chain : Chain ι) :
    NodeFilter (σ × List (ι × Enquiry)) :=
  chain.toFilter fun leaf => (interpret leaf).logging leaf

/-- When a chain is asked, its leaves are asked in order up to the first that decides. -/
theorem NodeFilter.chain_logs {σ ι : Type} (interpret : ι → NodeFilter σ) (leaves : List ι) :
    (chain (leaves.map fun leaf => (interpret leaf).logging leaf)).Logs
      (chain (leaves.map interpret)) (Consulted leaves) := by
  induction leaves with
  | nil =>
      constructor
      · intro context node state log
        exact ⟨[], by rw [List.append_nil]; rfl, .all [] (.inline node)⟩
      · intro context node state log
        exact ⟨[], by rw [List.append_nil]; rfl, .all [] (.block node)⟩
  | cons leaf rest ih =>
      constructor
      · intro context node state log
        exact Reply.orElse_logging .inline node leaf _ (ih.inline context node) log
      · intro context node state log
        exact Reply.orElse_logging .block node leaf _ (ih.block context node) log

theorem Chain.logging_logs {σ ι : Type} (interpret : ι → NodeFilter σ) (chain : Chain ι) :
    (chain.logging interpret).Logs (chain.toFilter interpret) (Consulted chain.leaves) := by
  rw [logging, toFilter_eq_chain, toFilter_eq_chain]
  exact NodeFilter.chain_logs interpret chain.leaves

/-! ## Whole walks -/

namespace NodeFilter.Logs

variable {σ β : Type} {logger : NodeFilter (σ × List β)} {filter : NodeFilter σ}
  {belongs : List β → Enquiry → Prop}

/-- A walk does not notice that a log is kept, and the log has a part for each enquiry. -/
theorem converse (logs : logger.Logs filter belongs) (context : Context) {α : Type}
    (dialogue : Dialogue α) (progress : Progress σ) (log : List β) :
    ∃ parts,
      Walk.converse logger context dialogue (progress.beside log) =
        ((Walk.converse filter context dialogue progress).1,
          (Walk.converse filter context dialogue progress).2.beside (log ++ parts.flatten)) ∧
      Walk.enquiries logger context dialogue (progress.beside log) =
        Walk.enquiries filter context dialogue progress ∧
      List.Forall₂ belongs parts (Walk.enquiries filter context dialogue progress) := by
  induction dialogue generalizing progress log with
  | done value => exact ⟨[], by rw [List.flatten_nil, List.append_nil]; rfl, rfl, .nil⟩
  | tooDeep => exact ⟨[], by rw [List.flatten_nil, List.append_nil]; rfl, rfl, .nil⟩
  | inline node next ih =>
      obtain ⟨entries, reply, belong⟩ := logs.inline context node progress.state log
      have logged : (logger.inline context node (progress.beside log).state).nodes node =
          (filter.inline context node progress.state).nodes node :=
        congrArg (fun reply => reply.nodes node) reply
      have reported : (logger.inline context node (progress.beside log).state).report.outcome =
          (filter.inline context node progress.state).report.outcome :=
        congrArg (fun reply => reply.report.outcome) reply
      have after : (progress.beside log).afterInline
          (logger.inline context node (progress.beside log).state) =
          (progress.afterInline (filter.inline context node progress.state)).beside
            (log ++ entries) := congrArg (progress.beside log).afterInline reply
      rw [Walk.enquiries, Walk.enquiries, logged, reported, after]
      cases answered : (filter.inline context node progress.state).nodes node with
      | error halt =>
          refine ⟨[entries], ?_, rfl, .cons belong .nil⟩
          rw [Walk.converse_inline_halt filter context answered,
            Walk.converse_inline_halt logger context (logged.trans answered), after,
            List.flatten_singleton]
      | ok nodes =>
          obtain ⟨parts, result, same, each⟩ := ih nodes
            (progress.afterInline (filter.inline context node progress.state)) (log ++ entries)
          refine ⟨entries :: parts, ?_, congrArg (_ :: ·) same, .cons belong each⟩
          rw [Walk.converse_inline filter context answered,
            Walk.converse_inline logger context (logged.trans answered), after, result,
            List.flatten_cons, List.append_assoc]
  | block node next ih =>
      obtain ⟨entries, reply, belong⟩ := logs.block context node progress.state log
      have logged : (logger.block context node (progress.beside log).state).nodes node =
          (filter.block context node progress.state).nodes node :=
        congrArg (fun reply => reply.nodes node) reply
      have reported : (logger.block context node (progress.beside log).state).report.outcome =
          (filter.block context node progress.state).report.outcome :=
        congrArg (fun reply => reply.report.outcome) reply
      have after : (progress.beside log).afterBlock
          (logger.block context node (progress.beside log).state) =
          (progress.afterBlock (filter.block context node progress.state)).beside
            (log ++ entries) := congrArg (progress.beside log).afterBlock reply
      rw [Walk.enquiries, Walk.enquiries, logged, reported, after]
      cases answered : (filter.block context node progress.state).nodes node with
      | error halt =>
          refine ⟨[entries], ?_, rfl, .cons belong .nil⟩
          rw [Walk.converse_block_halt filter context answered,
            Walk.converse_block_halt logger context (logged.trans answered), after,
            List.flatten_singleton]
      | ok nodes =>
          obtain ⟨parts, result, same, each⟩ := ih nodes
            (progress.afterBlock (filter.block context node progress.state)) (log ++ entries)
          refine ⟨entries :: parts, ?_, congrArg (_ :: ·) same, .cons belong each⟩
          rw [Walk.converse_block filter context answered,
            Walk.converse_block logger context (logged.trans answered), after, result,
            List.flatten_cons, List.append_assoc]

end NodeFilter.Logs

/-! ## Many walks -/

namespace Document

/-- What is seen of a walk of a document. -/
structure Walked where
  result : Except Halt Document
  /-- The nodes that were offered, with the answers. -/
  record : List Enquiry
  stats : WalkStats

section

variable {σ : Type} (filter : NodeFilter σ) (limit : Nat)

def walked (source : Document) (format : String) (state : σ) : Walked where
  result := (source.filter filter format limit state).result
  record := source.record filter format limit state
  stats := source.walkStats filter format limit state

/-- Walks documents one after the other, each for its own format. The filter goes on in the
state that the walk before left it in, whether or not that failed. -/
def walks : List (Document × String) → σ → List Walked × σ
  | [], state => ([], state)
  | (source, format) :: rest, state =>
      let following := walks rest (source.filter filter format limit state).state
      (source.walked filter limit format state :: following.1, following.2)

end

end Document

namespace NodeFilter.Logs

variable {σ β : Type} {logger : NodeFilter (σ × List β)} {filter : NodeFilter σ}
  {belongs : List β → Enquiry → Prop}

theorem walked (logs : logger.Logs filter belongs) (limit : Nat) (source : Document)
    (format : String) (state : σ) (log : List β) :
    ∃ parts,
      source.walked logger limit format (state, log) = source.walked filter limit format state ∧
      (source.filter logger format limit (state, log)).state =
        ((source.filter filter format limit state).state, log ++ parts.flatten) ∧
      List.Forall₂ belongs parts (source.record filter format limit state) := by
  obtain ⟨parts, result, same, each⟩ := logs.converse ⟨format, source.metadata⟩
    (Dialogue.visitor.document limit source) ⟨state, {}, #[]⟩ log
  rw [← Document.record_eq] at each
  refine ⟨parts, ?_, ?_, each⟩
  · rw [Document.walked, Document.walked, Document.filter_result, Document.filter_result,
      Document.record_eq, Document.record_eq, Document.walkStats_eq, Document.walkStats_eq]
    exact congr (congr (congrArg Document.Walked.mk (congrArg (fun outcome => outcome.1) result))
      same) (congrArg (fun outcome => outcome.2.stats) result)
  · rw [Document.filter_state, Document.filter_state]
    exact congrArg (fun outcome => outcome.2.state) result

/-- Walks are the same with and without a log, which has a part for each enquiry. -/
theorem walks (logs : logger.Logs filter belongs) (limit : Nat)
    (sources : List (Document × String)) (state : σ) (log : List β) :
    ∃ parts,
      Document.walks logger limit sources (state, log) =
        ((Document.walks filter limit sources state).1,
          (Document.walks filter limit sources state).2, log ++ parts.flatten) ∧
      List.Forall₂ belongs parts
        ((Document.walks filter limit sources state).1.flatMap Document.Walked.record) := by
  induction sources generalizing state log with
  | nil => exact ⟨[], by rw [List.flatten_nil, List.append_nil]; rfl, .nil⟩
  | cons first rest ih =>
      obtain ⟨source, format⟩ := first
      obtain ⟨parts, seen, left, each⟩ := logs.walked limit source format state log
      obtain ⟨others, result, following⟩ :=
        ih (source.filter filter format limit state).state (log ++ parts.flatten)
      refine ⟨parts ++ others, ?_, ?_⟩
      · rw [Document.walks, Document.walks, seen, left, result, List.flatten_append,
          List.append_assoc]
      · rw [Document.walks, List.flatMap_cons]
        exact List.rel_append each following

end NodeFilter.Logs

/-! ## Filters with states of their own -/

/-- A filter that has a state of its own among the states of many. -/
def NodeFilter.within {ι : Type} [DecidableEq ι] {states : ι → Type} (name : ι)
    (filter : NodeFilter (states name)) : NodeFilter ((leaf : ι) → states leaf) where
  block context node all :=
    let reply := filter.block context node (all name)
    ⟨reply.report, Function.update all name reply.state⟩
  inline context node all :=
    let reply := filter.inline context node (all name)
    ⟨reply.report, Function.update all name reply.state⟩

/-- Filters with any states of their own are put together to a chain of chains. The chain of
the leaves alone gives the same results on all walks in turn: it is offered the same nodes
and gives the same answers, the same is counted, and the filters are left in the same states.
In both chains the same leaves are asked in the same order, and at each node they are those
up to the first that fails or puts something in its place. -/
theorem Chain.walks_flat {ι : Type} [DecidableEq ι] {states : ι → Type}
    (members : (leaf : ι) → NodeFilter (states leaf)) (chain : Chain ι) (limit : Nat)
    (sources : List (Document × String)) (initial : (leaf : ι) → states leaf) :
    let member := fun leaf => (members leaf).within leaf
    let nested := Document.walks (chain.toFilter member) limit sources initial
    Document.walks (chain.flat.toFilter member) limit sources initial = nested ∧
      ∃ parts,
        Document.walks (chain.logging member) limit sources (initial, []) =
          (nested.1, nested.2, parts.flatten) ∧
        Document.walks (chain.flat.logging member) limit sources (initial, []) =
          (nested.1, nested.2, parts.flatten) ∧
        List.Forall₂ (Consulted chain.leaves) parts
          (nested.1.flatMap Document.Walked.record) := by
  intro member nested
  obtain ⟨parts, logged, each⟩ := (chain.logging_logs member).walks limit sources initial []
  rw [List.nil_append] at logged
  refine ⟨?_, parts, logged, ?_, each⟩
  · rw [toFilter_flat]
  · rw [logging, toFilter_flat]
    exact logged

end DocFilter
