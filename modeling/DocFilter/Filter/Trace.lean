import DocFilter.Filter.Basic

/-!
# Traces

A filter can be watched: each node it is asked about is recorded together with
the answer.
-/

namespace DocFilter

/-- What a filter answered about a node. -/
inductive Answer where
  | keep
  | one
  | many (count : Nat)
  | error
  deriving DecidableEq

/-- The answer, without the replacements. -/
def Answer.ofOutcome {α : Type} : Except Error (Action α) → Answer
  | .ok .keep => .keep
  | .ok (.one _) => .one
  | .ok (.many replacements) => .many replacements.length
  | .error _ => .error

/-- A node that a filter was asked about, and the answer. -/
structure Offer where
  node : Node
  answer : Answer

def Node.tag : Node → String
  | .inline value => value.kind.tag
  | .block value => value.kind.tag

namespace NodeFilter

variable {σ : Type}

/-- The same filter, which also remembers what it was asked about. -/
def traced (filter : NodeFilter σ) : NodeFilter (σ × Array Offer) where
  block context node state :=
    let reply := filter.block context node state.1
    ⟨reply.report,
      (reply.state, state.2.push ⟨.block node, .ofOutcome reply.report.outcome⟩)⟩
  inline context node state :=
    let reply := filter.inline context node state.1
    ⟨reply.report,
      (reply.state, state.2.push ⟨.inline node, .ofOutcome reply.report.outcome⟩)⟩

end NodeFilter

end DocFilter
