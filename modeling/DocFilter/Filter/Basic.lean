import DocFilter.Report

/-!
# Filters

A filter is asked about one node at a time and says what becomes of it. It
never goes into the node: that is the walk's part. A filter may have a state,
and keeps it whether or not it fails.
-/

namespace DocFilter

/-- What becomes of a node. -/
inductive Action (α : Type) where
  | keep
  /-- Another node takes its place. -/
  | one (replacement : α)
  /-- Any number of nodes take its place. -/
  | many (replacements : List α)

namespace Action

variable {α : Type}

/-- The node stays. -/
def isKeep : Action α → Bool
  | .keep => true
  | _ => false

/-- Something takes the place of the node, be it nothing at all. -/
def isReplace (action : Action α) : Bool := !action.isKeep

def replacements? : Action α → Option (List α)
  | .keep => none
  | .one replacement => some [replacement]
  | .many replacements => some replacements

end Action

/-- What filters know besides the node. -/
structure Context where
  /-- The format that the document is to be written in. -/
  format : String
  /-- The metadata of the document as it was before filtering. -/
  metadata : Metadata

/-- What a filter answers: an action or an error, notices, and its new state. -/
structure Reply (σ α : Type) where
  report : Report (Action α)
  state : σ

/-- A filter with states in `σ`. -/
structure NodeFilter (σ : Type) where
  block : Context → Block → σ → Reply σ Block
  inline : Context → Inline → σ → Reply σ Inline

namespace Reply

variable {σ α : Type}

/-- Asks one filter, and another one if the first keeps the node. -/
def orElse (first : Reply σ α) (second : σ → Reply σ α) : Reply σ α :=
  match first.report.outcome with
  | .ok .keep =>
      let following := second first.state
      { following with
        report := ⟨following.report.outcome, first.report.notices ++ following.report.notices⟩ }
  | _ => first

/-- A filter that keeps the node in silence leaves the answer to the other. -/
theorem keep_orElse (state : σ) (second : σ → Reply σ α) :
    orElse ⟨⟨.ok .keep, []⟩, state⟩ second = second state := by
  simp [orElse]

/-- Asking a filter that keeps the node in silence changes no answer. -/
theorem orElse_keep (first : Reply σ α) :
    (first.orElse fun state => ⟨⟨.ok .keep, []⟩, state⟩) = first := by
  obtain ⟨⟨outcome, notices⟩, state⟩ := first
  unfold orElse
  split
  next kept => simp_all
  next => rfl

/-- Three filters are asked in the same order however they are grouped. -/
theorem orElse_assoc (first : Reply σ α) (second third : σ → Reply σ α) :
    (first.orElse second).orElse third =
      first.orElse fun state => (second state).orElse third := by
  obtain ⟨⟨outcome, notices⟩, state⟩ := first
  match outcome with
  | .error _ => rfl
  | .ok (.one _) => rfl
  | .ok (.many _) => rfl
  | .ok .keep =>
      simp only [orElse]
      generalize second state = following
      obtain ⟨⟨outcome, more⟩, state⟩ := following
      match outcome with
      | .error _ => rfl
      | .ok (.one _) => rfl
      | .ok (.many _) => rfl
      | .ok .keep => simp

end Reply

namespace NodeFilter

variable {σ : Type}

def stateless (block : Context → Block → Report (Action Block))
    (inline : Context → Inline → Report (Action Inline)) : NodeFilter σ where
  block context node state := ⟨block context node, state⟩
  inline context node state := ⟨inline context node, state⟩

/-- The filter that keeps every node. -/
def identity : NodeFilter σ :=
  stateless (fun _ _ => pure .keep) (fun _ _ => pure .keep)

/-- Asks one filter, and another one about what the first keeps. -/
def orElse (first second : NodeFilter σ) : NodeFilter σ where
  block context node state :=
    (first.block context node state).orElse (second.block context node)
  inline context node state :=
    (first.inline context node state).orElse (second.inline context node)

/-- The filter that keeps every node leaves every answer to the other. -/
@[simp] theorem identity_orElse (filter : NodeFilter σ) : identity.orElse filter = filter := by
  simp only [orElse, identity, stateless, Report.pure_eq, Reply.keep_orElse]

/-- Asking the filter that keeps every node last changes nothing. -/
@[simp] theorem orElse_identity (filter : NodeFilter σ) : filter.orElse identity = filter := by
  simp only [orElse, identity, stateless, Report.pure_eq, Reply.orElse_keep]

/-- Three filters are one, however they are grouped. -/
theorem orElse_assoc (first second third : NodeFilter σ) :
    (first.orElse second).orElse third = first.orElse (second.orElse third) := by
  simp only [orElse, Reply.orElse_assoc]

/-- Asks filters in order, up to the first that does not keep the node. -/
def chain (filters : List (NodeFilter σ)) : NodeFilter σ :=
  filters.foldr orElse identity

end NodeFilter

end DocFilter
