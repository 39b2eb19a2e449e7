import DocFilter.Proofs.Document.Traverse
import DocFilter.Walk

/-!
# Visitors

What a walk does depends on nothing but what takes the place of each node. A
visitor says that, in any monad; a walk with a filter is the walk of the visitor
that asks the filter and counts.
-/

namespace DocFilter

/-- The nodes that stand in the place of a node after an action on it. -/
def Action.after {α : Type} (action : Action α) (node : α) : List α :=
  action.replacements?.getD [node]

/-- What takes the place of each node, and what happens where nodes are nested too
deeply. -/
structure Visitor (m : Type → Type) where
  inline : Inline → m (List Inline)
  block : Block → m (List Block)
  tooDeep {α : Type} : m α

namespace Visitor

section

variable {m : Type → Type} [Monad m]

/-- Rebuilds a list of nodes from what takes the place of each. -/
def splice {α : Type} (visit : α → m (List α)) (descend : α → m α) : List α → m (List α)
  | [] => return []
  | node :: rest => do
      let nodes ← visit node
      let rebuilt ← nodes.mapM descend
      let others ← splice visit descend rest
      return rebuilt ++ others

variable (visitor : Visitor m)

mutual

def descendBlock : Nat → Block → m Block
  | 0, _ => visitor.tooDeep
  | limit + 1, node =>
      node.traverse (splice visitor.inline (descendInline limit))
        (splice visitor.block (descendBlock limit))

def descendInline : Nat → Inline → m Inline
  | 0, _ => visitor.tooDeep
  | limit + 1, node =>
      node.traverse (splice visitor.inline (descendInline limit))
        (splice visitor.block (descendBlock limit))

end

def inlines (limit : Nat) : List Inline → m (List Inline) :=
  splice visitor.inline (visitor.descendInline limit)

def blocks (limit : Nat) : List Block → m (List Block) :=
  splice visitor.block (visitor.descendBlock limit)

def document (limit : Nat) (source : Document) : m Document :=
  source.traverse (visitor.inlines limit) (visitor.blocks limit)

end

/-! ## Simulation -/

/-- Relations of the nodes that two walks are to visit, to descend into, and get in
the end, each at so many levels below the limit. -/
structure Stages (α : Type) where
  offered : Nat → α → α → Prop
  pending : Nat → α → α → Prop
  rebuilt : Nat → α → α → Prop

variable {m n : Type → Type} [Monad m] [Monad n]

/-- Two visitors act in related ways on related nodes. -/
structure Simulation (relator : Relator m n) (first : Visitor m) (second : Visitor n)
    (inlines : Stages Inline) (blocks : Stages Block) : Prop where
  visitInline (limit : Nat) (x y : Inline) : inlines.offered limit x y →
    relator.rel (List.Forall₂ (inlines.pending limit)) (first.inline x) (second.inline y)
  visitBlock (limit : Nat) (x y : Block) : blocks.offered limit x y →
    relator.rel (List.Forall₂ (blocks.pending limit)) (first.block x) (second.block y)
  deepInline (x y : Inline) : inlines.pending 0 x y →
    relator.rel (inlines.rebuilt 0) first.tooDeep second.tooDeep
  deepBlock (x y : Block) : blocks.pending 0 x y →
    relator.rel (blocks.rebuilt 0) first.tooDeep second.tooDeep
  stepInline (limit : Nat) {f : List Inline → m (List Inline)} {g : List Inline → n (List Inline)}
    {h : List Block → m (List Block)} {k : List Block → n (List Block)} :
    (∀ xs ys, List.Forall₂ (inlines.offered limit) xs ys →
      relator.rel (List.Forall₂ (inlines.rebuilt limit)) (f xs) (g ys)) →
    (∀ xs ys, List.Forall₂ (blocks.offered limit) xs ys →
      relator.rel (List.Forall₂ (blocks.rebuilt limit)) (h xs) (k ys)) →
    ∀ x y, inlines.pending (limit + 1) x y →
      relator.rel (inlines.rebuilt (limit + 1)) (x.traverse f h) (y.traverse g k)
  stepBlock (limit : Nat) {f : List Inline → m (List Inline)} {g : List Inline → n (List Inline)}
    {h : List Block → m (List Block)} {k : List Block → n (List Block)} :
    (∀ xs ys, List.Forall₂ (inlines.offered limit) xs ys →
      relator.rel (List.Forall₂ (inlines.rebuilt limit)) (f xs) (g ys)) →
    (∀ xs ys, List.Forall₂ (blocks.offered limit) xs ys →
      relator.rel (List.Forall₂ (blocks.rebuilt limit)) (h xs) (k ys)) →
    ∀ x y, blocks.pending (limit + 1) x y →
      relator.rel (blocks.rebuilt (limit + 1)) (x.traverse f h) (y.traverse g k)

section

variable [LawfulMonad m] [LawfulMonad n] {relator : Relator m n}

/-- Lists are rebuilt in related ways if their nodes are. -/
theorem splice_rel {α : Type} {stages : Stages α} {limit : Nat} {visit : α → m (List α)}
    {visit' : α → n (List α)} {descend : α → m α} {descend' : α → n α}
    (visits : ∀ x y, stages.offered limit x y →
      relator.rel (List.Forall₂ (stages.pending limit)) (visit x) (visit' y))
    (descends : ∀ x y, stages.pending limit x y →
      relator.rel (stages.rebuilt limit) (descend x) (descend' y))
    {xs ys : List α} (each : List.Forall₂ (stages.offered limit) xs ys) :
    relator.rel (List.Forall₂ (stages.rebuilt limit)) (splice visit descend xs)
      (splice visit' descend' ys) := by
  induction each with
  | nil => exact relator.pure .nil
  | cons first rest ih =>
      refine relator.bind (visits _ _ first) fun nodes nodes' pending => ?_
      refine relator.bind (relator.mapM pending descends) fun rebuilt rebuilt' new => ?_
      refine relator.bind ih fun others others' following => ?_
      exact relator.pure (List.rel_append new following)

namespace Simulation

variable {first : Visitor m} {second : Visitor n} {inlines : Stages Inline}
  {blocks : Stages Block} (simulation : Simulation relator first second inlines blocks)

include simulation

/-- What holds of the lists one level further down holds of the nodes above them. -/
theorem descend (limit : Nat) :
    (∀ x y, inlines.pending limit x y →
      relator.rel (inlines.rebuilt limit) (first.descendInline limit x)
        (second.descendInline limit y)) ∧
    ∀ x y, blocks.pending limit x y →
      relator.rel (blocks.rebuilt limit) (first.descendBlock limit x)
        (second.descendBlock limit y) := by
  induction limit with
  | zero => exact ⟨simulation.deepInline, simulation.deepBlock⟩
  | succ limit ih =>
      obtain ⟨descendInline, descendBlock⟩ := ih
      have rebuildInlines : ∀ xs ys, List.Forall₂ (inlines.offered limit) xs ys →
          relator.rel (List.Forall₂ (inlines.rebuilt limit))
            (splice first.inline (first.descendInline limit) xs)
            (splice second.inline (second.descendInline limit) ys) :=
        fun xs ys => splice_rel (simulation.visitInline limit) descendInline
      have rebuildBlocks : ∀ xs ys, List.Forall₂ (blocks.offered limit) xs ys →
          relator.rel (List.Forall₂ (blocks.rebuilt limit))
            (splice first.block (first.descendBlock limit) xs)
            (splice second.block (second.descendBlock limit) ys) :=
        fun xs ys => splice_rel (simulation.visitBlock limit) descendBlock
      constructor
      · exact simulation.stepInline limit rebuildInlines rebuildBlocks
      · exact simulation.stepBlock limit rebuildInlines rebuildBlocks

theorem inlines_rel (limit : Nat) (xs ys : List Inline)
    (each : List.Forall₂ (inlines.offered limit) xs ys) :
    relator.rel (List.Forall₂ (inlines.rebuilt limit)) (first.inlines limit xs)
      (second.inlines limit ys) :=
  splice_rel (simulation.visitInline limit) (simulation.descend limit).1 each

theorem blocks_rel (limit : Nat) (xs ys : List Block)
    (each : List.Forall₂ (blocks.offered limit) xs ys) :
    relator.rel (List.Forall₂ (blocks.rebuilt limit)) (first.blocks limit xs)
      (second.blocks limit ys) :=
  splice_rel (simulation.visitBlock limit) (simulation.descend limit).2 each

/-- Walks of related documents are related if the visitors simulate each other. -/
theorem document (limit : Nat) {x y : Document}
    (alike : x.Alike (List.Forall₂ (inlines.offered limit))
      (List.Forall₂ (blocks.offered limit)) y) :
    relator.rel
      (Document.Alike (List.Forall₂ (inlines.rebuilt limit))
        (List.Forall₂ (blocks.rebuilt limit)))
      (first.document limit x) (second.document limit y) :=
  relator.traverseDocument (simulation.inlines_rel limit) (simulation.blocks_rel limit) alike

end Simulation

end

end Visitor

/-! ## The walk with a filter -/

namespace Walk

variable {σ : Type}

/-- Counts a node unless it stays, and says what stands in its place. -/
def settle {α : Type} (node : α) (action : Action α) : Walk σ (List α) := do
  if action.isReplace then countReplaced
  return action.after node

/-- Asks a filter what becomes of each node. -/
def visitor (filter : NodeFilter σ) (context : Context) : Visitor (Walk σ) where
  inline node := offerInline filter context node >>= settle node
  block node := offerBlock filter context node >>= settle node
  tooDeep := throw .tooDeep

theorem rebuild_eq_splice {α : Type} (offer : α → Walk σ (Action α)) (descend : α → Walk σ α)
    (nodes : List α) :
    rebuild offer descend nodes =
      Visitor.splice (fun node => offer node >>= settle node) descend nodes := by
  induction nodes with
  | nil => rfl
  | cons node rest ih =>
      rw [rebuild, Visitor.splice, ih, bind_assoc]
      congr 1
      funext action
      cases action with
      | keep => simp [settle, Action.isReplace, Action.isKeep, Action.after, Action.replacements?]
      | one replacement =>
          simp [settle, Action.isReplace, Action.isKeep, Action.after, Action.replacements?]
      | many replacements =>
          simp [settle, Action.isReplace, Action.isKeep, Action.after, Action.replacements?]

theorem descend_eq (filter : NodeFilter σ) (context : Context) (limit : Nat) :
    descendInline filter context limit = (visitor filter context).descendInline limit ∧
      descendBlock filter context limit = (visitor filter context).descendBlock limit := by
  induction limit with
  | zero =>
      constructor
      · funext node
        rfl
      · funext node
        rfl
  | succ limit ih =>
      obtain ⟨inlineEq, blockEq⟩ := ih
      have inlines : rebuild (offerInline filter context) (descendInline filter context limit) =
          (visitor filter context).inlines limit := by
        funext nodes
        rw [rebuild_eq_splice, inlineEq]
        rfl
      have blocks : rebuild (offerBlock filter context) (descendBlock filter context limit) =
          (visitor filter context).blocks limit := by
        funext nodes
        rw [rebuild_eq_splice, blockEq]
        rfl
      constructor
      · funext node
        rw [descendInline, inlines, blocks]
        rfl
      · funext node
        rw [descendBlock, inlines, blocks]
        rfl

/-- Walking a list of inlines is what the visitor does. -/
theorem inlines_eq (filter : NodeFilter σ) (context : Context) (limit : Nat) :
    inlines filter context limit = (visitor filter context).inlines limit := by
  funext nodes
  rw [inlines, rebuild_eq_splice, (descend_eq filter context limit).1]
  rfl

theorem blocks_eq (filter : NodeFilter σ) (context : Context) (limit : Nat) :
    blocks filter context limit = (visitor filter context).blocks limit := by
  funext nodes
  rw [blocks, rebuild_eq_splice, (descend_eq filter context limit).2]
  rfl

/-- The last notice of a walk. -/
def tellWalked (format : String) : Walk σ Unit :=
  modify fun progress =>
    let stats := progress.stats
    { progress with
      notices := progress.notices.push
        (.walked stats.blocks stats.inlines format stats.replaced) }

/-- Walking a document is what the visitor does, and a notice. -/
theorem document_eq (filter : NodeFilter σ) (format : String) (limit : Nat) (source : Document) :
    document filter format limit source = do
      let result ← (visitor filter ⟨format, source.metadata⟩).document limit source
      tellWalked format
      return result := by
  rw [document, inlines_eq, blocks_eq]
  rfl

end Walk

end DocFilter
