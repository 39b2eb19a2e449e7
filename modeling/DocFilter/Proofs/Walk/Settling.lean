import DocFilter.Proofs.Success
import DocFilter.Proofs.Walk.Counting

/-!
# Walks that leave nothing to do

A walk does not offer what takes the place of a node, but only the nodes inside it. It
leaves nothing to do nevertheless if neither a node that is kept nor one that takes the
place of another is due itself, and none becomes due when its lists are rebuilt.
-/

namespace DocFilter

/-! ## Lists that are rebuilt -/

/-- The nodes of a rebuilt list come from what took the place of the nodes before. -/
theorem Visitor.exists_of_splice {ε α : Type} {visit : α → Except ε (List α)}
    {descend : α → Except ε α} {nodes results : List α}
    (spliced : splice visit descend nodes = .ok results) {result : α}
    (member : result ∈ results) :
    ∃ node ∈ nodes, ∃ others, visit node = .ok others ∧
      ∃ other ∈ others, descend other = .ok result := by
  induction nodes generalizing results with
  | nil =>
      cases spliced
      cases member
  | cons node rest ih =>
      rw [splice] at spliced
      obtain ⟨taking, first, spliced⟩ := exists_of_bind_eq_ok spliced
      obtain ⟨rebuilt, mapped, spliced⟩ := exists_of_bind_eq_ok spliced
      obtain ⟨others, following, spliced⟩ := exists_of_bind_eq_ok spliced
      cases spliced
      rcases List.mem_append.mp member with here | later
      · have descended := exists_of_forall₂ (forall₂_of_mapM mapped) here
        exact ⟨node, List.mem_cons_self, taking, first, descended⟩
      · obtain ⟨source, listed, made⟩ := ih following later
        exact ⟨source, List.mem_cons_of_mem node listed, made⟩

theorem Visitor.forall_of_splice {ε α : Type} {visit : α → Except ε (List α)}
    {descend : α → Except ε α} {taken made : α → Prop}
    (visited : ∀ node nodes, visit node = .ok nodes → ∀ other ∈ nodes, taken other)
    (descended : ∀ x y, taken x → descend x = .ok y → made y) {nodes results : List α}
    (spliced : splice visit descend nodes = .ok results) : ∀ result ∈ results, made result := by
  intro result member
  obtain ⟨node, -, others, first, other, listed, rebuilt⟩ := exists_of_splice spliced member
  exact descended other result (visited node others first other listed) rebuilt

/-! ## Nodes that are due -/

/-- A list that is empty stays so. -/
def Block.StaysEmpty (xs ys : List Block) : Prop := xs = [] → ys = []

namespace Answers

theorem exists_of_nodes_eq_ok {α : Type} {node : α} {answer : Except Error (Action α)}
    {others : List α} (visited : nodes node answer = .ok others) :
    ∃ action, answer = .ok action ∧ action.after node = others := by
  cases answer with
  | error error => cases visited
  | ok action =>
      cases visited
      exact ⟨action, rfl, rfl⟩

/-- What a node becomes is not due, and no node becomes due when its lists are rebuilt such
that empty ones stay empty. -/
structure Settles (answers : Answers) (due : Node → Prop) : Prop where
  inline (node : Inline) {action : Action Inline} : answers.inline node = .ok action →
    ∀ other ∈ action.after node, ¬ due (.inline other)
  block (node : Block) {action : Action Block} : answers.block node = .ok action →
    ∀ other ∈ action.after node, ¬ due (.block other)
  rebuiltInline {x y : Inline} : x.Alike (fun _ _ => True) Block.StaysEmpty y →
    due (.inline y) → due (.inline x)
  rebuiltBlock {x y : Block} : x.Alike (fun _ _ => True) Block.StaysEmpty y →
    due (.block y) → due (.block x)

namespace Settles

variable {answers : Answers} {due : Node → Prop} {limit : Nat}

theorem visited {α : Type} {answer : α → Except Error (Action α)} {taken : α → Prop}
    (settled : ∀ (node : α) {action : Action α}, answer node = .ok action →
      ∀ other ∈ action.after node, taken other)
    (node : α) (others : List α) (visited : nodes node (answer node) = .ok others) :
    ∀ other ∈ others, taken other := by
  obtain ⟨action, answered, rfl⟩ := exists_of_nodes_eq_ok visited
  exact settled node answered

theorem inlines (settles : answers.Settles due)
    (descended : ∀ x y : Inline, ¬ due (.inline x) →
      answers.visitor.descendInline limit x = .ok y →
        ∀ node ∈ Node.inline y :: y.inner, ¬ due node)
    (xs ys : List Inline) (walked : answers.visitor.inlines limit xs = .ok ys) :
    ∀ node ∈ Inline.nodesOf ys, ¬ due node := by
  rw [Inline.nodesOf_eq, List.forall_mem_flatMap]
  exact Visitor.forall_of_splice (visited settles.inline) descended walked

theorem blocks (settles : answers.Settles due)
    (descended : ∀ x y : Block, ¬ due (.block x) →
      answers.visitor.descendBlock limit x = .ok y →
        ∀ node ∈ Node.block y :: y.inner, ¬ due node)
    (xs ys : List Block) (walked : answers.visitor.blocks limit xs = .ok ys) :
    ∀ node ∈ Block.nodesOf ys, ¬ due node := by
  rw [Block.nodesOf_eq, List.forall_mem_flatMap]
  exact Visitor.forall_of_splice (visited settles.block) descended walked

theorem blocks_staysEmpty (xs ys : List Block)
    (walked : answers.visitor.blocks limit xs = .ok ys) : Block.StaysEmpty xs ys := by
  rintro rfl
  cases walked
  rfl

/-- If a node is not due, neither is the node that it becomes, nor any node inside that. -/
theorem descend (settles : answers.Settles due) (limit : Nat) :
    (∀ x y : Inline, ¬ due (.inline x) → answers.visitor.descendInline limit x = .ok y →
      ∀ node ∈ Node.inline y :: y.inner, ¬ due node) ∧
    ∀ x y : Block, ¬ due (.block x) → answers.visitor.descendBlock limit x = .ok y →
      ∀ node ∈ Node.block y :: y.inner, ¬ due node := by
  induction limit with
  | zero =>
      constructor
      · rintro x y - ⟨⟩
      · rintro x y - ⟨⟩
  | succ limit ih =>
      have inlines := settles.inlines ih.1
      have blocks := settles.blocks ih.2
      constructor
      · intro x y calm walked
        -- The same traversal is read twice: for the node itself and for the nodes inside it.
        have frame : x.Alike (fun _ _ => True) Block.StaysEmpty y :=
          Inline.alike_of_traverse (fun _ _ _ => trivial) blocks_staysEmpty walked
        have inside := Inline.alike_of_traverse inlines blocks walked
        exact List.forall_mem_cons.mpr
          ⟨fun again => calm (settles.rebuiltInline frame again),
            inside.forall_inner (fun _ _ held => held) fun _ _ held => held⟩
      · intro x y calm walked
        have frame : x.Alike (fun _ _ => True) Block.StaysEmpty y :=
          Block.alike_of_traverse (fun _ _ _ => trivial) blocks_staysEmpty walked
        have inside := Block.alike_of_traverse inlines blocks walked
        exact List.forall_mem_cons.mpr
          ⟨fun again => calm (settles.rebuiltBlock frame again),
            inside.forall_inner (fun _ _ held => held) fun _ _ held => held⟩

/-- No node of a document that comes of a walk is due. -/
theorem document (settles : answers.Settles due) {source result : Document}
    (walked : answers.visitor.document limit source = .ok result) :
    ∀ node ∈ result.nodes, ¬ due node := by
  obtain ⟨descendInline, descendBlock⟩ := settles.descend limit
  have inside := Document.alike_of_traverse (settles.inlines descendInline)
    (settles.blocks descendBlock) walked
  exact inside.forall_nodes (fun _ _ held => held) fun _ _ held => held

end Settles

end Answers

end DocFilter
