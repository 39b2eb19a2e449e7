import DocFilter.Proofs.Document.Covering
import DocFilter.Proofs.Walk.Limit
import DocFilter.Proofs.Walk.Settling

/-!
# Walks that add nothing

If whatever takes the place of a node is no deeper than the node, and no floating point
number comes with it, the same holds of the document that comes of a walk.
-/

namespace DocFilter.Answers

/-- What takes the place of a node is covered by the node. -/
structure Covers (answers : Answers) : Prop where
  inline (node : Inline) {action : Action Inline} : answers.inline node = .ok action →
    ∀ other ∈ action.after node, node.toJson.Covers other.toJson
  block (node : Block) {action : Action Block} : answers.block node = .ok action →
    ∀ other ∈ action.after node, node.toJson.Covers other.toJson

theorem keep_covers : keep.Covers where
  inline node action kept := by
    cases kept
    exact List.forall_mem_singleton.mpr (.refl node.toJson)
  block node action kept := by
    cases kept
    exact List.forall_mem_singleton.mpr (.refl node.toJson)

namespace Covers

theorem orElse {first second : Answers} (covers : first.Covers) (covers' : second.Covers) :
    (first.orElse second).Covers where
  inline node action answered := by
    rcases eq_ok_of_either answered with given | given
    · exact covers.inline node given
    · exact covers'.inline node given
  block node action answered := by
    rcases eq_ok_of_either answered with given | given
    · exact covers.block node given
    · exact covers'.block node given

/-- Whatever takes the place of some node and is rebuilt is covered by that node. -/
theorem exists_covering {α : Type} {write : α → Json} {answer : α → Except Error (Action α)}
    {descend : α → Except Halt α}
    (covers : ∀ (node : α) {action : Action α}, answer node = .ok action →
      ∀ other ∈ action.after node, (write node).Covers (write other))
    (descended : ∀ x y : α, descend x = .ok y → (write x).Covers (write y)) {xs ys : List α}
    (walked : Visitor.splice (fun node => nodes node (answer node)) descend xs = .ok ys) :
    ∀ y ∈ ys, ∃ x ∈ xs, (write x).Covers (write y) := by
  intro y member
  obtain ⟨x, listed, others, visited, other, taken, rebuilt⟩ :=
    Visitor.exists_of_splice walked member
  obtain ⟨action, answered, rfl⟩ := exists_of_nodes_eq_ok visited
  exact ⟨x, listed, (covers x answered other taken).trans (descended other y rebuilt)⟩

variable {answers : Answers} {limit : Nat}

theorem inlines (covers : answers.Covers)
    (descended : ∀ x y : Inline, answers.visitor.descendInline limit x = .ok y →
      x.toJson.Covers y.toJson)
    (xs ys : List Inline) (walked : answers.visitor.inlines limit xs = .ok ys) :
    Inline.CoverAll xs ys :=
  Inline.coverAll_of_forall (exists_covering covers.inline descended walked)

theorem blocks (covers : answers.Covers)
    (descended : ∀ x y : Block, answers.visitor.descendBlock limit x = .ok y →
      x.toJson.Covers y.toJson)
    (xs ys : List Block) (walked : answers.visitor.blocks limit xs = .ok ys) :
    Block.CoverAll xs ys :=
  Block.coverAll_of_forall (exists_covering covers.block descended walked)

/-- What a node is rebuilt as is covered by the node. -/
theorem descend (covers : answers.Covers) (limit : Nat) :
    (∀ x y : Inline, answers.visitor.descendInline limit x = .ok y →
      x.toJson.Covers y.toJson) ∧
    ∀ x y : Block, answers.visitor.descendBlock limit x = .ok y → x.toJson.Covers y.toJson := by
  induction limit with
  | zero =>
      constructor
      · rintro x y ⟨⟩
      · rintro x y ⟨⟩
  | succ limit ih =>
      have inlines := covers.inlines ih.1
      have blocks := covers.blocks ih.2
      constructor
      · intro x y walked
        exact (Inline.alike_of_traverse inlines blocks walked).covers
      · intro x y walked
        exact (Block.alike_of_traverse inlines blocks walked).covers

/-- A document that comes of a walk is covered by the one before, and in order like that. -/
theorem document (covers : answers.Covers) {source result : Document}
    (walked : answers.visitor.document limit source = .ok result) :
    source.toJson.Covers result.toJson ∧ (source.Sorted → result.Sorted) := by
  obtain ⟨descendInline, descendBlock⟩ := covers.descend limit
  have alike := Document.alike_of_traverse (covers.inlines descendInline)
    (covers.blocks descendBlock) walked
  exact ⟨alike.covers, alike.sorted⟩

end Covers

end DocFilter.Answers
