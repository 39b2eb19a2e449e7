import DocFilter.Proofs.Document.Marked
import DocFilter.Proofs.Walk.Limit

/-!
# Walks that mark code

Code has no children, so it makes no difference to the rest of a walk whether code
is replaced by markup on the way, before it, or after it.
-/

namespace DocFilter

variable {marking : Marking}

/-- One inline is the other with code replaced by markup. -/
def Inline.Becomes (marking : Marking) (x y : Inline) : Prop := y = x.marked marking

def Block.Becomes (marking : Marking) (x y : Block) : Prop := y = x.marked marking

theorem Inline.becomes_all {xs ys : List Inline}
    (each : List.Forall₂ (Inline.Becomes marking) xs ys) : ys = Inline.markedAll marking xs :=
  (eq_map_of_forall₂ each).trans (Inline.markedAll_eq xs).symm

theorem Block.becomes_all {xs ys : List Block}
    (each : List.Forall₂ (Block.Becomes marking) xs ys) : ys = Block.markedAll marking xs :=
  (eq_map_of_forall₂ each).trans (Block.markedAll_eq xs).symm

theorem Inline.markedAll_becomes (content : List Inline) :
    List.Forall₂ (Inline.Becomes marking) content (Inline.markedAll marking content) := by
  rw [Inline.markedAll_eq]
  exact forall₂_map_self content fun _ _ => rfl

theorem Block.markedAll_becomes (content : List Block) :
    List.Forall₂ (Block.Becomes marking) content (Block.markedAll marking content) := by
  rw [Block.markedAll_eq]
  exact forall₂_map_self content fun _ _ => rfl

/-! ## Code -/

theorem Inline.exists_of_kind_code {inline : Inline} (code : inline.kind = .code) :
    ∃ attr text, inline = .code attr text := by
  cases inline with
  | code attr text => exact ⟨attr, text, rfl⟩
  | _ => cases code

theorem Block.exists_of_kind_code {block : Block} (code : block.kind = .code) :
    ∃ attr text, block = .code attr text := by
  cases block with
  | code attr text => exact ⟨attr, text, rfl⟩
  | _ => cases code

theorem Block.kind_marked_ne_table {marking : Marking} {block : Block}
    (other : block.kind ≠ .table) : (block.marked marking).kind ≠ .table := by
  cases block with
  | table table => exact absurd rfl other
  | _ => exact nofun

section

variable {ε ε' : Type} {halts : ε → ε' → Prop}
  {inlinesIn : List Inline → List Inline → Prop} {blocksIn : List Block → List Block → Prop}
  {f : List Inline → Except ε (List Inline)} {g : List Inline → Except ε' (List Inline)}
  {h : List Block → Except ε (List Block)} {k : List Block → Except ε' (List Block)}

/-- The first of two outcomes that agree is the one it is. -/
theorem Agree.and_left {α β : Type} {results : α → β → Prop} {x : Except ε α} {y : Except ε' β}
    (agree : Agree halts results x y) :
    Agree halts (fun a b => x = .ok a ∧ results a b) x y := by
  cases agree with
  | ok same => exact .ok ⟨rfl, same⟩
  | error same => exact .error same

/-- A result and its image under a function are the outcomes of one computation. -/
theorem Agree.eq_map {α β : Type} {f : α → β} {x : Except ε α} {y : Except ε β}
    (agree : Agree Eq (fun a b => b = f a) x y) : y = x.map f := by
  cases agree with
  | ok same => exact congrArg _ same
  | error same => exact congrArg _ same.symm

theorem Agree.exists_error {α β : Type} {results : α → β → Prop} {e : ε} {y : Except ε' β}
    (agree : Agree halts results (.error e) y) : ∃ e', halts e e' := by
  cases agree with
  | error same => exact ⟨_, same⟩

theorem Agree.map_left {α β : Type} {f : α → β} {x : Except ε α} {y : Except ε' β}
    (agree : Agree halts (fun a b => b = f a) x y) :
    Agree halts (fun a b => a = b) (x.map f) y := by
  cases agree with
  | ok same => exact .ok same.symm
  | error same => exact .error same

variable
  (inlines : ∀ xs ys, inlinesIn xs ys →
    Agree halts (List.Forall₂ (Inline.Becomes marking)) (f xs) (g ys))
  (blocks : ∀ xs ys, blocksIn xs ys →
    Agree halts (List.Forall₂ (Block.Becomes marking)) (h xs) (k ys))

include inlines blocks

/-- If lists are rebuilt with code replaced, an inline is. -/
theorem Inline.traverse_becomes {x y : Inline}
    (pending : x.kind ≠ .code ∧ x.Alike inlinesIn blocksIn y ∨
      x.kind = .code ∧ x.Becomes marking y) :
    Agree halts (Inline.Becomes marking) (x.traverse f h) (y.traverse g k) := by
  rcases pending with ⟨other, alike⟩ | ⟨code, same⟩
  · have related := (Relator.agree halts).traverseInline inlines blocks alike
    refine (Relator.agree halts).mono related.and_left fun a b both => ?_
    obtain ⟨traversed, alike⟩ := both
    -- What is rebuilt is of the kind it was, and so no code either.
    have kind := Inline.kind_eq_of_traverse traversed
    exact alike.eq_marked (fun _ _ => Inline.becomes_all) (fun _ _ => Block.becomes_all)
      (kind ▸ other)
  · obtain ⟨attr, text, rfl⟩ := Inline.exists_of_kind_code code
    cases same
    exact .ok rfl

theorem Block.traverse_becomes {x y : Block}
    (pending : x.kind ≠ .code ∧ x.Alike inlinesIn blocksIn y ∨
      x.kind = .code ∧ x.Becomes marking y) :
    Agree halts (Block.Becomes marking) (x.traverse f h) (y.traverse g k) := by
  rcases pending with ⟨other, alike⟩ | ⟨code, same⟩
  · have related := (Relator.agree halts).traverseBlock inlines blocks alike
    refine (Relator.agree halts).mono related.and_left fun a b both => ?_
    obtain ⟨traversed, alike⟩ := both
    have kind := Block.kind_eq_of_traverse traversed
    exact alike.eq_marked (fun _ _ => Inline.becomes_all) (fun _ _ => Block.becomes_all)
      (kind ▸ other)
  · obtain ⟨attr, text, rfl⟩ := Block.exists_of_kind_code code
    cases same
    exact .ok rfl

end

/-! ## Code replaced on the way -/

/-- Code is replaced by markup, and all else is kept. -/
def Marking.answers (marking : Marking) : Answers where
  inline
    | .code attr text => .ok (.one (.raw marking.format (marking.inline attr text)))
    | _ => .ok .keep
  block
    | .code attr text => .ok (.one (.raw marking.format (marking.block attr text)))
    | _ => .ok .keep

namespace Marking

theorem answers_inline_code {inline : Inline} (code : inline.kind = .code) :
    marking.answers.inline inline = .ok (.one (inline.marked marking)) := by
  obtain ⟨attr, text, rfl⟩ := Inline.exists_of_kind_code code
  rfl

theorem answers_inline_other {inline : Inline} (other : inline.kind ≠ .code) :
    marking.answers.inline inline = .ok .keep := by
  cases inline with
  | code attr text => exact absurd rfl other
  | _ => rfl

theorem answers_block_code {block : Block} (code : block.kind = .code) :
    marking.answers.block block = .ok (.one (block.marked marking)) := by
  obtain ⟨attr, text, rfl⟩ := Block.exists_of_kind_code code
  rfl

theorem answers_block_other {block : Block} (other : block.kind ≠ .code) :
    marking.answers.block block = .ok .keep := by
  cases block with
  | code attr text => exact absurd rfl other
  | _ => rfl

/-- Markup is as tall as code. -/
theorem answers_lowers (marking : Marking) : marking.answers.Lowers where
  inline node action answered := by
    by_cases code : node.kind = .code
    · obtain ⟨attr, text, rfl⟩ := Inline.exists_of_kind_code code
      cases answered
      exact List.forall_mem_singleton.mpr (Nat.le_refl 1)
    · cases (answers_inline_other code).symm.trans answered
      exact List.forall_mem_singleton.mpr (Nat.le_refl node.height)
  block node action answered := by
    by_cases code : node.kind = .code
    · obtain ⟨attr, text, rfl⟩ := Block.exists_of_kind_code code
      cases answered
      exact List.forall_mem_singleton.mpr (Nat.le_refl 1)
    · cases (answers_block_other code).symm.trans answered
      exact List.forall_mem_singleton.mpr (Nat.le_refl node.height)

end Marking

namespace Answers

/-- No node is replaced by code. -/
structure AvoidsCode (answers : Answers) : Prop where
  inline (node : Inline) {action : Action Inline} : answers.inline node = .ok action →
    ∀ others, action.replacements? = some others → ∀ other ∈ others, other.kind ≠ .code
  block (node : Block) {action : Action Block} : answers.block node = .ok action →
    ∀ others, action.replacements? = some others → ∀ other ∈ others, other.kind ≠ .code

/-- The node that is visited is the same, and it or what takes its place is the same
up to code that is replaced. -/
def fused {α : Type} (code : α → Prop) (marked : α → α) : Visitor.Stages α where
  offered _ x y := x = y
  pending _ x y := ¬ code x ∧ x = y ∨ code x ∧ y = marked x
  rebuilt _ x y := y = marked x

theorem visit_fused {α : Type} {code : α → Prop} {marked : α → α} {limit : Nat}
    {first second : α → Except Error (Action α)}
    (avoids : ∀ (node : α) {action : Action α}, first node = .ok action →
      ∀ others, action.replacements? = some others → ∀ other ∈ others, ¬ code other)
    (marks : ∀ node, code node → second node = .ok (.one (marked node)))
    (keeps : ∀ node, ¬ code node → second node = .ok .keep)
    (x y : α) (same : (fused code marked).offered limit x y) :
    Agree Eq (List.Forall₂ ((fused code marked).pending limit)) (nodes x (first x))
      (nodes y (either (first y) (second y))) := by
  cases same
  cases answered : first x with
  | error error => exact .error rfl
  | ok action =>
      cases action with
      | keep =>
          by_cases found : code x
          · have marked := marks x found
            rw [either, marked]
            exact .ok (.cons (.inr ⟨found, rfl⟩) .nil)
          · have kept := keeps x found
            rw [either, kept]
            exact .ok (.cons (.inl ⟨found, rfl⟩) .nil)
      | one replacement =>
          have other := avoids x answered _ rfl replacement List.mem_cons_self
          exact .ok (.cons (.inl ⟨other, rfl⟩) .nil)
      | many replacements =>
          have others := avoids x answered _ rfl
          exact .ok (List.forall₂_same.mpr fun other member => .inl ⟨others other member, rfl⟩)

theorem fused_self {α : Type} {code : α → Prop} {marked : α → α} {limit : Nat} (nodes : List α) :
    List.Forall₂ ((fused code marked).offered limit) nodes nodes :=
  List.forall₂_same.mpr fun _ _ => rfl

variable {answers : Answers}

/-- Replacing code on the way does the same as replacing it in the end. -/
theorem AvoidsCode.simulation (avoids : answers.AvoidsCode) (marking : Marking) :
    Visitor.Simulation (Relator.agree Eq) answers.visitor
      (answers.orElse marking.answers).visitor
      (fused (fun inline => inline.kind = .code) (Inline.marked marking))
      (fused (fun block => block.kind = .code) (Block.marked marking)) where
  visitInline _ :=
    visit_fused avoids.inline (fun _ => Marking.answers_inline_code)
      fun _ => Marking.answers_inline_other
  visitBlock _ :=
    visit_fused avoids.block (fun _ => Marking.answers_block_code)
      fun _ => Marking.answers_block_other
  deepInline _ _ _ := .error rfl
  deepBlock _ _ _ := .error rfl
  stepInline limit _ _ _ _ inlines blocks x y pending := by
    apply Inline.traverse_becomes inlines blocks
    rcases pending with ⟨other, same⟩ | marked
    · cases same
      exact .inl ⟨other, x.alike_refl fused_self fused_self⟩
    · exact .inr marked
  stepBlock limit _ _ _ _ inlines blocks x y pending := by
    apply Block.traverse_becomes inlines blocks
    rcases pending with ⟨other, same⟩ | marked
    · cases same
      exact .inl ⟨other, x.alike_refl fused_self fused_self⟩
    · exact .inr marked

variable {source : Document} {limit : Nat}

/-- A walk that replaces code where it comes upon it ends as one that leaves code alone,
with code replaced then. -/
theorem AvoidsCode.document_orElse (avoids : answers.AvoidsCode) (marking : Marking) :
    (answers.orElse marking.answers).visitor.document limit source =
      (answers.visitor.document limit source).map (Document.marked marking) := by
  have related := (avoids.simulation marking).document limit
    (source.alike_refl fused_self fused_self)
  have marked := (Relator.agree Eq).mono related fun _ _ alike =>
    alike.eq_marked (fun _ _ => Inline.becomes_all) (fun _ _ => Block.becomes_all)
  exact marked.eq_map

/-- A document that is low enough is walked with its code replaced and nothing else. -/
theorem document_marking (marking : Marking) (fits : source.height ≤ limit) :
    marking.answers.visitor.document limit source = .ok (source.marked marking) := by
  have avoids : keep.AvoidsCode := by
    constructor
    · rintro node action ⟨⟩ others ⟨⟩
    · rintro node action ⟨⟩ others ⟨⟩
  have fused : (keep.orElse marking.answers).visitor.document limit source =
      (keep.visitor.document limit source).map (Document.marked marking) :=
    avoids.document_orElse marking
  rwa [keep_document fits] at fused

/-! ## Code replaced before -/

/-- Equal nodes up to code that is replaced in the second one. -/
def replaced {α : Type} (marked : α → α) : Visitor.Stages α where
  offered _ x y := y = marked x
  pending _ x y := y = marked x
  rebuilt _ x y := y = marked x

/-- What becomes of a node does not depend on whether code was replaced before, except for
errors. -/
structure Commutes (answers : Answers) (marking : Marking) (halts : Halt → Halt → Prop) :
    Prop where
  inline (node : Inline) :
    Agree halts (List.Forall₂ (Inline.Becomes marking)) (nodes node (answers.inline node))
      (nodes (node.marked marking) (answers.inline (node.marked marking)))
  block (node : Block) :
    Agree halts (List.Forall₂ (Block.Becomes marking)) (nodes node (answers.block node))
      (nodes (node.marked marking) (answers.block (node.marked marking)))
  tooDeep : halts .tooDeep .tooDeep

/-- Replacing code before does the same as replacing it in the end. -/
theorem Commutes.simulation {halts : Halt → Halt → Prop}
    (commutes : answers.Commutes marking halts) :
    Visitor.Simulation (Relator.agree halts) answers.visitor answers.visitor
      (replaced (Inline.marked marking)) (replaced (Block.marked marking)) where
  visitInline _ x _ same := by
    cases same
    exact commutes.inline x
  visitBlock _ x _ same := by
    cases same
    exact commutes.block x
  deepInline _ _ _ := .error commutes.tooDeep
  deepBlock _ _ _ := .error commutes.tooDeep
  stepInline limit _ _ _ _ inlines blocks x y same := by
    apply Inline.traverse_becomes inlines blocks
    by_cases code : x.kind = .code
    · exact .inr ⟨code, same⟩
    · cases same
      exact .inl ⟨code, x.alike_marked Inline.markedAll_becomes Block.markedAll_becomes code⟩
  stepBlock limit _ _ _ _ inlines blocks x y same := by
    apply Block.traverse_becomes inlines blocks
    by_cases code : x.kind = .code
    · exact .inr ⟨code, same⟩
    · cases same
      exact .inl ⟨code, x.alike_marked Inline.markedAll_becomes Block.markedAll_becomes code⟩

/-- A walk of a document with its code replaced ends as one of the document itself, with
code replaced then. -/
theorem Commutes.document_marked {halts : Halt → Halt → Prop}
    (commutes : answers.Commutes marking halts) :
    Agree halts (fun result other => other = result.marked marking)
      (answers.visitor.document limit source)
      (answers.visitor.document limit (source.marked marking)) := by
  have related := commutes.simulation.document limit
    (source.alike_marked Inline.markedAll_becomes Block.markedAll_becomes)
  exact (Relator.agree halts).mono related fun _ _ alike =>
    alike.eq_marked (fun _ _ => Inline.becomes_all) (fun _ _ => Block.becomes_all)

end Answers

end DocFilter
