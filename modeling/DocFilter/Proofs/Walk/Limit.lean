import DocFilter.Proofs.Walk.Nesting

/-!
# The limit of a walk

What comes of a walk is no higher than the limit of the walk. A document that is
no higher than the limit is walked without noticing it, if nothing is replaced by
anything taller.
-/

namespace DocFilter

theorem Agree.refl {ε α : Type} {halts : ε → ε → Prop} {results : α → α → Prop}
    {x : Except ε α} (sameHalt : ∀ e, x = .error e → halts e e)
    (sameResult : ∀ a, x = .ok a → results a a) : Agree halts results x x := by
  cases x with
  | ok a => exact .ok (sameResult a rfl)
  | error e => exact .error (sameHalt e rfl)

/-! ## Results -/

namespace Visitor

/-- Equal nodes, no higher than the limit once they are rebuilt. -/
def reached {α : Type} (height : α → Nat) : Stages α where
  offered _ x y := x = y
  pending _ x y := x = y
  rebuilt limit x y := x = y ∧ height y ≤ limit

variable {limit : Nat}

theorem offered_self {α : Type} {height : α → Nat} (limit : Nat) (nodes : List α) :
    List.Forall₂ ((reached height).offered limit) nodes nodes :=
  List.forall₂_same.mpr fun _ _ => rfl

theorem visit_reached {α : Type} {height : α → Nat} (visit : α → Except Halt (List α))
    (x y : α)
    (same : (reached height).offered limit x y) :
    Agree Eq (List.Forall₂ ((reached height).pending limit)) (visit x) (visit y) := by
  cases same
  exact Agree.refl (fun _ _ => rfl) fun nodes _ => List.forall₂_same.mpr fun _ _ => rfl

theorem inlines_reached {xs ys : List Inline}
    (each : List.Forall₂ ((reached Inline.height).rebuilt limit) xs ys) :
    xs = ys ∧ Inline.tallest ys ≤ limit := by
  constructor
  · exact eq_of_forall₂ (fun _ _ both => both.1) each
  · exact Inline.tallest_le_iff.mpr (forall_of_forall₂ (fun _ _ both => both.2) each)

theorem blocks_reached {xs ys : List Block}
    (each : List.Forall₂ ((reached Block.height).rebuilt limit) xs ys) :
    xs = ys ∧ Block.tallest ys ≤ limit := by
  constructor
  · exact eq_of_forall₂ (fun _ _ both => both.1) each
  · exact Block.tallest_le_iff.mpr (forall_of_forall₂ (fun _ _ both => both.2) each)

end Visitor

namespace Answers

variable {answers : Answers} {source : Document} {limit : Nat}

/-- A walk is like itself, and what it rebuilds is low. -/
theorem reaches (answers : Answers) :
    Visitor.Simulation (Relator.agree Eq) answers.visitor answers.visitor
      (Visitor.reached Inline.height) (Visitor.reached Block.height) where
  visitInline _ := Visitor.visit_reached answers.visitor.inline
  visitBlock _ := Visitor.visit_reached answers.visitor.block
  deepInline _ _ _ := .error rfl
  deepBlock _ _ _ := .error rfl
  stepInline limit _ _ _ _ inlines blocks x _ same := by
    cases same
    have related := (Relator.agree Eq).traverseInline inlines blocks
      (x.alike_refl (Visitor.offered_self limit) (Visitor.offered_self limit))
    refine (Relator.agree Eq).mono related fun a b alike => ?_
    constructor
    · exact alike.eq (fun _ _ each => (Visitor.inlines_reached each).1)
        (fun _ _ each => (Visitor.blocks_reached each).1)
    · exact alike.height_le (fun _ _ each => (Visitor.inlines_reached each).2)
        (fun _ _ each => (Visitor.blocks_reached each).2)
  stepBlock limit _ _ _ _ inlines blocks x _ same := by
    cases same
    have related := (Relator.agree Eq).traverseBlock inlines blocks
      (x.alike_refl (Visitor.offered_self limit) (Visitor.offered_self limit))
    refine (Relator.agree Eq).mono related fun a b alike => ?_
    constructor
    · exact alike.eq (fun _ _ each => (Visitor.inlines_reached each).1)
        (fun _ _ each => (Visitor.blocks_reached each).1)
    · exact alike.height_le (fun _ _ each => (Visitor.inlines_reached each).2)
        (fun _ _ each => (Visitor.blocks_reached each).2)

/-- What comes of a walk is no higher than the limit. -/
theorem height_le_of_document {result : Document}
    (walked : answers.visitor.document limit source = .ok result) : result.height ≤ limit := by
  have related := answers.reaches.document limit
    (source.alike_refl (Visitor.offered_self limit) (Visitor.offered_self limit))
  rw [walked] at related
  cases related with
  | ok alike =>
      exact alike.height_le (fun _ _ each => (Visitor.inlines_reached each).2)
        (fun _ _ each => (Visitor.blocks_reached each).2)

/-! ## Walks that do not notice their limit -/

/-- Nothing is replaced by anything taller. -/
structure Lowers (answers : Answers) : Prop where
  inline (node : Inline) {action : Action Inline} : answers.inline node = .ok action →
    ∀ other ∈ action.after node, other.height ≤ node.height
  block (node : Block) {action : Action Block} : answers.block node = .ok action →
    ∀ other ∈ action.after node, other.height ≤ node.height

theorem keep_lowers : keep.Lowers where
  inline node action kept := by
    cases kept
    exact List.forall_mem_singleton.mpr (Nat.le_refl node.height)
  block node action kept := by
    cases kept
    exact List.forall_mem_singleton.mpr (Nat.le_refl node.height)

theorem eq_ok_of_either {α : Type} {first second : Except Error (Action α)} {action : Action α}
    (answered : either first second = .ok action) :
    first = .ok action ∨ second = .ok action := by
  cases first with
  | error error => cases answered
  | ok given =>
      cases given with
      | keep => exact .inr answered
      | one replacement => exact .inl answered
      | many replacements => exact .inl answered

theorem Lowers.orElse {first second : Answers} (lowers : first.Lowers) (lowers' : second.Lowers) :
    (first.orElse second).Lowers where
  inline node action answered := by
    rcases eq_ok_of_either answered with given | given
    · exact lowers.inline node given
    · exact lowers'.inline node given
  block node action answered := by
    rcases eq_ok_of_either answered with given | given
    · exact lowers.block node given
    · exact lowers'.block node given

theorem Lowers.gives {σ : Type} {filter : NodeFilter σ} {context : Context}
    (lowers : answers.Lowers) (gives : filter.Gives context answers) :
    filter.Lowers context where
  inline node state action outcome others replaced := by
    have low := lowers.inline node ((gives.inline node state).symm.trans outcome)
    rwa [Action.after, replaced] at low
  block node state action outcome others replaced := by
    have low := lowers.block node ((gives.block node state).symm.trans outcome)
    rwa [Action.after, replaced] at low

def filter (answers : Answers) : NodeFilter Unit :=
  .stateless (fun _ node => ⟨answers.block node, []⟩) (fun _ node => ⟨answers.inline node, []⟩)

theorem filter_gives (answers : Answers) (context : Context) :
    answers.filter.Gives context answers where
  inline _ _ := rfl
  block _ _ := rfl

/-- A walk of a document that is low enough does not stop because of the limit. -/
theorem Lowers.document_ne_tooDeep (lowers : answers.Lowers) (fits : source.height ≤ limit) :
    answers.visitor.document limit source ≠ .error .tooDeep := by
  have gives := answers.filter_gives ⟨"", source.metadata⟩
  rw [← gives.result ()]
  exact (Document.filter_of_lowers (lowers.gives gives) fits).1

end Answers

end DocFilter
