import DocFilter.Proofs.Document.Height
import DocFilter.Proofs.Walk.Visitor

/-!
# Dialogues

A walk is a dialogue: it names a node, is told what takes the node's place, and
goes on with that. The dialogue of a document is the same whoever answers. What
holds of every run of a walk is therefore proved by induction on the dialogue.
-/

namespace DocFilter

/-- A walk that waits for answers. -/
inductive Dialogue (α : Type) where
  | done (value : α)
  | tooDeep
  | inline (node : Inline) (next : List Inline → Dialogue α)
  | block (node : Block) (next : List Block → Dialogue α)

namespace Dialogue

variable {α β : Type}

/-- Goes on with the result of a dialogue. -/
protected def bind : Dialogue α → (α → Dialogue β) → Dialogue β
  | .done value, next => next value
  | .tooDeep, _ => .tooDeep
  | .inline node answered, next => .inline node fun nodes => (answered nodes).bind next
  | .block node answered, next => .block node fun nodes => (answered nodes).bind next

instance : Monad Dialogue where
  pure := .done
  bind := Dialogue.bind

theorem bind_done (dialogue : Dialogue α) : dialogue.bind .done = dialogue := by
  induction dialogue with
  | done value => rfl
  | tooDeep => rfl
  | inline node next ih => rw [Dialogue.bind, funext ih]
  | block node next ih => rw [Dialogue.bind, funext ih]

theorem bind_bind {γ : Type} (dialogue : Dialogue α) (f : α → Dialogue β)
    (g : β → Dialogue γ) : (dialogue.bind f).bind g = dialogue.bind fun a => (f a).bind g := by
  induction dialogue with
  | done value => rfl
  | tooDeep => rfl
  | inline node next ih => rw [Dialogue.bind, Dialogue.bind, Dialogue.bind, funext ih]
  | block node next ih => rw [Dialogue.bind, Dialogue.bind, Dialogue.bind, funext ih]

instance : LawfulMonad Dialogue :=
  LawfulMonad.mk' Dialogue bind_done (fun _ _ => rfl) bind_bind

/-- Asks about every node. -/
def visitor : Visitor Dialogue where
  inline node := .inline node .done
  block node := .block node .done
  tooDeep := .tooDeep

variable {m : Type → Type} [Monad m]

/-- Has a visitor answer. -/
def run (answers : Visitor m) : Dialogue α → m α
  | .done value => pure value
  | .tooDeep => answers.tooDeep
  | .inline node next => do
      let nodes ← answers.inline node
      run answers (next nodes)
  | .block node next => do
      let nodes ← answers.block node
      run answers (next nodes)

end Dialogue

/-- Nothing follows where nodes are nested too deeply. -/
def Visitor.Stops {m : Type → Type} [Monad m] (visitor : Visitor m) : Prop :=
  ∀ {α β : Type} (next : α → m β), visitor.tooDeep >>= next = visitor.tooDeep

namespace Dialogue

variable {m : Type → Type} [Monad m] [LawfulMonad m] {answers : Visitor m}

theorem run_bind (stops : answers.Stops) {α β : Type} (dialogue : Dialogue α)
    (next : α → Dialogue β) :
    (dialogue >>= next).run answers = dialogue.run answers >>= fun a => (next a).run answers := by
  induction dialogue with
  | done value => exact (pure_bind value fun a => (next a).run answers).symm
  | tooDeep => exact (stops _).symm
  | inline node later ih =>
      show (do
        let nodes ← answers.inline node
        (later nodes >>= next).run answers) = _
      rw [run, bind_assoc]
      exact congrArg _ (funext ih)
  | block node later ih =>
      show (do
        let nodes ← answers.block node
        (later nodes >>= next).run answers) = _
      rw [run, bind_assoc]
      exact congrArg _ (funext ih)

/-- A computation is related to a dialogue if it is the run of one that differs from it
only in its results, which are related. -/
def relator (stops : answers.Stops) : Relator m Dialogue where
  rel {α β} results x y := ∃ both : Dialogue {pair : α × β // results pair.1 pair.2},
    x = (do return (← both).1.1 : Dialogue α).run answers ∧ y = do return (← both).1.2
  pure {α β results a b} same := ⟨.done ⟨(a, b), same⟩, rfl, rfl⟩
  bind {α β γ δ results others x y f g} related follow := by
    obtain ⟨both, rfl, rfl⟩ := related
    choose next first second using fun pair : {pair : α × β // results pair.1 pair.2} =>
      follow pair.1.1 pair.1.2 pair.2
    refine ⟨both >>= next, ?_, ?_⟩
    · rw [bind_assoc, run_bind stops, run_bind stops, bind_assoc]
      congr 1
      funext pair
      show (pure pair.1.1 >>= f) = _
      rw [pure_bind, first]
    · rw [bind_assoc, bind_assoc]
      congr 1
      funext pair
      rw [pure_bind, second]

theorem eq_run_of_rel (stops : answers.Stops) {α : Type} {x : m α} {y : Dialogue α}
    (related : (relator stops).rel Eq x y) : x = y.run answers := by
  obtain ⟨both, rfl, rfl⟩ := related
  congr 2
  funext pair
  rw [pair.2]

theorem rel_run (stops : answers.Stops) {α : Type} (y : Dialogue α) :
    (relator stops).rel Eq (y.run answers) y := by
  refine ⟨y >>= fun a => .done ⟨(a, a), rfl⟩, ?_, ?_⟩
  · rw [bind_assoc]
    exact congrArg (run answers) (bind_pure y).symm
  · rw [bind_assoc]
    exact (bind_pure y).symm

/-- Equality of nodes at every stage. -/
def sameNodes (α : Type) : Visitor.Stages α := ⟨fun _ => Eq, fun _ => Eq, fun _ => Eq⟩

theorem simulation (stops : answers.Stops) :
    Visitor.Simulation (relator stops) answers visitor (sameNodes Inline)
      (sameNodes Block) where
  visitInline limit x y same := by
    cases same
    have related := rel_run stops (visitor.inline x)
    have run_inline : (visitor.inline x).run answers = answers.inline x :=
      bind_pure (answers.inline x)
    rw [run_inline] at related
    refine (relator stops).mono related fun nodes _ same => ?_
    cases same
    exact List.forall₂_same.mpr fun _ _ => rfl
  visitBlock limit x y same := by
    cases same
    have related := rel_run stops (visitor.block x)
    have run_block : (visitor.block x).run answers = answers.block x :=
      bind_pure (answers.block x)
    rw [run_block] at related
    refine (relator stops).mono related fun nodes _ same => ?_
    cases same
    exact List.forall₂_same.mpr fun _ _ => rfl
  deepInline x y same := rel_run stops .tooDeep
  deepBlock x y same := rel_run stops .tooDeep
  stepInline limit f g h k inlines blocks x y same := by
    cases same
    have alike : x.Alike (List.Forall₂ Eq) (List.Forall₂ Eq) x :=
      x.alike_refl List.forall₂_refl List.forall₂_refl
    have related := (relator stops).traverseInline inlines blocks alike
    exact (relator stops).mono related fun _ _ alike => alike.eq eq_of_forall₂_eq eq_of_forall₂_eq
  stepBlock limit f g h k inlines blocks x y same := by
    cases same
    have alike : x.Alike (List.Forall₂ Eq) (List.Forall₂ Eq) x :=
      x.alike_refl List.forall₂_refl List.forall₂_refl
    have related := (relator stops).traverseBlock inlines blocks alike
    exact (relator stops).mono related fun _ _ alike => alike.eq eq_of_forall₂_eq eq_of_forall₂_eq

/-- The walk of a list is the run of its dialogue. -/
theorem blocks_run (stops : answers.Stops) (limit : Nat) (content : List Block) :
    answers.blocks limit content = (visitor.blocks limit content).run answers := by
  have walked := (simulation stops).blocks_rel limit content content
    (List.forall₂_same.mpr fun _ _ => rfl)
  exact eq_run_of_rel stops ((relator stops).mono walked fun _ _ => eq_of_forall₂_eq _ _)

theorem inlines_run (stops : answers.Stops) (limit : Nat) (content : List Inline) :
    answers.inlines limit content = (visitor.inlines limit content).run answers := by
  have walked := (simulation stops).inlines_rel limit content content
    (List.forall₂_same.mpr fun _ _ => rfl)
  exact eq_run_of_rel stops ((relator stops).mono walked fun _ _ => eq_of_forall₂_eq _ _)

theorem document_run (stops : answers.Stops) (limit : Nat) (source : Document) :
    answers.document limit source = (visitor.document limit source).run answers := by
  have alike : source.Alike (List.Forall₂ Eq) (List.Forall₂ Eq) source :=
    source.alike_refl List.forall₂_refl List.forall₂_refl
  have related := (simulation stops).document limit alike
  refine eq_run_of_rel stops ((relator stops).mono related fun _ _ alike => ?_)
  exact alike.eq eq_of_forall₂_eq eq_of_forall₂_eq

end Dialogue

end DocFilter
