import DocFilter.Proofs.Success
import DocFilter.Proofs.Walk.Counting
import DocFilter.Proofs.Walk.Nesting
import Mathlib.Algebra.GroupWithZero.Nat

/-!
# Siblings

With a filter that has no state, the walk of two lists in a row is the walk of the first and
then that of the second, as if each were walked alone: results are put one after the other,
counts are added up, and the first error ends the walk. So each node makes room for itself,
and no node has an influence on its siblings.
-/

namespace DocFilter

/-! ## Counts -/

instance : Add WalkStats where
  add first second :=
    { blocks := first.blocks + second.blocks
      inlines := first.inlines + second.inlines
      replaced := first.replaced + second.replaced }

theorem WalkStats.after_eq_add (stats : WalkStats) (offers : List Offer) :
    stats.after offers = stats + after {} offers := by
  show stats.after offers = WalkStats.mk _ _ _
  simp only [after, Nat.zero_add]

/-! ## Lists in a row -/

/-- Two lists in a row are rebuilt one after the other. -/
theorem Visitor.splice_append {m : Type → Type} [Monad m] [LawfulMonad m] {α : Type}
    (visit : α → m (List α)) (descend : α → m α) (xs ys : List α) :
    splice visit descend (xs ++ ys) = do
      let rebuilt ← splice visit descend xs
      let others ← splice visit descend ys
      return rebuilt ++ others := by
  induction xs with
  | nil =>
      rw [List.nil_append, splice, pure_bind]
      exact (bind_pure _).symm
  | cons node rest ih =>
      simp only [List.cons_append, splice, ih, bind_assoc, pure_bind, List.append_assoc]

theorem Walk.converse_bind {σ α β : Type} (filter : NodeFilter σ) (context : Context)
    (first : Dialogue α) (next : α → Dialogue β) (progress : Progress σ) :
    converse filter context (first >>= next) progress =
      match converse filter context first progress with
      | (.ok value, after) => converse filter context (next value) after
      | (.error halt, after) => (.error halt, after) := by
  rw [converse, Dialogue.run_bind (visitor_stops filter context), run_bind]
  rfl

/-! ## Room -/

/-- The number of nodes in the place of a node after an action on it. -/
def Action.width {α : Type} : Action α → Nat
  | .keep => 1
  | .one _ => 1
  | .many replacements => replacements.length

theorem Action.length_after {α : Type} (action : Action α) (node : α) :
    (action.after node).length = action.width := by
  cases action with
  | keep => rfl
  | one replacement => rfl
  | many replacements => rfl

/-- A list that was rebuilt has, for each node, as many as the answer about it asks for. -/
theorem Answers.exists_of_splice {α : Type} {answer : α → Except Error (Action α)}
    {descend : α → Except Halt α} {content rebuilt : List α}
    (walked : Visitor.splice (fun node => nodes node (answer node)) descend content =
      .ok rebuilt) :
    ∃ actions, List.Forall₂ (fun node action => answer node = .ok action) content actions ∧
      rebuilt.length = (actions.map Action.width).sum := by
  induction content generalizing rebuilt with
  | nil =>
      cases walked
      exact ⟨[], .nil, rfl⟩
  | cons node rest ih =>
      rw [Visitor.splice] at walked
      obtain ⟨after, visited, walked⟩ := exists_of_bind_eq_ok walked
      obtain ⟨those, descended, walked⟩ := exists_of_bind_eq_ok walked
      obtain ⟨others, following, walked⟩ := exists_of_bind_eq_ok walked
      cases walked
      obtain ⟨actions, each, length⟩ := ih following
      cases answered : answer node with
      | error error =>
          rw [answered] at visited
          cases visited
      | ok action =>
          rw [answered] at visited
          cases visited
          refine ⟨action :: actions, .cons answered each, ?_⟩
          have width := (forall₂_of_mapM descended).length_eq
          rw [Action.length_after] at width
          rw [List.length_append, List.map_cons, List.sum_cons, length, width]

/-! ## Walks from any state -/

namespace NodeFilter.Gives

variable {σ α : Type} {context : Context} {filter : NodeFilter σ} {answers : Answers}

/-- What is offered does not depend on how far the walk has come. -/
theorem offersOf_eq (gives : filter.Gives context answers) (dialogue : Dialogue α)
    (progress other : Progress σ) :
    Walk.offersOf filter context dialogue progress =
      Walk.offersOf filter context dialogue other := by
  induction dialogue generalizing progress other with
  | done value => rfl
  | tooDeep => rfl
  | inline node next ih =>
      rw [Walk.offersOf, Walk.offersOf, Walk.offerOfInline, Walk.offerOfInline, gives.inline,
        gives.inline, nodes_eq (gives.inline node progress.state) node,
        nodes_eq (gives.inline node other.state) node]
      cases Answers.nodes node (answers.inline node) with
      | error halt => rfl
      | ok nodes => exact congrArg (_ :: ·) (ih nodes _ _)
  | block node next ih =>
      rw [Walk.offersOf, Walk.offersOf, Walk.offerOfBlock, Walk.offerOfBlock, gives.block,
        gives.block, nodes_eq (gives.block node progress.state) node,
        nodes_eq (gives.block node other.state) node]
      cases Answers.nodes node (answers.block node) with
      | error halt => rfl
      | ok nodes => exact congrArg (_ :: ·) (ih nodes _ _)

/-- A walk adds to the counts what it counts when it starts anew. -/
theorem converse_stats_eq_add (gives : filter.Gives context answers) (dialogue : Dialogue α)
    (progress : Progress σ) (state : σ) :
    (Walk.converse filter context dialogue progress).2.stats =
      progress.stats + (Walk.converse filter context dialogue ⟨state, {}, #[]⟩).2.stats := by
  rw [Walk.converse_stats, Walk.converse_stats, WalkStats.after_eq_add,
    gives.offersOf_eq dialogue progress ⟨state, {}, #[]⟩]

end NodeFilter.Gives

/-! ## Ends of walks -/

/-- A walk that a new walker makes ends so, if only its limit is high enough. -/
def Walk.Ends {σ α : Type} (walk : Nat → Walk σ α) (state : σ) (result : Except Error α)
    (stats : WalkStats) : Prop :=
  ∃ enough, ∀ limit, enough ≤ limit →
    ((walk limit).run { state }).1 = result.mapError .failed ∧
      ((walk limit).run { state }).2.stats = stats

/-- A walk ends in no more than one way. -/
theorem Walk.Ends.unique {σ α : Type} {walk : Nat → Walk σ α} {state : σ}
    {result other : Except Error α} {stats others : WalkStats}
    (ends : Ends walk state result stats) (also : Ends walk state other others) :
    result = other ∧ stats = others := by
  obtain ⟨enough, walked⟩ := ends
  obtain ⟨more, again⟩ := also
  obtain ⟨ended, rfl⟩ := walked (max enough more) (Nat.le_max_left enough more)
  obtain ⟨same, rfl⟩ := again (max enough more) (Nat.le_max_right enough more)
  rw [ended] at same
  refine ⟨?_, rfl⟩
  cases result <;> cases other <;> cases same <;> rfl

/-- Siblings are walked independently and put in order. -/
structure Walk.Independent {α : Type} (answer : α → Except Error (Action α))
    (ends : List α → Except Error (List α) → WalkStats → Prop) : Prop where
  /-- Two lists in a row are walked to the end exactly if each of them is. -/
  ok_iff : ∀ xs ys result stats, ends (xs ++ ys) (.ok result) stats ↔
    ∃ first firstStats second secondStats,
      ends xs (.ok first) firstStats ∧ ends ys (.ok second) secondStats ∧
        result = first ++ second ∧ stats = firstStats + secondStats
  /-- They fail as the first fails or, if that does not, as the second fails. -/
  error_iff : ∀ xs ys error stats, ends (xs ++ ys) (.error error) stats ↔
    ends xs (.error error) stats ∨
      ∃ first firstStats secondStats,
        ends xs (.ok first) firstStats ∧ ends ys (.error error) secondStats ∧
          stats = firstStats + secondStats
  /-- There is one end at most. -/
  unique : ∀ content result stats other others, ends content result stats →
    ends content other others → result = other ∧ stats = others
  /-- For each node there are as many as the answer about it asks for. -/
  length : ∀ content result stats, ends content (.ok result) stats →
    ∃ actions, List.Forall₂ (fun node action => answer node = .ok action) content actions ∧
      result.length = (actions.map Action.width).sum

/-- A walk of lists that is held in dialogues, each of which is the dialogue of one part and
then that of the other, and goes deeper with a higher limit. -/
structure Walk.OfLists {σ α : Type} (filter : NodeFilter σ) (context : Context)
    (answers : Answers) (answer : α → Except Error (Action α))
    (walk : Nat → List α → Walk σ (List α)) (talk : Nat → List α → Dialogue (List α)) :
    Prop where
  gives : filter.Gives context answers
  run : ∀ limit content progress, (walk limit content).run progress =
    converse filter context (talk limit content) progress
  append : ∀ limit xs ys, talk limit (xs ++ ys) = do
    let rebuilt ← talk limit xs
    let others ← talk limit ys
    return rebuilt ++ others
  deepens : ∀ limit more content, limit ≤ more →
    Dialogue.Deepens True Eq (talk limit content) (talk more content)
  splice : ∀ limit content, ∃ descend, (talk limit content).run answers.visitor =
    Visitor.splice (fun node => Answers.nodes node (answer node)) descend content

namespace Walk.OfLists

variable {σ α : Type} {filter : NodeFilter σ} {context : Context} {answers : Answers}
  {answer : α → Except Error (Action α)} {walk : Nat → List α → Walk σ (List α)}
  {talk : Nat → List α → Dialogue (List α)} {limit : Nat} {xs : List α} (ys : List α) {state : σ}

/-- If the walk of the first list fails, so does the walk of both. -/
theorem append_error (lists : OfLists filter context answers answer walk talk) {halt : Halt}
    (failed : ((walk limit xs).run { state }).1 = .error halt) :
    ((walk limit (xs ++ ys)).run { state }).1 = .error halt ∧
      ((walk limit (xs ++ ys)).run { state }).2.stats =
        ((walk limit xs).run { state }).2.stats := by
  rw [lists.run] at failed
  rw [lists.run, lists.run, lists.append, converse_bind]
  generalize converse filter context (talk limit xs) { state } = outcome at failed ⊢
  obtain ⟨result, after⟩ := outcome
  cases failed
  exact ⟨rfl, rfl⟩

/-- If it does not, the second list is walked as if it were alone. -/
theorem append_ok (lists : OfLists filter context answers answer walk talk) {first : List α}
    (walked : ((walk limit xs).run { state }).1 = .ok first) :
    ((walk limit (xs ++ ys)).run { state }).1 =
        ((walk limit ys).run { state }).1.map (first ++ ·) ∧
      ((walk limit (xs ++ ys)).run { state }).2.stats =
        ((walk limit xs).run { state }).2.stats + ((walk limit ys).run { state }).2.stats := by
  rw [lists.run] at walked
  rw [lists.run, lists.run, lists.run, lists.append, converse_bind]
  generalize converse filter context (talk limit xs) { state } = outcome at walked ⊢
  obtain ⟨result, after⟩ := outcome
  cases walked
  have same : (converse filter context (talk limit ys) { state }).1 =
      (converse filter context (talk limit ys) after).1 := by
    rw [lists.gives.converse_result, lists.gives.converse_result]
  have stats := lists.gives.converse_stats_eq_add (talk limit ys) after state
  dsimp only
  rw [converse_bind, same, ← stats]
  generalize converse filter context (talk limit ys) after = second
  obtain ⟨result, final⟩ := second
  cases result with
  | ok others => exact ⟨rfl, rfl⟩
  | error halt => exact ⟨rfl, rfl⟩

/-- A walk that was not stopped by its limit ends so. -/
theorem ends_of_run (lists : OfLists filter context answers answer walk talk)
    {result : Except Error (List α)}
    (walked : ((walk limit xs).run { state }).1 = result.mapError .failed) :
    Ends (walk · xs) state result ((walk limit xs).run { state }).2.stats := by
  refine ⟨limit, fun more above => ?_⟩
  have finished : ((walk limit xs).run { state }).1 ≠ .error .tooDeep := by
    rw [walked]
    cases result <;> exact nofun
  rw [lists.run] at finished
  have same : (walk more xs).run { state } = (walk limit xs).run { state } := by
    rw [lists.run, lists.run]
    exact ((lists.deepens limit more xs above).converse _ (.inl trivial) fun _ => finished).2
  rw [same]
  exact ⟨walked, rfl⟩

theorem ends_append_ok (lists : OfLists filter context answers answer walk talk)
    {result : List α} {stats : WalkStats} :
    Ends (walk · (xs ++ ys)) state (.ok result) stats ↔
      ∃ first firstStats second secondStats,
        Ends (walk · xs) state (.ok first) firstStats ∧
          Ends (walk · ys) state (.ok second) secondStats ∧
            result = first ++ second ∧ stats = firstStats + secondStats := by
  constructor
  · rintro ⟨limit, walked⟩
    obtain ⟨ended, rfl⟩ := walked limit (Nat.le_refl limit)
    cases parted : ((walk limit xs).run { state }).1 with
    | error halt =>
        rw [(lists.append_error ys parted).1] at ended
        cases ended
    | ok first =>
        obtain ⟨joined, stats⟩ := lists.append_ok ys parted
        rw [joined] at ended
        obtain ⟨second, walked, same⟩ := exists_of_map_eq_ok ended
        exact ⟨first, _, second, _, lists.ends_of_run parted, lists.ends_of_run walked,
          same.symm, stats⟩
  · rintro ⟨first, _, second, _, ⟨enough, walked⟩, ⟨more, others⟩, rfl, rfl⟩
    refine ⟨max enough more, fun limit above => ?_⟩
    obtain ⟨ended, rfl⟩ := walked limit (Nat.le_trans (Nat.le_max_left enough more) above)
    obtain ⟨following, rfl⟩ := others limit (Nat.le_trans (Nat.le_max_right enough more) above)
    obtain ⟨joined, stats⟩ := lists.append_ok ys ended
    rw [joined, following]
    exact ⟨rfl, stats⟩

theorem ends_append_error (lists : OfLists filter context answers answer walk talk)
    {error : Error} {stats : WalkStats} :
    Ends (walk · (xs ++ ys)) state (.error error) stats ↔
      Ends (walk · xs) state (.error error) stats ∨
        ∃ first firstStats secondStats,
          Ends (walk · xs) state (.ok first) firstStats ∧
            Ends (walk · ys) state (.error error) secondStats ∧
              stats = firstStats + secondStats := by
  constructor
  · rintro ⟨limit, walked⟩
    obtain ⟨ended, rfl⟩ := walked limit (Nat.le_refl limit)
    cases parted : ((walk limit xs).run { state }).1 with
    | error halt =>
        obtain ⟨failed, stats⟩ := lists.append_error ys parted
        rw [failed] at ended
        rw [stats]
        exact .inl (lists.ends_of_run (parted.trans ended))
    | ok first =>
        obtain ⟨joined, stats⟩ := lists.append_ok ys parted
        have failed : ((walk limit ys).run { state }).1 = .error (.failed error) := by
          rw [joined] at ended
          cases walked : ((walk limit ys).run { state }).1 with
          | ok second =>
              rw [walked] at ended
              cases ended
          | error halt =>
              rw [walked] at ended
              exact ended
        exact .inr ⟨first, _, _, lists.ends_of_run parted, lists.ends_of_run failed, stats⟩
  · rintro (⟨enough, walked⟩ | ⟨first, _, _, ⟨enough, walked⟩, ⟨more, others⟩, rfl⟩)
    · refine ⟨enough, fun limit above => ?_⟩
      obtain ⟨ended, rfl⟩ := walked limit above
      exact lists.append_error ys ended
    · refine ⟨max enough more, fun limit above => ?_⟩
      obtain ⟨ended, rfl⟩ := walked limit (Nat.le_trans (Nat.le_max_left enough more) above)
      obtain ⟨failed, rfl⟩ := others limit (Nat.le_trans (Nat.le_max_right enough more) above)
      obtain ⟨joined, stats⟩ := lists.append_ok ys ended
      rw [joined, failed]
      exact ⟨rfl, stats⟩

theorem independent (lists : OfLists filter context answers answer walk talk) (state : σ) :
    Independent answer fun content => Ends (walk · content) state where
  ok_iff _ ys _ _ := lists.ends_append_ok ys
  error_iff _ ys _ _ := lists.ends_append_error ys
  unique _ _ _ _ _ := Ends.unique
  length content result stats := by
    rintro ⟨limit, walked⟩
    obtain ⟨ended, -⟩ := walked limit (Nat.le_refl limit)
    obtain ⟨descend, spliced⟩ := lists.splice limit content
    rw [lists.run, lists.gives.converse_result, spliced] at ended
    exact Answers.exists_of_splice ended

end Walk.OfLists

/-- The answers of a filter without a state. -/
def Answers.ofReports (context : Context) (block : Context → Block → Report (Action Block))
    (inline : Context → Inline → Report (Action Inline)) : Answers where
  block node := (block context node).outcome
  inline node := (inline context node).outcome

section

variable {σ : Type} (block : Context → Block → Report (Action Block))
  (inline : Context → Inline → Report (Action Inline)) (context : Context)

theorem NodeFilter.stateless_gives :
    (stateless (σ := σ) block inline).Gives context (.ofReports context block inline) where
  inline _ _ := rfl
  block _ _ := rfl

theorem Walk.blocks_ofLists :
    OfLists (σ := σ) (.stateless block inline) context (.ofReports context block inline)
      (fun node => (block context node).outcome)
      (blocks (.stateless block inline) context) Dialogue.visitor.blocks where
  gives := NodeFilter.stateless_gives block inline context
  run limit content progress := by
    rw [blocks_eq, Dialogue.blocks_run (visitor_stops _ context), converse]
  append _ := Visitor.splice_append _ _
  deepens limit more content above := by
    have deeper := Dialogue.blocks_deepens (Dialogue.descend_deepens True above).2 content content
      (Dialogue.blocks_pending (.inl trivial))
    exact (Dialogue.deepening True).mono deeper fun _ _ => eq_of_forall₂_eq _ _
  splice limit content := by
    rw [← Dialogue.blocks_run (Answers.visitor_stops _)]
    exact ⟨_, rfl⟩

theorem Walk.inlines_ofLists :
    OfLists (σ := σ) (.stateless block inline) context (.ofReports context block inline)
      (fun node => (inline context node).outcome)
      (inlines (.stateless block inline) context) Dialogue.visitor.inlines where
  gives := NodeFilter.stateless_gives block inline context
  run limit content progress := by
    rw [inlines_eq, Dialogue.inlines_run (visitor_stops _ context), converse]
  append _ := Visitor.splice_append _ _
  deepens limit more content above := by
    have deeper := Dialogue.inlines_deepens (Dialogue.descend_deepens True above).1 content content
      (Dialogue.inlines_pending (.inl trivial))
    exact (Dialogue.deepening True).mono deeper fun _ _ => eq_of_forall₂_eq _ _
  splice limit content := by
    rw [← Dialogue.inlines_run (Answers.visitor_stops _)]
    exact ⟨_, rfl⟩

/-- With a filter without a state, siblings are walked independently of each other, blocks as
well as inlines. The walk of two lists in a row ends well if and only if the walks of both
do; then the results are put one after the other and the counts are added. If it fails, it is
with the error of the first list or else that of the second. The list that comes of it has
one node for each that is kept or replaced by one, and for any other as many as replace it. -/
theorem Walk.independent_siblings (state : σ) :
    let filter : NodeFilter σ := .stateless block inline
    Independent (fun node => (block context node).outcome)
        (fun content => Ends (blocks filter context · content) state) ∧
      Independent (fun node => (inline context node).outcome)
        (fun content => Ends (inlines filter context · content) state) :=
  ⟨(blocks_ofLists block inline context).independent state,
    (inlines_ofLists block inline context).independent state⟩

end

end DocFilter
