import DocFilter.Proofs.Walk.Counting

/-!
# Calls of one walker

A walker can be called many times, for lists of nodes and for metadata. It goes on counting
from call to call, and the filter keeps its state, whether or not a call failed. At each time
the counts are those of the enquiries made until then, and a call fails if and only if its
last enquiry does, which is the only one in it that can.
-/

namespace DocFilter

/-- What one call of a walker is about, or what it returns. -/
inductive Call where
  | blocks (content : List Block)
  | inlines (content : List Inline)
  | metadata (entries : Metadata)
  | metaValue (value : MetaValue)

def Visitor.call {m : Type → Type} [Monad m] (visitor : Visitor m) (limit : Nat) :
    Call → m Call
  | .blocks content => return .blocks (← visitor.blocks limit content)
  | .inlines content => return .inlines (← visitor.inlines limit content)
  | .metadata entries =>
      return .metadata
        (← MetaValue.traverseEntries (visitor.inlines limit) (visitor.blocks limit) entries)
  | .metaValue value =>
      return .metaValue (← value.traverse (visitor.inlines limit) (visitor.blocks limit))

/-- The walk of a call is the run of its dialogue. -/
theorem Dialogue.call_run {m : Type → Type} [Monad m] [LawfulMonad m] {answers : Visitor m}
    (stops : answers.Stops) (limit : Nat) (call : Call) :
    answers.call limit call = (visitor.call limit call).run answers := by
  have inlines := (simulation stops).inlines_rel limit
  have blocks := (simulation stops).blocks_rel limit
  apply eq_run_of_rel stops
  cases call with
  | blocks content =>
      have walked := blocks content content (List.forall₂_same.mpr fun _ _ => rfl)
      exact (relator stops).map walked fun _ _ each =>
        congrArg Call.blocks (eq_of_forall₂_eq _ _ each)
  | inlines content =>
      have walked := inlines content content (List.forall₂_same.mpr fun _ _ => rfl)
      exact (relator stops).map walked fun _ _ each =>
        congrArg Call.inlines (eq_of_forall₂_eq _ _ each)
  | metadata entries =>
      have alike : MetaValue.AlikeEntries (List.Forall₂ Eq) (List.Forall₂ Eq) entries entries :=
        MetaValue.alike_self_entries (fun content _ => List.forall₂_refl content)
          (fun content _ => List.forall₂_refl content) entries (Nat.le_refl _)
      exact (relator stops).map ((relator stops).traverseEntries inlines blocks alike)
        fun _ _ alike => congrArg Call.metadata (alike.eq eq_of_forall₂_eq eq_of_forall₂_eq)
  | metaValue value =>
      have alike : value.Alike (List.Forall₂ Eq) (List.Forall₂ Eq) value :=
        MetaValue.alike_self (fun content _ => List.forall₂_refl content)
          (fun content _ => List.forall₂_refl content) value (Nat.le_refl _)
      exact (relator stops).map ((relator stops).traverseMeta inlines blocks alike)
        fun _ _ alike => congrArg Call.metaValue (alike.eq eq_of_forall₂_eq eq_of_forall₂_eq)

theorem WalkStats.after_append (stats : WalkStats) (first others : List Offer) :
    stats.after (first ++ others) = (stats.after first).after others := by
  simp only [after, List.countP_append, Nat.add_assoc]

theorem Enquiry.isReplacement_offer (enquiry : Enquiry) :
    enquiry.offer.answer.isReplacement = enquiry.replaces := by
  obtain ⟨node, outcome⟩ := enquiry
  rcases outcome with error | action
  · rfl
  · cases action <;> rfl

/-- What a new walker has counted after these enquiries. -/
theorem WalkStats.after_enquiries (asked : List Enquiry) :
    after {} (asked.map Enquiry.offer) =
      { blocks := asked.countP fun enquiry => enquiry.node.isBlock
        inlines := asked.countP fun enquiry => enquiry.node.isInline
        replaced := asked.countP Enquiry.replaces } := by
  simp only [after, List.countP_map, Nat.zero_add, Function.comp_def,
    Enquiry.isReplacement_offer]
  rfl

namespace Walk

variable {σ : Type}

section

variable (filter : NodeFilter σ) (context : Context) (limit : Nat)

def perform : Call → Walk σ Call
  | .blocks content => return .blocks (← blocks filter context limit content)
  | .inlines content => return .inlines (← inlines filter context limit content)
  | .metadata entries => return .metadata (← metadata filter context limit entries)
  | .metaValue value => return .metaValue (← metaValue filter context limit value)

def performAll : List Call → Progress σ → Progress σ
  | [], progress => progress
  | call :: rest, progress => performAll rest ((perform filter context limit call).run progress).2

/-- How far a new walker has come after calls. -/
def session (calls : List Call) (state : σ) : Progress σ :=
  performAll filter context limit calls ⟨state, {}, #[]⟩

/-- Everything that a filter was asked by a new walker during calls. -/
def record (calls : List Call) (state : σ) : List Enquiry :=
  (session filter.recorded context limit calls (state, [])).state.2

/-! ## One call -/

/-- What a filter is asked during a call, and what it answers. -/
def enquiriesOf (call : Call) (progress : Progress σ) : List Enquiry :=
  enquiries filter context (Dialogue.visitor.call limit call) progress

theorem perform_eq (call : Call) :
    perform filter context limit call = (visitor filter context).call limit call := by
  cases call with
  | blocks content => rw [perform, blocks_eq, Visitor.call]
  | inlines content => rw [perform, inlines_eq, Visitor.call]
  | metadata entries => rw [perform, metadata, inlines_eq, blocks_eq, Visitor.call]
  | metaValue value => rw [perform, metaValue, inlines_eq, blocks_eq, Visitor.call]

theorem run_perform (call : Call) (progress : Progress σ) :
    (perform filter context limit call).run progress =
      converse filter context (Dialogue.visitor.call limit call) progress := by
  rw [perform_eq, Dialogue.call_run (visitor_stops filter context), converse]

/-- The record of a call is appended to what was recorded before. -/
theorem perform_recorded (call : Call) (progress : Progress σ) (earlier : List Enquiry) :
    ((perform filter.recorded context limit call).run (progress.beside earlier)).2 =
      ((perform filter context limit call).run progress).2.beside
        (earlier ++ enquiriesOf filter context limit call progress) := by
  rw [run_perform, run_perform, converse_recorded, enquiriesOf]

/-- The counts go up by what was asked during the call. -/
theorem perform_stats (call : Call) (progress : Progress σ) :
    ((perform filter context limit call).run progress).2.stats =
      progress.stats.after
        ((enquiriesOf filter context limit call progress).map Enquiry.offer) := by
  rw [run_perform, converse_stats, offersOf_eq_map, enquiriesOf]

theorem perform_concludes (call : Call) (progress : Progress σ) :
    Concludes ((perform filter context limit call).run progress).1
      (enquiriesOf filter context limit call progress) := by
  rw [run_perform, enquiriesOf]
  exact converse_concludes filter context _ progress

/-! ## Many calls -/

def enquiriesOfAll : List Call → Progress σ → List Enquiry
  | [], _ => []
  | call :: rest, progress =>
      enquiriesOf filter context limit call progress ++
        enquiriesOfAll rest ((perform filter context limit call).run progress).2

theorem performAll_append (calls others : List Call) (progress : Progress σ) :
    performAll filter context limit (calls ++ others) progress =
      performAll filter context limit others
        (performAll filter context limit calls progress) := by
  induction calls generalizing progress with
  | nil => rfl
  | cons call rest ih => exact ih _

theorem enquiriesOfAll_append (calls others : List Call) (progress : Progress σ) :
    enquiriesOfAll filter context limit (calls ++ others) progress =
      enquiriesOfAll filter context limit calls progress ++
        enquiriesOfAll filter context limit others
          (performAll filter context limit calls progress) := by
  induction calls generalizing progress with
  | nil => rfl
  | cons call rest ih =>
      rw [List.cons_append, enquiriesOfAll, enquiriesOfAll, ih, List.append_assoc, performAll]

/-- A walker does not notice that a record is kept of its calls. -/
theorem performAll_recorded (calls : List Call) (progress : Progress σ)
    (earlier : List Enquiry) :
    performAll filter.recorded context limit calls (progress.beside earlier) =
      (performAll filter context limit calls progress).beside
        (earlier ++ enquiriesOfAll filter context limit calls progress) := by
  induction calls generalizing progress earlier with
  | nil => rw [enquiriesOfAll, List.append_nil, performAll, performAll]
  | cons call rest ih =>
      rw [performAll, perform_recorded, ih, performAll, enquiriesOfAll, List.append_assoc]

/-- The counts are those of everything asked so far. -/
theorem performAll_stats (calls : List Call) (progress : Progress σ) :
    (performAll filter context limit calls progress).stats =
      progress.stats.after
        ((enquiriesOfAll filter context limit calls progress).map Enquiry.offer) := by
  induction calls generalizing progress with
  | nil => rfl
  | cons call rest ih =>
      rw [performAll, ih, perform_stats, enquiriesOfAll, List.map_append, WalkStats.after_append]

theorem record_eq (calls : List Call) (state : σ) :
    record filter context limit calls state =
      enquiriesOfAll filter context limit calls ⟨state, {}, #[]⟩ := by
  have recorded := performAll_recorded filter context limit calls ⟨state, {}, #[]⟩ []
  exact congrArg (fun progress => progress.state.2) recorded

theorem record_concat (calls : List Call) (call : Call) (state : σ) :
    record filter context limit (calls ++ [call]) state =
      record filter context limit calls state ++
        enquiriesOf filter context limit call (session filter context limit calls state) := by
  rw [record_eq, record_eq, enquiriesOfAll_append, enquiriesOfAll, enquiriesOfAll,
    List.append_nil, session]

theorem session_stats (calls : List Call) (state : σ) :
    (session filter context limit calls state).stats =
      WalkStats.after {} ((record filter context limit calls state).map Enquiry.offer) := by
  rw [session, performAll_stats, record_eq]

theorem session_concat (calls : List Call) (call : Call) (state : σ) :
    session filter context limit (calls ++ [call]) state =
      ((perform filter context limit call).run (session filter context limit calls state)).2 := by
  rw [session, performAll_append, performAll, performAll, session]

end

/-! ## Accounts -/

theorem Concludes.failed_iff {α : Type} {result : Except Halt α} {asked : List Enquiry}
    (concludes : Concludes result asked) :
    (∃ error, result = .error (.failed error)) ↔ ∃ enquiry ∈ asked, enquiry.error?.isSome := by
  have none_of (answered : ∀ enquiry ∈ asked, enquiry.error? = none) :
      ¬ ∃ enquiry ∈ asked, enquiry.error?.isSome := by
    rintro ⟨enquiry, member, failed⟩
    rw [answered enquiry member] at failed
    cases failed
  rcases result with (_ | error) | value
  case error.failed =>
    obtain ⟨before, last, rfl, failed, -⟩ := concludes
    constructor
    · rintro -
      refine ⟨last, by simp, ?_⟩
      rw [failed]
      rfl
    · rintro -
      exact ⟨_, rfl⟩
  case error.tooDeep => simpa using none_of concludes
  case ok => simpa using none_of concludes

/-- An enquiry that failed is the last one, and its error is what is returned. -/
theorem Concludes.last_of_failed {α : Type} {result : Except Halt α}
    {earlier later : List Enquiry} {enquiry : Enquiry} {error : Error}
    (concludes : Concludes result (earlier ++ enquiry :: later))
    (failed : enquiry.error? = some error) :
    later = [] ∧ result = .error (.failed error) := by
  have failing : ∃ error, result = .error (.failed error) := by
    rw [concludes.failed_iff]
    exact ⟨enquiry, by simp, by simp [failed]⟩
  obtain ⟨returned, rfl⟩ := failing
  obtain ⟨before, last, same, lastFailed, others⟩ := concludes
  rcases List.eq_nil_or_concat later with rfl | ⟨more, final, rfl⟩
  · obtain ⟨-, lastEq⟩ := List.append_inj' same rfl
    cases lastEq
    rw [failed] at lastFailed
    cases lastFailed
    exact ⟨rfl, rfl⟩
  · -- Otherwise the enquiry is one of those before the last, none of which failed.
    have concat : (earlier ++ enquiry :: more) ++ [final] = before ++ [last] := by
      simpa using same
    obtain ⟨beforeEq, -⟩ := List.append_inj' concat rfl
    have answered := others enquiry (by simp [← beforeEq])
    rw [failed] at answered
    cases answered

/-- Whatever calls a walker got before, and whether or not they failed, after one more it has
counted the blocks and the inlines that it offered since it was new, also one that the filter
failed on, and the answers that put something in the place of a node. The call fails if and
only if the filter fails in it; then it returns the error of the filter, and nothing is
offered after that. -/
theorem record_accounts (filter : NodeFilter σ) (context : Context) (limit : Nat)
    (calls : List Call) (call : Call) (state : σ) :
    let ended := (perform filter context limit call).run
      (session filter context limit calls state)
    let soFar := record filter context limit (calls ++ [call]) state
    ∃ asked, soFar = record filter context limit calls state ++ asked ∧
      ended.2.stats.blocks = soFar.countP (fun enquiry => enquiry.node.isBlock) ∧
      ended.2.stats.inlines = soFar.countP (fun enquiry => enquiry.node.isInline) ∧
      ended.2.stats.replaced = soFar.countP Enquiry.replaces ∧
      ((∃ error, ended.1 = .error (.failed error)) ↔ ∃ enquiry ∈ asked, enquiry.error?.isSome) ∧
      ∀ earlier enquiry later error, asked = earlier ++ enquiry :: later →
        enquiry.error? = some error → later = [] ∧ ended.1 = .error (.failed error) := by
  intro ended soFar
  have counted := session_stats filter context limit (calls ++ [call]) state
  rw [session_concat, WalkStats.after_enquiries] at counted
  have concludes := perform_concludes filter context limit call
    (session filter context limit calls state)
  refine ⟨_, record_concat filter context limit calls call state,
    congrArg WalkStats.blocks counted, congrArg WalkStats.inlines counted,
    congrArg WalkStats.replaced counted, concludes.failed_iff, ?_⟩
  intro earlier enquiry later error same failed
  rw [same] at concludes
  exact concludes.last_of_failed failed

end Walk

end DocFilter
