import DocFilter.Proofs.Rendering.Listings
import DocFilter.Proofs.Rendering.Tables

/-!
# Tables and listings

A document may hold code in the cells of tables and tables in notes in captions of
other tables. It makes no difference whether both are rendered in one walk or in two,
or which of them is rendered first.
-/

namespace DocFilter

/-- The result of a walk of a document with one rendering. -/
def Document.pass (source : Document) (rendering : Rendering) (format : String) (limit : Nat) :
    Except Halt Document :=
  (source.filter (rendering.filter (σ := Unit)) format limit ()).result

namespace Answers

theorem either_keep {α : Type} (answer : Except Error (Action α)) :
    either answer (.ok .keep) = answer := by
  cases answer with
  | error error => rfl
  | ok action => cases action <;> rfl

theorem either_comm {α : Type} {first second : Except Error (Action α)}
    (kept : first = .ok .keep ∨ second = .ok .keep) :
    either first second = either second first := by
  rcases kept with rfl | rfl
  · exact (either_keep second).symm
  · exact either_keep first

theorem orElse_keep (answers : Answers) : answers.orElse keep = answers := by
  obtain ⟨inline, block⟩ := answers
  unfold orElse keep
  simp only [either_keep]

end Answers

/-! ## Listings -/

namespace Listing.Renderer

variable {renderer : Renderer}

def answers (renderer : Renderer) (format : String) : Answers :=
  if renderer.options.targetFormat = format then (renderer.marking format).answers else .keep

theorem answers_target {format : String} (target : renderer.options.targetFormat = format) :
    renderer.answers format = (renderer.marking format).answers :=
  if_pos target

theorem answers_other {format : String} (other : renderer.options.targetFormat ≠ format) :
    renderer.answers format = .keep :=
  if_neg other

theorem answers_keep {format : String} {node : Block} (other : node.kind ≠ .code) :
    (renderer.answers format).block node = .ok .keep := by
  unfold answers
  split
  case isTrue => exact Marking.answers_block_other other
  case isFalse => rfl

theorem answers_lowers (renderer : Renderer) {format : String} :
    (renderer.answers format).Lowers := by
  unfold answers
  split
  case isTrue => exact (renderer.marking format).answers_lowers
  case isFalse => exact Answers.keep_lowers

theorem Valid.gives_answers (valid : renderer.Valid) {σ : Type} (context : Context) :
    (renderer.filter (σ := σ)).Gives context (renderer.answers context.format) := by
  by_cases target : renderer.options.targetFormat = context.format
  · rw [answers_target target]
    exact valid.gives_marking target
  · rw [answers_other target]
    have other : (Rendering.listings renderer).targetFormat ≠ context.format := target
    exact Rendering.gives_keep other

/-- A walk that is followed by a walk for listings ends as the walk that gives the answers
of both. -/
theorem document_orElse {first : Answers} (avoids : first.AvoidsCode) (renderer : Renderer)
    (format : String) (limit : Nat) (source : Document) :
    (first.orElse (renderer.answers format)).visitor.document limit source =
      first.visitor.document limit source >>=
        (renderer.answers format).visitor.document limit := by
  by_cases target : renderer.options.targetFormat = format
  · rw [answers_target target, avoids.document_orElse]
    cases walked : first.visitor.document limit source with
    | error halt => rfl
    | ok result =>
        -- The second walk does not reach its limit: the first one had the same.
        have low := Answers.height_le_of_document walked
        exact (Answers.document_marking (renderer.marking format) low).symm
  · rw [answers_other target, Answers.orElse_keep]
    cases walked : first.visitor.document limit source with
    | error halt => rfl
    | ok result =>
        have low := Answers.height_le_of_document walked
        exact (Answers.keep_document low).symm

end Listing.Renderer

/-! ## Both -/

namespace Tabular.Options

variable (options : Options) (renderer : Listing.Renderer) (format : String)

/-- No node is both a table and code, so it makes no difference who is asked first. -/
theorem orElse_answers_comm :
    (options.answers format).orElse (renderer.answers format) =
      (renderer.answers format).orElse (options.answers format) := by
  unfold Answers.orElse
  congr 1
  · funext node
    exact Answers.either_comm (.inl rfl)
  · funext node
    apply Answers.either_comm
    by_cases code : node.kind = .code
    · have other : options.targetFormat = format → node.kind ≠ .table := by
        intro _ table
        cases code.symm.trans table
      exact .inl (answers_keep node other)
    · exact .inr (Listing.Renderer.answers_keep code)

variable {source : Document} {limit : Nat}

/-- Tables with their code rendered before are rendered as others are, or both cannot be
rendered because of one place in them. -/
theorem document_answers (fits : source.height ≤ limit) :
    Agree Halt.Alike (fun x y => x = y)
      ((options.answers format).visitor.document limit source >>=
        (renderer.answers format).visitor.document limit)
      ((renderer.answers format).visitor.document limit source >>=
        (options.answers format).visitor.document limit) := by
  let marking := renderer.marking format
  have agree : Agree Halt.Alike (fun result other => other = result.marked marking)
      ((options.answers format).visitor.document limit source)
      ((options.answers format).visitor.document limit (source.marked marking)) :=
    (options.answers_commutes marking).document_marked
  rw [← renderer.document_orElse options.answers_avoidsCode]
  by_cases target : renderer.options.targetFormat = format
  · rw [Listing.Renderer.answers_target target, Answers.document_marking _ fits]
    rw [options.answers_avoidsCode.document_orElse]
    exact agree.map_left
  · rw [Listing.Renderer.answers_other target, Answers.keep_document fits, Answers.orElse_keep]
    refine Agree.refl (fun halt stopped => ?_) fun _ _ => rfl
    rw [stopped] at agree
    obtain ⟨_, same⟩ := agree.exists_error
    exact same.self

end Tabular.Options

section

variable {renderer : Listing.Renderer}

namespace Document

theorem pass_tables (tables : Tabular.Options) (source : Document) (format : String)
    (limit : Nat) :
    source.pass (.tables tables) format limit =
      (tables.answers format).visitor.document limit source :=
  (tables.gives_answers ⟨format, source.metadata⟩).result ()

theorem pass_listings (valid : renderer.Valid) (source : Document) (format : String)
    (limit : Nat) :
    source.pass (.listings renderer) format limit =
      (renderer.answers format).visitor.document limit source :=
  (valid.gives_answers ⟨format, source.metadata⟩).result ()

end Document

end

/-- Rendering tables and listings in one walk, in either order, ends as rendering first the
tables and then the listings: with the same document or the same error, which is not the
limit of the walk if the document is no higher than it. -/
theorem Document.filter_composite {options : Listing.Options} {renderer : Listing.Renderer}
    (made : Listing.Renderer.ofOptions? options = .ok renderer) (tables : Tabular.Options)
    (source : Document) (format : String) (limit : Nat) {σ : Type} (state : σ) :
    let tablesFirst : Chain Rendering :=
      .composite [.leaf (.tables tables), .leaf (.listings renderer)]
    let listingsFirst : Chain Rendering :=
      .composite [.leaf (.listings renderer), .leaf (.tables tables)]
    let once := (source.filter tablesFirst.rendering format limit state).result
    once = (do
        let between ← source.pass (.tables tables) format limit
        between.pass (.listings renderer) format limit) ∧
      once = (source.filter listingsFirst.rendering format limit state).result ∧
      (source.height ≤ limit → once ≠ .error .tooDeep) := by
  obtain ⟨-, valid⟩ := Listing.Renderer.ofOptions?_eq_ok.mp made
  intro tablesFirst listingsFirst once
  have gives := tables.gives_answers (σ := σ) ⟨format, source.metadata⟩
  have gives' := valid.gives_answers (σ := σ) ⟨format, source.metadata⟩
  have first : once =
      ((tables.answers format).orElse (renderer.answers format)).visitor.document limit source := by
    have both := gives.orElse (gives'.orElse NodeFilter.identity_gives)
    rw [Answers.orElse_keep] at both
    exact both.result state
  have second : (source.filter listingsFirst.rendering format limit state).result =
      ((renderer.answers format).orElse (tables.answers format)).visitor.document limit source := by
    have both := gives'.orElse (gives.orElse NodeFilter.identity_gives)
    rw [Answers.orElse_keep] at both
    exact both.result state
  refine ⟨?_, ?_, fun fits => ?_⟩
  · rw [first, renderer.document_orElse tables.answers_avoidsCode, pass_tables]
    simp only [pass_listings valid]
  · rw [first, second, tables.orElse_answers_comm]
  · rw [first]
    exact (tables.answers_lowers.orElse renderer.answers_lowers).document_ne_tooDeep fits

/-- A table with a caption and a single cell. -/
def Table.ofCell (caption content : List Block) : Table :=
  ⟨.empty, ⟨none, caption⟩, [], ⟨.empty, []⟩,
    [⟨.empty, 0, [], [.ofCells [.ofBlocks content]]⟩], ⟨.empty, []⟩⟩

/-- Options under which code is left as it is, but as markup. -/
def Listing.Options.bare : Listing.Options :=
  { blockTemplate := "$contents", inlineTemplate := "$contents" }

/-- A table in a note in a cell of another table, with code in its cell and in both
captions. -/
def Document.nestedTables : Document :=
  .ofBlocks
    [.table (.ofCell [.plain [.code .empty "a"]]
      [.plain [.note [.table (.ofCell [.para [.code .empty "b"]] [.plain [.code .empty "c"]])]]])]

/-- Tables in one another are rendered with the code in them, in one walk or two. -/
theorem Document.filter_composite_nestedTables :
    Listing.Renderer.ofOptions? .bare = .ok ⟨.bare⟩ ∧
      (nestedTables.filter
          (Chain.composite [.leaf (.tables {}), .leaf (.listings ⟨.bare⟩)]).rendering
          "latex" 7 ()).result =
        (do
          let between ← nestedTables.pass (.tables {}) "latex" 7
          between.pass (.listings ⟨.bare⟩) "latex" 7) ∧
      (nestedTables.filter
          (Chain.composite [.leaf (.tables {}), .leaf (.listings ⟨.bare⟩)]).rendering
          "latex" 7 ()).result =
        (nestedTables.filter
          (Chain.composite [.leaf (.listings ⟨.bare⟩), .leaf (.tables {})]).rendering
          "latex" 7 ()).result ∧
      nestedTables.height ≤ 7 ∧
      (nestedTables.filter
          (Chain.composite [.leaf (.tables {}), .leaf (.listings ⟨.bare⟩)]).rendering
          "latex" 7 ()).result ≠ .error .tooDeep := by
  have made : Listing.Renderer.ofOptions? .bare = .ok ⟨.bare⟩ :=
    Listing.Renderer.ofOptions?_eq_ok.mpr ⟨rfl, by decide +kernel, by decide +kernel⟩
  have fits : nestedTables.height ≤ 7 := by decide
  obtain ⟨passes, order, low⟩ := filter_composite made {} nestedTables "latex" 7 ()
  exact ⟨made, passes, order, fits, low fits⟩

/-- Rendering tables and then listings ends as rendering listings and then tables: with the
same document, or with a block that cannot be rendered in one place of a table. -/
theorem Document.pass_comm {options : Listing.Options} {renderer : Listing.Renderer}
    (made : Listing.Renderer.ofOptions? options = .ok renderer) (tables : Tabular.Options)
    {source : Document} (format : String) {limit : Nat} (fits : source.height ≤ limit) :
    let tablesFirst := do
      let between ← source.pass (.tables tables) format limit
      between.pass (.listings renderer) format limit
    let listingsFirst := do
      let between ← source.pass (.listings renderer) format limit
      between.pass (.tables tables) format limit
    (∃ result, tablesFirst = .ok result ∧ listingsFirst = .ok result) ∨
      ∃ place found found',
        tablesFirst = .error (.failed (.unsupported place found)) ∧
          listingsFirst = .error (.failed (.unsupported place found')) := by
  obtain ⟨-, valid⟩ := Listing.Renderer.ofOptions?_eq_ok.mp made
  intro tablesFirst listingsFirst
  have first : tablesFirst = (tables.answers format).visitor.document limit source >>=
      (renderer.answers format).visitor.document limit := by
    simp only [tablesFirst, pass_tables, pass_listings valid]
  have second : listingsFirst = (renderer.answers format).visitor.document limit source >>=
      (tables.answers format).visitor.document limit := by
    simp only [listingsFirst, pass_tables, pass_listings valid]
  have low : tablesFirst ≠ .error .tooDeep := by
    rw [first, ← renderer.document_orElse tables.answers_avoidsCode]
    exact (tables.answers_lowers.orElse renderer.answers_lowers).document_ne_tooDeep fits
  have agree := tables.document_answers renderer format fits
  rw [← first, ← second] at agree
  generalize tablesFirst = x at agree low
  generalize listingsFirst = y at agree
  cases agree with
  | ok same => exact .inl ⟨_, rfl, same ▸ rfl⟩
  | error same =>
      cases same with
      | failed place found found' => exact .inr ⟨place, found, found', rfl, rfl⟩
      | tooDeep => exact absurd rfl low

/-- A table with a listing in its cell, which cannot be rendered. -/
def Document.listingInCell : Document :=
  .ofBlocks [.table (.ofCell [.plain []] [.code .empty "a"])]

/-- A listing in a cell stops both walks in that cell. -/
theorem Document.pass_comm_listingInCell :
    Listing.Renderer.ofOptions? .bare = .ok ⟨.bare⟩ ∧ listingInCell.height ≤ 2 ∧
      ∃ place found found',
        (do
          let between ← listingInCell.pass (.tables {}) "latex" 2
          between.pass (.listings ⟨.bare⟩) "latex" 2) =
            .error (.failed (.unsupported place found)) ∧
          (do
            let between ← listingInCell.pass (.listings ⟨.bare⟩) "latex" 2
            between.pass (.tables {}) "latex" 2) =
            .error (.failed (.unsupported place found')) := by
  have made : Listing.Renderer.ofOptions? .bare = .ok ⟨.bare⟩ :=
    Listing.Renderer.ofOptions?_eq_ok.mpr ⟨rfl, by decide +kernel, by decide +kernel⟩
  have fits : listingInCell.height ≤ 2 := by decide
  refine ⟨made, fits, ?_⟩
  rcases pass_comm made {} "latex" fits with ⟨result, succeeded, -⟩ | failed
  · cases succeeded
  · exact failed

end DocFilter
