import DocFilter.Proofs.Rendering.Complete

/-!
# Renderers that never fail

Whether the templates of a renderer refer to nothing but fields there are is checked when
the renderer is made, apart from the substitution that is done when it is asked. The two
agree: a renderer that passes the check renders every document, and one that does not fails
on a document with code as a block and in running text.
-/

namespace DocFilter

namespace Template

variable {known : List String} {fields : List (String × String)}

/-- A template that was replaced is valid if there is a text for no other than known names. -/
theorem validate_of_substitute {template : Template} {text : String}
    (listed : ∀ name text, fields.lookup name = some text → name ∈ known)
    (replaced : template.substitute fields = .ok text) : template.validate known = .ok () := by
  refine validate_eq_ok_iff.mpr fun piece member => ?_
  have allowed := exists_substitute_iff.mp ⟨text, replaced⟩ piece member
  refine allowed.mono fun name present => ?_
  obtain ⟨text, looked⟩ := exists_lookup_iff.mpr present
  exact listed name text looked

end Template

namespace Listing

theorem CodeParts.mem_templateFields (parts : CodeParts) (name text : String)
    (looked : parts.fields.lookup name = some text) : name ∈ templateFields := by
  obtain ⟨before, after, whole, -⟩ := List.lookup_eq_some_iff.mp looked
  have member : (name, text) ∈ parts.fields := by
    rw [whole]
    exact List.mem_append_right before List.mem_cons_self
  exact List.mem_map_of_mem (f := Prod.fst) member

end Listing

/-! ## Walks over code -/

section

variable {α : Type} {visit : α → Except Halt (List α)} {descend : α → Except Halt α} {node : α}

/-- A list is not rebuilt if a visit of its first node fails. -/
theorem Visitor.splice_of_error {halt : Halt} (failed : visit node = .error halt) (rest : List α) :
    splice visit descend (node :: rest) = .error halt := by
  rw [splice, failed]
  rfl

/-- If one node takes the place of the first one, it is descended into before the others are
visited. -/
theorem Visitor.splice_of_one {other : α} (visited : visit node = .ok [other]) (rest : List α) :
    splice visit descend (node :: rest) =
      descend other >>= fun first => splice visit descend rest >>= fun others =>
        .ok (first :: others) := by
  rw [splice, visited]
  show [other].mapM descend >>= _ = _
  rw [List.mapM_cons, bind_assoc]
  rfl

end

/-- Code without attributes or text, as a block and in running text. -/
def Document.codeTwice : Document := .ofBlocks [.code .empty "", .plain [.code .empty ""]]

namespace Answers

variable {answers : Answers} {format : String}

/-- Code blocks and code in running text are replaced by markup, which may fail. -/
structure MarksCode (answers : Answers) (format : String)
    (block inline : Except Error String) : Prop where
  block : answers.block (.code .empty "") = block.map fun markup => .one (.raw format markup)
  inline : answers.inline (.code .empty "") = inline.map fun markup => .one (.raw format markup)
  plain (content : List Inline) : answers.block (.plain content) = .ok .keep

theorem MarksCode.inlines {block inline : Except Error String}
    (marks : answers.MarksCode format block inline) (limit : Nat) :
    answers.visitor.inlines (limit + 1) [.code .empty ""] =
      (inline.map fun markup => [Inline.raw format markup]).mapError .failed := by
  cases inline with
  | error error =>
      have failed : answers.visitor.inline (.code .empty "") = .error (.failed error) :=
        congrArg (nodes _) marks.inline
      exact Visitor.splice_of_error failed []
  | ok markup =>
      have visited : answers.visitor.inline (.code .empty "") = .ok [.raw format markup] :=
        congrArg (nodes _) marks.inline
      exact Visitor.splice_of_one visited []

theorem MarksCode.blocks {block inline : Except Error String}
    (marks : answers.MarksCode format block inline) (limit : Nat) :
    answers.visitor.blocks (limit + 2) [.code .empty "", .plain [.code .empty ""]] =
      (do
        let block ← block
        let inline ← inline
        return [Block.raw format block, .plain [.raw format inline]]).mapError .failed := by
  cases block with
  | error error =>
      have failed : answers.visitor.block (.code .empty "") = .error (.failed error) :=
        congrArg (nodes _) marks.block
      exact Visitor.splice_of_error failed _
  | ok markup =>
      have visited : answers.visitor.block (.code .empty "") = .ok [.raw format markup] :=
        congrArg (nodes _) marks.block
      have kept : answers.visitor.block (.plain [.code .empty ""]) =
          .ok [.plain [.code .empty ""]] := congrArg (nodes _) (marks.plain _)
      have below : answers.visitor.descendBlock (limit + 2) (.plain [.code .empty ""]) =
          answers.visitor.inlines (limit + 1) [.code .empty ""] >>= fun content =>
            .ok (.plain content) := rfl
      have leaf : answers.visitor.descendBlock (limit + 2) (.raw format markup) =
          .ok (.raw format markup) := rfl
      rw [Visitor.blocks, Visitor.splice_of_one visited, Visitor.splice_of_one kept, below, leaf,
        marks.inlines]
      cases inline <;> rfl

/-- A walk over the document with code twice asks for the markup of the block and then for
that of the inline. -/
theorem MarksCode.document {block inline : Except Error String}
    (marks : answers.MarksCode format block inline) (limit : Nat) :
    answers.visitor.document (limit + 2) .codeTwice =
      (do
        let block ← block
        let inline ← inline
        return Document.ofBlocks [.raw format block, .plain [.raw format inline]]).mapError
          .failed := by
  show answers.visitor.blocks (limit + 2) [.code .empty "", .plain [.code .empty ""]] >>= _ = _
  rw [marks.blocks]
  cases block with
  | error error => rfl
  | ok markup => cases inline <;> rfl

end Answers

namespace Listing.Renderer

variable {options : Options} {renderer : Renderer}

/-- The parts of the code in the document with code twice. -/
def blankParts (renderer : Renderer) : CodeParts :=
  .ofAttr .empty "" renderer.options.defaultLanguage

theorem answers_marksCode (renderer : Renderer) :
    (Rendering.answers renderer.options.targetFormat (.listings renderer)).MarksCode
      renderer.options.targetFormat (renderer.renderBlock renderer.blankParts)
      (renderer.renderInline renderer.blankParts) where
  block := onBlock_code rfl .empty ""
  inline := onInline_code rfl .empty ""
  plain _ := onBlock_keep nofun

/-- A template is valid if there is any markup made from it. -/
theorem validate_of_markup {template : Template} {parts : CodeParts} {markup : String}
    (made : (template.substitute parts.fields).mapError Error.template = .ok markup) :
    template.validate templateFields = .ok () :=
  Template.validate_of_substitute parts.mem_templateFields (eq_ok_of_mapError_eq_ok made)

/-- The check does not ask for more than markup for code needs. -/
theorem valid_of_renders {parts parts' : CodeParts} {block inline : String}
    (blocks : renderer.renderBlock parts = .ok block)
    (inlines : renderer.renderInline parts' = .ok inline) : renderer.Valid :=
  ⟨validate_of_markup blocks, validate_of_markup inlines⟩

/-- Markup is refused for nothing but a template. -/
theorem exists_problem {template : Template} {fields : List (String × String)} {error : Error}
    (refused : (template.substitute fields).mapError .template = .error error) :
    ∃ problem, error = .template problem := by
  cases replaced : template.substitute fields with
  | ok markup =>
      rw [replaced] at refused
      cases refused
  | error problem =>
      rw [replaced] at refused
      cases refused
      exact ⟨problem, rfl⟩

/-- The document with code twice is filtered if there is markup for its code. -/
theorem filter_codeTwice (renderer : Renderer) {limit : Nat}
    (fits : Document.codeTwice.height ≤ limit) {σ : Type} (state : σ) :
    (Document.codeTwice.filter renderer.filter renderer.options.targetFormat limit
        state).result =
      (do
        let block ← renderer.renderBlock renderer.blankParts
        let inline ← renderer.renderInline renderer.blankParts
        return Document.ofBlocks [.raw renderer.options.targetFormat block,
          .plain [.raw renderer.options.targetFormat inline]]).mapError .failed := by
  have gives := (Rendering.listings renderer).gives_answers (σ := σ)
    ⟨renderer.options.targetFormat, Document.codeTwice.metadata⟩
  have height : Document.codeTwice.height = 2 := by decide
  rw [height] at fits
  obtain ⟨more, rfl⟩ := Nat.exists_eq_add_of_le' fits
  exact (gives.result state).trans (renderer.answers_marksCode.document more)

/-- A renderer that is not valid fails on the document with code twice, because of one of
its templates. -/
theorem codeTwice_of_not_valid (faulty : ¬ renderer.Valid) {σ : Type} (state : σ) :
    ∃ problem, ∀ limit, Document.codeTwice.height ≤ limit →
      (Document.codeTwice.filter renderer.filter renderer.options.targetFormat limit
        state).result = .error (.failed (.template problem)) := by
  cases block : renderer.renderBlock renderer.blankParts with
  | error error =>
      obtain ⟨problem, rfl⟩ := exists_problem block
      refine ⟨problem, fun limit fits => (renderer.filter_codeTwice fits state).trans ?_⟩
      rw [block]
      rfl
  | ok markup =>
      cases inline : renderer.renderInline renderer.blankParts with
      | error error =>
          obtain ⟨problem, rfl⟩ := exists_problem inline
          refine ⟨problem, fun limit fits => (renderer.filter_codeTwice fits state).trans ?_⟩
          rw [block, inline]
          rfl
      | ok markup' => exact absurd (valid_of_renders block inline) faulty

/-- A valid renderer renders every document, for every format. -/
theorem Valid.exists_result (valid : renderer.Valid) (format : String) {source : Document}
    {limit : Nat} (fits : source.height ≤ limit) {σ : Type} (state : σ) :
    ∃ result, (source.filter renderer.filter format limit state).result = .ok result := by
  have gives := valid.gives_answers (σ := σ) ⟨format, source.metadata⟩
  by_cases target : renderer.options.targetFormat = format
  · rw [gives.result, answers_target target, Answers.document_marking _ fits]
    exact ⟨_, rfl⟩
  · rw [gives.result, answers_other target, Answers.keep_document fits]
    exact ⟨_, rfl⟩

/-- The check that a renderer passes when it is made says exactly whether it ever fails: one
that can be made renders every document for every format, and one that cannot be made fails
on some document because of a template. -/
theorem ofOptions?_iff_never_fails (options : Options) {σ : Type} (state : σ) :
    ((∃ renderer, ofOptions? options = .ok renderer) ↔
      ∀ (source : Document) (format : String) (limit : Nat), source.height ≤ limit →
        ∃ result, (source.filter (filter ⟨options⟩) format limit state).result = .ok result) ∧
    ((¬ ∃ renderer, ofOptions? options = .ok renderer) →
      ∃ (source : Document) (format : String) (problem : Template.Problem),
        ∀ limit, source.height ≤ limit →
          (source.filter (filter ⟨options⟩) format limit state).result =
            .error (.failed (.template problem))) := by
  have made : (∃ renderer, ofOptions? options = .ok renderer) ↔ Valid ⟨options⟩ := by
    simp only [ofOptions?_eq_ok, exists_eq_left]
  rw [made]
  refine ⟨⟨?_, ?_⟩, ?_⟩
  · intro valid source format limit fits
    exact valid.exists_result format fits state
  · intro safe
    by_contra faulty
    obtain ⟨problem, fails⟩ := codeTwice_of_not_valid faulty state
    obtain ⟨result, succeeded⟩ := safe .codeTwice _ _ (Nat.le_refl _)
    cases (fails _ (Nat.le_refl _)).symm.trans succeeded
  · intro faulty
    obtain ⟨problem, fails⟩ := codeTwice_of_not_valid faulty state
    exact ⟨.codeTwice, _, problem, fails⟩

end Listing.Renderer

/-- Options with a name that is not that of a field, in one of two templates. -/
def Listing.Options.misspelt : Options := { inlineTemplate := "$content" }

open Listing Renderer in
/-- Simple templates never fail; a misspelt one fails on some document. -/
theorem Listing.Renderer.ofOptions?_iff_never_fails_misspelt :
    (∀ (source : Document) (format : String) (limit : Nat), source.height ≤ limit →
      ∃ result, (source.filter (filter ⟨.bare⟩) format limit ()).result = .ok result) ∧
    (¬ ∃ renderer, ofOptions? .misspelt = .ok renderer) ∧
    ∃ (source : Document) (format : String) (problem : Template.Problem),
      ∀ limit, source.height ≤ limit →
        (source.filter (filter ⟨.misspelt⟩) format limit ()).result =
          .error (.failed (.template problem)) := by
  have made : ofOptions? .bare = .ok ⟨.bare⟩ :=
    ofOptions?_eq_ok.mpr ⟨rfl, by decide +kernel, by decide +kernel⟩
  have refused : ¬ ∃ renderer, ofOptions? .misspelt = .ok renderer := by
    rintro ⟨renderer, made⟩
    obtain ⟨rfl, valid⟩ := ofOptions?_eq_ok.mp made
    exact absurd valid.inline (by decide +kernel)
  obtain ⟨safe, -⟩ := ofOptions?_iff_never_fails .bare ()
  obtain ⟨-, fails⟩ := ofOptions?_iff_never_fails .misspelt ()
  exact ⟨safe.mp ⟨_, made⟩, refused, fails refused⟩

end DocFilter
