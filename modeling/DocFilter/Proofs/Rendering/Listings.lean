import DocFilter.Proofs.Walk.Fusion
import DocFilter.Proofs.Template.Substitution

/-!
# Renderers of listings

A renderer is made from templates that refer to nothing but fields there are, so it
has markup for all code there is: for its target format it replaces code by this
markup, and nothing else.
-/

namespace DocFilter

/-! ## Templates that are valid -/

namespace Template

variable {known : List String} {fields : List (String × String)}

/-- A valid template can be replaced if there is a text for each known name. -/
theorem exists_substitute {template : Template} (valid : template.validate known = .ok ())
    (given : ∀ name ∈ known, ∃ text, fields.lookup name = some text) :
    ∃ text, template.substitute fields = .ok text := by
  refine exists_substitute_iff.mpr fun piece member => ?_
  have allowed := validate_eq_ok_iff.mp valid piece member
  exact allowed.mono fun name listed => exists_lookup_iff.mp (given name listed)

end Template

namespace Listing

theorem CodeParts.exists_field (parts : CodeParts) :
    ∀ name ∈ templateFields, ∃ text, parts.fields.lookup name = some text := by
  intro name listed
  simp only [templateFields, List.mem_cons, List.not_mem_nil, or_false] at listed
  rcases listed with rfl | rfl | rfl | rfl | rfl
  · exact ⟨parts.label, rfl⟩
  · exact ⟨parts.contents, rfl⟩
  · exact ⟨parts.language, rfl⟩
  · exact ⟨parts.attributes, rfl⟩
  · exact ⟨parts.caption.getD "", rfl⟩

namespace Renderer

/-- The templates of a renderer refer to nothing but fields there are. -/
structure Valid (renderer : Renderer) : Prop where
  block : renderer.blockTemplate.validate templateFields = .ok ()
  inline : renderer.inlineTemplate.validate templateFields = .ok ()

/-- A renderer can be made exactly if it is valid. -/
theorem ofOptions?_eq_ok {options : Options} {renderer : Renderer} :
    ofOptions? options = .ok renderer ↔ renderer = ⟨options⟩ ∧ renderer.Valid := by
  constructor
  · intro made
    rw [ofOptions?] at made
    cases block : Template.validate (blockTemplate ⟨options⟩) templateFields with
    | error problem =>
        rw [block] at made
        cases made
    | ok =>
        rw [block] at made
        cases inline : Template.validate (inlineTemplate ⟨options⟩) templateFields with
        | error problem =>
            rw [inline] at made
            cases made
        | ok =>
            rw [inline] at made
            cases made
            exact ⟨rfl, block, inline⟩
  · rintro ⟨rfl, block, inline⟩
    rw [ofOptions?, block, inline]
    rfl

variable {renderer : Renderer}

/-- The markup of a code block, if there is any. -/
def blockMarkup (renderer : Renderer) (parts : CodeParts) : String :=
  (renderer.renderBlock parts).toOption.getD ""

def inlineMarkup (renderer : Renderer) (parts : CodeParts) : String :=
  (renderer.renderInline parts).toOption.getD ""

theorem Valid.renderBlock_eq (valid : renderer.Valid) (parts : CodeParts) :
    renderer.renderBlock parts = .ok (renderer.blockMarkup parts) := by
  obtain ⟨markup, filled⟩ := Template.exists_substitute valid.block parts.exists_field
  rw [blockMarkup, renderBlock, filled]
  rfl

theorem Valid.renderInline_eq (valid : renderer.Valid) (parts : CodeParts) :
    renderer.renderInline parts = .ok (renderer.inlineMarkup parts) := by
  obtain ⟨markup, filled⟩ := Template.exists_substitute valid.inline parts.exists_field
  rw [inlineMarkup, renderInline, filled]
  rfl

/-- The markup of a renderer for all code there is. -/
def marking (renderer : Renderer) (format : String) : Marking where
  format := format
  inline attr text := renderer.inlineMarkup (.ofAttr attr text renderer.options.defaultLanguage)
  block attr text := renderer.blockMarkup (.ofAttr attr text renderer.options.defaultLanguage)

section

variable {context : Context}

theorem differs_eq_false (target : renderer.options.targetFormat = context.format) :
    (context.format != renderer.options.targetFormat) = false := by
  rw [target, bne_self_eq_false]

/-- Code in running text is replaced by its markup if there is any. -/
theorem onInline_code (target : renderer.options.targetFormat = context.format) (attr : Attr)
    (text : String) :
    (renderer.onInline context (.code attr text)).outcome =
      (renderer.renderInline (.ofAttr attr text renderer.options.defaultLanguage)).map
        fun markup => .one (.raw context.format markup) := by
  rw [onInline, differs_eq_false target, CodeParts.ofInline?]
  dsimp only
  generalize renderer.renderInline _ = outcome
  cases outcome <;> rfl

theorem onBlock_code (target : renderer.options.targetFormat = context.format) (attr : Attr)
    (text : String) :
    (renderer.onBlock context (.code attr text)).outcome =
      (renderer.renderBlock (.ofAttr attr text renderer.options.defaultLanguage)).map
        fun markup => .one (.raw context.format markup) := by
  rw [onBlock, differs_eq_false target, CodeParts.ofBlock?]
  dsimp only
  generalize renderer.renderBlock _ = outcome
  cases outcome <;> rfl

/-- Inlines other than code are kept, and so is everything for another format. -/
theorem onInline_keep {node : Inline}
    (other : renderer.options.targetFormat = context.format → node.kind ≠ .code) :
    (renderer.onInline context node).outcome = .ok .keep := by
  unfold onInline
  split
  case isTrue => rfl
  case isFalse same =>
      have target : context.format = renderer.options.targetFormat := by simpa using same
      cases node with
      | code attr text => exact absurd rfl (other target.symm)
      | _ => rfl

theorem onBlock_keep {node : Block}
    (other : renderer.options.targetFormat = context.format → node.kind ≠ .code) :
    (renderer.onBlock context node).outcome = .ok .keep := by
  unfold onBlock
  split
  case isTrue => rfl
  case isFalse same =>
      have target : context.format = renderer.options.targetFormat := by simpa using same
      cases node with
      | code attr text => exact absurd rfl (other target.symm)
      | _ => rfl

/-- A valid renderer replaces code by its markup, and nothing else. -/
theorem Valid.gives_marking (valid : renderer.Valid) {σ : Type}
    (target : renderer.options.targetFormat = context.format) :
    (renderer.filter (σ := σ)).Gives context (renderer.marking context.format).answers := by
  constructor
  · intro node state
    show (renderer.onInline context node).outcome = _
    by_cases code : node.kind = .code
    · obtain ⟨attr, text, rfl⟩ := Inline.exists_of_kind_code code
      rw [onInline_code target, valid.renderInline_eq]
      rfl
    · rw [onInline_keep fun _ => code, Marking.answers_inline_other code]
  · intro node state
    show (renderer.onBlock context node).outcome = _
    by_cases code : node.kind = .code
    · obtain ⟨attr, text, rfl⟩ := Block.exists_of_kind_code code
      rw [onBlock_code target, valid.renderBlock_eq]
      rfl
    · rw [onBlock_keep fun _ => code, Marking.answers_block_other code]

end

end Renderer

end Listing

end DocFilter
