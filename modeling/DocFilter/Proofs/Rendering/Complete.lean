import DocFilter.Proofs.Rendering.Order
import DocFilter.Proofs.Walk.Settling

/-!
# Complete renderings

Listings are rendered as markup, and tables as markup and paragraphs, so nothing that is
rendered has to be rendered again. A walk with a chain of renderings leaves no code and no
table with a caption behind if the chain renders them for the format, and another walk
changes nothing.
-/

namespace DocFilter

/-! ## Nodes that are due -/

/-- The node is neither code nor a table with a caption. -/
def Node.Inert (node : Node) : Prop := node.isCode = false ∧ node.isCaptionedTable = false

theorem Block.Alike.isCaptionedTable {inlines : List Inline → List Inline → Prop} {x y : Block}
    (alike : x.Alike inlines Block.StaysEmpty y)
    (captioned : (Node.block y).isCaptionedTable = true) :
    (Node.block x).isCaptionedTable = true := by
  cases alike with
  | table inside =>
      cases inside with
      | intro captions _ _ _ =>
          cases captions with
          | @intro _ _ long _ _ stays =>
              cases long with
              | nil =>
                  -- A list that was empty stays empty, so the table gets no caption.
                  cases stays rfl
                  exact captioned
              | cons first others => rfl
  | _ => cases captioned

namespace Rendering

/-- The rendering does something about the node for the format. -/
def Concerns (format : String) : Rendering → Node → Prop
  | .listings renderer, node => renderer.options.targetFormat = format ∧ node.isCode = true
  | .tables options, node => options.targetFormat = format ∧ node.isCaptionedTable = true

variable {format : String} {rendering : Rendering}

theorem Concerns.mono {node other : Node} (concerns : rendering.Concerns format node)
    (code : node.isCode = true → other.isCode = true)
    (captioned : node.isCaptionedTable = true → other.isCaptionedTable = true) :
    rendering.Concerns format other := by
  cases rendering with
  | listings renderer => exact ⟨concerns.1, code concerns.2⟩
  | tables options => exact ⟨concerns.1, captioned concerns.2⟩

theorem Concerns.not_inert {node : Node} (concerns : rendering.Concerns format node) :
    ¬ node.Inert := by
  rintro ⟨code, captioned⟩
  cases rendering with
  | listings renderer => exact Bool.false_ne_true (code.symm.trans concerns.2)
  | tables options => exact Bool.false_ne_true (captioned.symm.trans concerns.2)

/-- Some of the renderings does something about the node for the format. -/
def SomeConcerns (format : String) (renderings : List Rendering) (node : Node) : Prop :=
  ∃ rendering ∈ renderings, rendering.Concerns format node

theorem SomeConcerns.mono {renderings : List Rendering} {node other : Node}
    (concerns : SomeConcerns format renderings node)
    (code : node.isCode = true → other.isCode = true)
    (captioned : node.isCaptionedTable = true → other.isCaptionedTable = true) :
    SomeConcerns format renderings other := by
  obtain ⟨rendering, listed, concerns⟩ := concerns
  exact ⟨rendering, listed, concerns.mono code captioned⟩

theorem not_someConcerns {renderings : List Rendering} {node : Node} (inert : node.Inert) :
    ¬ SomeConcerns format renderings node := by
  rintro ⟨rendering, listed, concerns⟩
  exact concerns.not_inert inert

theorem not_someConcerns_nil (node : Node) : ¬ SomeConcerns format [] node := by
  rintro ⟨rendering, ⟨⟩, -⟩

theorem someConcerns_singleton (node : Node) :
    rendering.Concerns format node ↔ SomeConcerns format [rendering] node := by
  simp only [SomeConcerns, List.mem_singleton, exists_eq_left]

theorem someConcerns_append {xs ys : List Rendering} (node : Node) :
    SomeConcerns format xs node ∨ SomeConcerns format ys node ↔
      SomeConcerns format (xs ++ ys) node := by
  simp only [SomeConcerns, List.mem_append, or_and_right, exists_or]

end Rendering

/-! ## Answers that act upon what is due -/

/-- A node stays unless it is due; if it is due, inert nodes take its place or the filter
fails. -/
structure ActsIf {α : Type} (due : Prop) (wrap : α → Node)
    (answer : Except Error (Action α)) : Prop where
  keeps : ¬ due → answer = .ok .keep
  replaces : due → ∀ action, answer = .ok action →
    ∃ others, action.replacements? = some others ∧ ∀ other ∈ others, (wrap other).Inert

namespace ActsIf

variable {α : Type} {due due' : Prop} {wrap : α → Node} {first second : Except Error (Action α)}

theorem of_iff (acts : ActsIf due wrap first) (same : due ↔ due') : ActsIf due' wrap first where
  keeps calm := acts.keeps fun now => calm (same.mp now)
  replaces now := acts.replaces (same.mpr now)

/-- Whoever is asked second acts upon what is not due for the first. -/
theorem either (acts : ActsIf due wrap first) (acts' : ActsIf due' wrap second) :
    ActsIf (due ∨ due') wrap (Answers.either first second) where
  keeps calm := by
    obtain ⟨calm, calm'⟩ := not_or.mp calm
    rw [acts.keeps calm]
    exact acts'.keeps calm'
  replaces now action answered := by
    by_cases here : due
    · cases given : first with
      | error error =>
          rw [given] at answered
          cases answered
      | ok taken =>
          obtain ⟨others, replaced, inert⟩ := acts.replaces here taken given
          rw [given] at answered
          cases taken with
          | keep => cases replaced
          | one | many =>
              cases answered
              exact ⟨others, replaced, inert⟩
    · rw [acts.keeps here] at answered
      exact acts'.replaces (now.resolve_left here) action answered

/-- What a node becomes is not due, if no inert node is. -/
theorem calm_after {node : α} {concerned : Node → Prop}
    (acts : ActsIf (concerned (wrap node)) wrap first)
    (inert : ∀ other : Node, other.Inert → ¬ concerned other) {action : Action α}
    (answered : first = .ok action) : ∀ other ∈ action.after node, ¬ concerned (wrap other) := by
  by_cases now : concerned (wrap node)
  · obtain ⟨others, replaced, all⟩ := acts.replaces now action answered
    rw [Action.after, replaced]
    intro other member
    exact inert (wrap other) (all other member)
  · cases (acts.keeps now).symm.trans answered
    exact List.forall_mem_singleton.mpr now

end ActsIf

/-- Answers that act upon the nodes that are due. -/
structure Answers.Serves (answers : Answers) (due : Node → Prop) : Prop where
  inline (node : Inline) : ActsIf (due (.inline node)) Node.inline (answers.inline node)
  block (node : Block) : ActsIf (due (.block node)) Node.block (answers.block node)

namespace Answers.Serves

variable {answers : Answers} {due : Node → Prop}

theorem keeps (serves : answers.Serves due) {node : Node} (calm : ¬ due node) :
    answers.Keeps node := by
  cases node with
  | inline node => exact (serves.inline node).keeps calm
  | block node => exact (serves.block node).keeps calm

theorem of_iff {due' : Node → Prop} (serves : answers.Serves due)
    (same : ∀ node, due node ↔ due' node) : answers.Serves due' where
  inline node := (serves.inline node).of_iff (same (.inline node))
  block node := (serves.block node).of_iff (same (.block node))

theorem orElse {first second : Answers} {due' : Node → Prop} (serves : first.Serves due)
    (serves' : second.Serves due') :
    (first.orElse second).Serves fun node => due node ∨ due' node where
  inline node := (serves.inline node).either (serves'.inline node)
  block node := (serves.block node).either (serves'.block node)

/-- A walk with answers that act upon what concerns some renderings leaves nothing that
does. -/
theorem settles {format : String} {renderings : List Rendering}
    (serves : answers.Serves (Rendering.SomeConcerns format renderings)) :
    answers.Settles (Rendering.SomeConcerns format renderings) where
  inline node _ answered :=
    (serves.inline node).calm_after (fun _ => Rendering.not_someConcerns) answered
  block node _ answered :=
    (serves.block node).calm_after (fun _ => Rendering.not_someConcerns) answered
  rebuiltInline {x y} alike concerns := by
    refine concerns.mono (fun code => ?_) nofun
    rwa [Node.isCode, alike.kind_eq]
  rebuiltBlock {x y} alike concerns := by
    refine concerns.mono (fun code => ?_) alike.isCaptionedTable
    rwa [Node.isCode, alike.kind_eq]

end Answers.Serves

/-! ## Renderings -/

theorem Report.outcome_bind {α β : Type} (report : Report α) (next : α → Report β) :
    (report >>= next).outcome = report.outcome >>= fun value => (next value).outcome := by
  obtain ⟨outcome, notices⟩ := report
  cases outcome <;> rfl

/-- A table with a caption that can be taken apart has parts. -/
theorem Tabular.TableParts.exists_of_caption {table : Table} {made : Option TableParts}
    (captioned : (Node.block (.table table)).isCaptionedTable = true)
    (taken : (ofTable? table).outcome = .ok made) : ∃ parts, made = some parts := by
  obtain ⟨attr, ⟨short, long⟩, colSpecs, head, bodies, foot⟩ := table
  cases long with
  | nil => cases captioned
  | cons first others =>
      unfold ofTable? at taken
      dsimp only at taken
      simp only [Report.outcome_bind] at taken
      obtain ⟨title, -, taken⟩ := exists_of_bind_eq_ok taken
      obtain ⟨header, -, taken⟩ := exists_of_bind_eq_ok taken
      obtain ⟨body, -, taken⟩ := exists_of_bind_eq_ok taken
      cases taken
      exact ⟨_, rfl⟩

/-- Tables without a caption are not taken apart. -/
theorem Tabular.TableParts.ofTable?_of_no_caption {table : Table}
    (bare : (Node.block (.table table)).isCaptionedTable ≠ true) :
    (ofTable? table).outcome = .ok none := by
  obtain ⟨attr, ⟨short, long⟩, colSpecs, head, bodies, foot⟩ := table
  cases long with
  | nil => rfl
  | cons first others => exact absurd rfl bare

theorem Tabular.Rendered.inert {related : Inline → Inline → Prop} {x y : Block}
    (rendered : Rendered related x y) : (Node.block y).Inert := by
  cases rendered <;> exact ⟨rfl, rfl⟩

theorem ActsIf.replaces_of_map {α β : Type} {wrap : α → Node} {f : β → α}
    {outcome : Except Error β} (inert : ∀ value, (wrap (f value)).Inert) {action : Action α}
    (answered : outcome.map (fun value => .one (f value)) = .ok action) :
    ∃ others, action.replacements? = some others ∧ ∀ other ∈ others, (wrap other).Inert := by
  cases outcome with
  | error error => cases answered
  | ok value =>
      cases answered
      exact ⟨[f value], rfl, List.forall_mem_singleton.mpr (inert value)⟩

namespace Rendering

/-- What becomes of nodes of a document for a format. -/
def answers (format : String) : Rendering → Answers
  | .listings renderer =>
      ⟨fun node => (renderer.onInline ⟨format, []⟩ node).outcome,
        fun node => (renderer.onBlock ⟨format, []⟩ node).outcome⟩
  | .tables options => options.answers format

theorem gives_answers {σ : Type} (rendering : Rendering) (context : Context) :
    (rendering.filter (σ := σ)).Gives context (rendering.answers context.format) := by
  cases rendering with
  | listings renderer => exact ⟨fun _ _ => rfl, fun _ _ => rfl⟩
  | tables options => exact options.gives_answers context

/-- A renderer of listings acts upon code. -/
theorem listings_serves (renderer : Listing.Renderer) (format : String) :
    (answers format (.listings renderer)).Serves (Concerns format (.listings renderer)) where
  inline node :=
    { keeps := fun calm =>
        Listing.Renderer.onInline_keep fun target code => calm ⟨target, beq_iff_eq.mpr code⟩
      replaces := by
        rintro ⟨target, code⟩ action answered
        obtain ⟨attr, text, rfl⟩ := Inline.exists_of_kind_code (beq_iff_eq.mp code)
        have marked := (Listing.Renderer.onInline_code target attr text).symm.trans answered
        exact ActsIf.replaces_of_map (fun _ => ⟨rfl, rfl⟩) marked }
  block node :=
    { keeps := fun calm =>
        Listing.Renderer.onBlock_keep fun target code => calm ⟨target, beq_iff_eq.mpr code⟩
      replaces := by
        rintro ⟨target, code⟩ action answered
        obtain ⟨attr, text, rfl⟩ := Block.exists_of_kind_code (beq_iff_eq.mp code)
        have marked := (Listing.Renderer.onBlock_code target attr text).symm.trans answered
        exact ActsIf.replaces_of_map (fun _ => ⟨rfl, rfl⟩) marked }

/-- A renderer of tables acts upon tables with a caption. -/
theorem tables_serves (options : Tabular.Options) (format : String) :
    (answers format (.tables options)).Serves (Concerns format (.tables options)) where
  inline node := ⟨fun _ => rfl, nofun⟩
  block node :=
    { keeps := by
        intro calm
        rcases options.table_or_other format node with ⟨table, rfl, target⟩ | other
        · have bare : (Node.block (.table table)).isCaptionedTable ≠ true :=
            fun captioned => calm ⟨target, captioned⟩
          show (options.answers format).block (.table table) = _
          rw [Tabular.Options.answers_table target,
            Tabular.TableParts.ofTable?_of_no_caption bare]
          rfl
        · exact Tabular.Options.answers_keep node other
      replaces := by
        rintro ⟨target, captioned⟩ action answered
        rcases options.table_or_other format node with ⟨table, rfl, -⟩ | other
        · have taken := (Tabular.Options.answers_table target table).symm.trans answered
          cases outcome : (Tabular.TableParts.ofTable? table).outcome with
          | error error =>
              rw [outcome] at taken
              cases taken
          | ok made =>
              obtain ⟨parts, rfl⟩ := Tabular.TableParts.exists_of_caption captioned outcome
              rw [outcome] at taken
              cases taken
              have rendered := Tabular.render_rel options (fun _ => rfl) parts.alike_refl
              exact ⟨_, rfl, forall_of_forall₂ (fun _ _ block => block.inert) rendered⟩
        · cases node with
          | table table => exact absurd rfl (other target)
          | _ => cases captioned }

theorem serves (rendering : Rendering) (format : String) :
    (rendering.answers format).Serves (rendering.Concerns format) := by
  cases rendering with
  | listings renderer => exact listings_serves renderer format
  | tables options => exact tables_serves options format

end Rendering

/-! ## Chains -/

theorem Answers.keep_serves {due : Node → Prop} (calm : ∀ node, ¬ due node) :
    keep.Serves due where
  inline node := ⟨fun _ => rfl, fun now => absurd now (calm (.inline node))⟩
  block node := ⟨fun _ => rfl, fun now => absurd now (calm (.block node))⟩

namespace Chain

mutual

def answers (format : String) : Chain Rendering → Answers
  | .leaf rendering => rendering.answers format
  | .identity => .keep
  | .composite members => answersOf format members

def answersOf (format : String) : List (Chain Rendering) → Answers
  | [] => .keep
  | member :: rest => (member.answers format).orElse (answersOf format rest)

end

section

variable {σ : Type} (context : Context)

mutual

theorem gives_answers : ∀ chain : Chain Rendering,
    (chain.rendering (σ := σ)).Gives context (chain.answers context.format)
  | .leaf rendering => rendering.gives_answers context
  | .identity => NodeFilter.identity_gives
  | .composite members => Chain.gives_answersOf members

theorem gives_answersOf : ∀ members : List (Chain Rendering),
    (toFilters (σ := σ) Rendering.filter members).Gives context
      (answersOf context.format members)
  | [] => NodeFilter.identity_gives
  | member :: rest => (Chain.gives_answers member).orElse (Chain.gives_answersOf rest)

end

end

section

variable (format : String)

mutual

/-- A chain acts upon what concerns any of the renderings in it. -/
theorem serves : ∀ chain : Chain Rendering,
    (chain.answers format).Serves (Rendering.SomeConcerns format chain.leaves)
  | .leaf rendering => (rendering.serves format).of_iff Rendering.someConcerns_singleton
  | .identity => Answers.keep_serves Rendering.not_someConcerns_nil
  | .composite members => Chain.serves_all members

theorem serves_all : ∀ members : List (Chain Rendering),
    (answersOf format members).Serves (Rendering.SomeConcerns format (leavesOf members))
  | [] => Answers.keep_serves Rendering.not_someConcerns_nil
  | member :: rest =>
      ((Chain.serves member).orElse (Chain.serves_all rest)).of_iff
        Rendering.someConcerns_append

end

end

end Chain

/-- A document that comes of a walk with a chain of renderings has no code if the chain
renders listings for the format, and no table with a caption if it renders tables for the
format; and in another walk with the chain it stays as it is. -/
theorem Document.filter_complete {chain : Chain Rendering} {source result : Document}
    {format : String} {limit : Nat} {σ : Type} {state : σ}
    (walked : (source.filter chain.rendering format limit state).result = .ok result) :
    (∀ renderer, .listings renderer ∈ chain.leaves →
      renderer.options.targetFormat = format → ∀ node ∈ result.nodes, node.isCode = false) ∧
    (∀ options, .tables options ∈ chain.leaves →
      options.targetFormat = format → ∀ node ∈ result.nodes, node.isCaptionedTable = false) ∧
    ∀ again : σ,
      (result.filter chain.rendering format limit again).result = .ok result ∧
        (result.walkStats chain.rendering format limit again).replaced = 0 := by
  have gives (document : Document) :=
    chain.gives_answers (σ := σ) ⟨format, document.metadata⟩
  have serves := chain.serves format
  rw [(gives source).result] at walked
  have calm := serves.settles.document walked
  refine ⟨?_, ?_, ?_⟩
  · intro renderer listed target node member
    refine Bool.eq_false_iff.mpr fun code => calm node member ?_
    exact ⟨.listings renderer, listed, target, code⟩
  · intro options listed target node member
    refine Bool.eq_false_iff.mpr fun captioned => calm node member ?_
    exact ⟨.tables options, listed, target, captioned⟩
  · intro again
    have fits := Answers.height_le_of_document walked
    exact filter_of_keeps fits (gives result) fun node member => serves.keeps (calm node member)

/-- A chain in a chain: tables are rendered before listings. -/
def Chain.nested : Chain Rendering :=
  .composite [.composite [.identity, .leaf (.tables {})], .leaf (.listings ⟨.bare⟩)]

/-- Tables in one another, with code in them, are rendered once and for all. -/
theorem Document.filter_complete_nestedTables :
    ∃ result,
      (nestedTables.filter Chain.nested.rendering "latex" 7 ()).result = .ok result ∧
      (∀ node ∈ result.nodes, node.isCode = false ∧ node.isCaptionedTable = false) ∧
      (result.filter Chain.nested.rendering "latex" 7 ()).result = .ok result ∧
      (result.walkStats Chain.nested.rendering "latex" 7 ()).replaced = 0 := by
  obtain ⟨result, walked⟩ : ∃ result,
      (nestedTables.filter Chain.nested.rendering "latex" 7 ()).result = .ok result :=
    exists_of_isOk (by decide +kernel)
  have tables : .tables {} ∈ Chain.nested.leaves := by decide +kernel
  have listings : .listings ⟨.bare⟩ ∈ Chain.nested.leaves := by decide +kernel
  obtain ⟨code, captioned, again⟩ := filter_complete walked
  refine ⟨result, walked, fun node member => ⟨?_, ?_⟩, again ()⟩
  · exact code _ listings rfl node member
  · exact captioned _ tables rfl node member

end DocFilter
