import DocFilter.Proofs.Document.Height
import Mathlib.Control.Basic

/-!
# Related traversals

A traversal does not look at the children that it visits, nor at the monad it
runs in. Two traversals of nodes that are alike are therefore related in any way
that sequencing respects, if the visits of their children are.
-/

namespace DocFilter

/-- A way of relating computations in two monads, given a relation of their
results, that holds of results and is kept by sequencing. -/
structure Relator (m n : Type → Type) [Monad m] [Monad n] where
  rel {α β : Type} : (α → β → Prop) → m α → n β → Prop
  pure {α β : Type} {results : α → β → Prop} {a : α} {b : β} :
    results a b → rel results (pure a) (pure b)
  bind {α β γ δ : Type} {results : α → β → Prop} {others : γ → δ → Prop} {x : m α} {y : n β}
    {f : α → m γ} {g : β → n δ} :
    rel results x y → (∀ a b, results a b → rel others (f a) (g b)) →
      rel others (x >>= f) (y >>= g)

namespace Relator

variable {m n : Type → Type} [Monad m] [Monad n]
  (relator : Relator m n)

theorem map {α β γ δ : Type} {results : α → β → Prop} {others : γ → δ → Prop} {x : m α}
    {y : n β} {f : α → γ} {g : β → δ} (related : relator.rel results x y)
    (mapped : ∀ a b, results a b → others (f a) (g b)) :
    relator.rel others (do return f (← x)) (do return g (← y)) :=
  relator.bind related fun a b same => relator.pure (mapped a b same)

section

variable {inlinesIn inlinesOut : List Inline → List Inline → Prop}
  {blocksIn blocksOut : List Block → List Block → Prop}
  {f : List Inline → m (List Inline)} {g : List Inline → n (List Inline)}
  {h : List Block → m (List Block)} {k : List Block → n (List Block)}

mutual

/-- Traversals of metadata values are related if the visits of the lists in them are. -/
theorem traverseMeta (inlines : ∀ xs ys, inlinesIn xs ys → relator.rel inlinesOut (f xs) (g ys))
    (blocks : ∀ xs ys, blocksIn xs ys → relator.rel blocksOut (h xs) (k ys)) {x y : MetaValue}
    (alike : x.Alike inlinesIn blocksIn y) :
    relator.rel (MetaValue.Alike inlinesOut blocksOut) (x.traverse f h) (y.traverse g k) := by
  cases alike with
  | map each => exact relator.map (traverseEntries inlines blocks each) fun _ _ => .map
  | list each => exact relator.map (traverseItems inlines blocks each) fun _ _ => .list
  | bool value => exact relator.pure (.bool value)
  | string text => exact relator.pure (.string text)
  | inlines inside => exact relator.map (inlines _ _ inside) fun _ _ => .inlines
  | blocks inside => exact relator.map (blocks _ _ inside) fun _ _ => .blocks

theorem traverseItems (inlines : ∀ xs ys, inlinesIn xs ys → relator.rel inlinesOut (f xs) (g ys))
    (blocks : ∀ xs ys, blocksIn xs ys → relator.rel blocksOut (h xs) (k ys))
    {xs ys : List MetaValue}
    (alike : MetaValue.AlikeItems inlinesIn blocksIn xs ys) :
    relator.rel (MetaValue.AlikeItems inlinesOut blocksOut) (MetaValue.traverseItems f h xs)
      (MetaValue.traverseItems g k ys) := by
  cases alike with
  | nil => exact relator.pure .nil
  | cons first others =>
      refine relator.bind (traverseMeta inlines blocks first) fun _ _ first => ?_
      refine relator.bind (traverseItems inlines blocks others) fun _ _ others => ?_
      exact relator.pure (.cons first others)

theorem traverseEntries (inlines : ∀ xs ys, inlinesIn xs ys → relator.rel inlinesOut (f xs) (g ys))
    (blocks : ∀ xs ys, blocksIn xs ys → relator.rel blocksOut (h xs) (k ys))
    {xs ys : List (String × MetaValue)}
    (alike : MetaValue.AlikeEntries inlinesIn blocksIn xs ys) :
    relator.rel (MetaValue.AlikeEntries inlinesOut blocksOut) (MetaValue.traverseEntries f h xs)
      (MetaValue.traverseEntries g k ys) := by
  cases alike with
  | nil => exact relator.pure .nil
  | cons first others =>
      refine relator.bind (traverseMeta inlines blocks first) fun _ _ first => ?_
      refine relator.bind (traverseEntries inlines blocks others) fun _ _ others => ?_
      exact relator.pure (.cons first others)

end

variable (inlines : ∀ xs ys, inlinesIn xs ys → relator.rel inlinesOut (f xs) (g ys))
  (blocks : ∀ xs ys, blocksIn xs ys → relator.rel blocksOut (h xs) (k ys))

include inlines in
theorem traverseCitation {x y : Citation} (alike : x.Alike inlinesIn y) :
    relator.rel (Citation.Alike inlinesOut) (x.traverse f) (y.traverse g) := by
  cases alike with
  | intro front back =>
      refine relator.bind (inlines _ _ front) fun before before' front => ?_
      refine relator.bind (inlines _ _ back) fun after after' back => ?_
      exact relator.pure (.intro front back)

include blocks in
theorem traverseCell {x y : Cell} (alike : x.Alike blocksIn y) :
    relator.rel (Cell.Alike blocksOut) (x.traverse h) (y.traverse k) := by
  cases alike with
  | intro inside => exact relator.map (blocks _ _ inside) fun _ _ => .intro

include inlines blocks in
theorem traverseDocument {x y : Document} (alike : x.Alike inlinesIn blocksIn y) :
    relator.rel (Document.Alike inlinesOut blocksOut) (x.traverse f h) (y.traverse g k) := by
  cases alike with
  | intro entries inside =>
      refine relator.bind (relator.traverseEntries inlines blocks entries) fun _ _ entries => ?_
      refine relator.bind (blocks _ _ inside) fun _ _ inside => ?_
      exact relator.pure (.intro entries inside)

end

section Lawful

variable [LawfulMonad m] [LawfulMonad n]

/-- A relation of results may be replaced by one that follows from it. -/
theorem mono {α β : Type} {results others : α → β → Prop} {x : m α} {y : n β}
    (related : relator.rel results x y) (implies : ∀ a b, results a b → others a b) :
    relator.rel others x y := by
  have again := relator.bind related fun a b same => relator.pure (implies a b same)
  rwa [bind_pure, bind_pure] at again

/-- Computations for the elements of two lists are related if they are related one by one. -/
theorem mapM {α β γ δ : Type} {elements : α → β → Prop} {results : γ → δ → Prop} {f : α → m γ}
    {g : β → n δ} {xs : List α} {ys : List β} (each : List.Forall₂ elements xs ys)
    (related : ∀ a b, elements a b → relator.rel results (f a) (g b)) :
    relator.rel (List.Forall₂ results) (xs.mapM f) (ys.mapM g) := by
  induction each with
  | nil =>
      rw [List.mapM_nil, List.mapM_nil]
      exact relator.pure .nil
  | cons first rest ih =>
      rw [List.mapM_cons, List.mapM_cons]
      refine relator.bind (related _ _ first) fun a b same => ?_
      refine relator.bind ih fun others others' alike => ?_
      exact relator.pure (.cons same alike)

theorem optionMapM {α β γ δ : Type} {elements : α → β → Prop} {results : γ → δ → Prop}
    {f : α → m γ} {g : β → n δ} {x : Option α} {y : Option β} (each : Option.Rel elements x y)
    (related : ∀ a b, elements a b → relator.rel results (f a) (g b)) :
    relator.rel (Option.Rel results) (x.mapM f) (y.mapM g) := by
  cases each with
  | none => exact relator.pure .none
  | some same =>
      rw [Option.mapM_some, Option.mapM_some, map_eq_pure_bind, map_eq_pure_bind]
      exact relator.map (related _ _ same) fun _ _ => .some

variable {inlinesIn inlinesOut : List Inline → List Inline → Prop}
  {blocksIn blocksOut : List Block → List Block → Prop}
  {f : List Inline → m (List Inline)} {g : List Inline → n (List Inline)}
  {h : List Block → m (List Block)} {k : List Block → n (List Block)}
  (inlines : ∀ xs ys, inlinesIn xs ys → relator.rel inlinesOut (f xs) (g ys))
  (blocks : ∀ xs ys, blocksIn xs ys → relator.rel blocksOut (h xs) (k ys))

include inlines blocks in
/-- Traversals of inlines are related if the visits of their children are. -/
theorem traverseInline {x y : Inline} (alike : x.Alike inlinesIn blocksIn y) :
    relator.rel (Inline.Alike inlinesOut blocksOut) (x.traverse f h) (y.traverse g k) := by
  cases alike with
  | str text => exact relator.pure (.str text)
  | emph inside => exact relator.map (inlines _ _ inside) fun _ _ => .emph
  | underline inside => exact relator.map (inlines _ _ inside) fun _ _ => .underline
  | strong inside => exact relator.map (inlines _ _ inside) fun _ _ => .strong
  | strikeout inside => exact relator.map (inlines _ _ inside) fun _ _ => .strikeout
  | superscript inside => exact relator.map (inlines _ _ inside) fun _ _ => .superscript
  | subscript inside => exact relator.map (inlines _ _ inside) fun _ _ => .subscript
  | smallCaps inside => exact relator.map (inlines _ _ inside) fun _ _ => .smallCaps
  | quoted inside => exact relator.map (inlines _ _ inside) fun _ _ => .quoted
  | cite each inside =>
      refine relator.bind
        (relator.mapM each fun _ _ => relator.traverseCitation inlines) fun _ _ each => ?_
      refine relator.bind (inlines _ _ inside) fun _ _ inside => ?_
      exact relator.pure (.cite each inside)
  | code attr text => exact relator.pure (.code attr text)
  | space => exact relator.pure .space
  | softBreak => exact relator.pure .softBreak
  | lineBreak => exact relator.pure .lineBreak
  | math type text => exact relator.pure (.math type text)
  | raw format text => exact relator.pure (.raw format text)
  | link inside => exact relator.map (inlines _ _ inside) fun _ _ => .link
  | image inside => exact relator.map (inlines _ _ inside) fun _ _ => .image
  | note inside => exact relator.map (blocks _ _ inside) fun _ _ => .note
  | span inside => exact relator.map (inlines _ _ inside) fun _ _ => .span

include inlines blocks in
theorem traverseCaption {x y : Caption} (alike : x.Alike inlinesIn blocksIn y) :
    relator.rel (Caption.Alike inlinesOut blocksOut) (x.traverse f h) (y.traverse g k) := by
  cases alike with
  | intro brief inside =>
      refine relator.bind (relator.optionMapM brief inlines) fun _ _ brief => ?_
      refine relator.bind (blocks _ _ inside) fun _ _ inside => ?_
      exact relator.pure (.intro brief inside)

include blocks in
theorem traverseRow {x y : Row} (alike : x.Alike blocksIn y) :
    relator.rel (Row.Alike blocksOut) (x.traverse h) (y.traverse k) := by
  cases alike with
  | intro each =>
      have cells := relator.mapM each fun _ _ => relator.traverseCell blocks
      exact relator.map cells fun _ _ => .intro

include blocks in
theorem traverseRows {xs ys : List Row} (each : List.Forall₂ (Row.Alike blocksIn) xs ys) :
    relator.rel (List.Forall₂ (Row.Alike blocksOut)) (xs.mapM (Row.traverse h))
      (ys.mapM (Row.traverse k)) :=
  relator.mapM each fun _ _ => relator.traverseRow blocks

include blocks in
theorem traverseTableBody {x y : TableBody} (alike : x.Alike blocksIn y) :
    relator.rel (TableBody.Alike blocksOut) (x.traverse h) (y.traverse k) := by
  cases alike with
  | intro heading each =>
      refine relator.bind (relator.traverseRows blocks heading) fun _ _ heading => ?_
      refine relator.bind (relator.traverseRows blocks each) fun _ _ each => ?_
      exact relator.pure (.intro heading each)

include inlines blocks in
theorem traverseTable {x y : Table} (alike : x.Alike inlinesIn blocksIn y) :
    relator.rel (Table.Alike inlinesOut blocksOut) (x.traverse f h) (y.traverse g k) := by
  cases alike with
  | intro captions heads each feet =>
      refine relator.bind (relator.traverseCaption inlines blocks captions) fun _ _ captions => ?_
      refine relator.bind (relator.traverseRows blocks heads) fun _ _ heads => ?_
      refine relator.bind
        (relator.mapM each fun _ _ => relator.traverseTableBody blocks) fun _ _ each => ?_
      refine relator.bind (relator.traverseRows blocks feet) fun _ _ feet => ?_
      exact relator.pure (.intro captions heads each feet)

include inlines blocks in
theorem traverseBlock {x y : Block} (alike : x.Alike inlinesIn blocksIn y) :
    relator.rel (Block.Alike inlinesOut blocksOut) (x.traverse f h) (y.traverse g k) := by
  cases alike with
  | plain inside => exact relator.map (inlines _ _ inside) fun _ _ => .plain
  | para inside => exact relator.map (inlines _ _ inside) fun _ _ => .para
  | lineBlock each => exact relator.map (relator.mapM each inlines) fun _ _ => .lineBlock
  | code attr text => exact relator.pure (.code attr text)
  | raw format text => exact relator.pure (.raw format text)
  | blockQuote inside => exact relator.map (blocks _ _ inside) fun _ _ => .blockQuote
  | orderedList each => exact relator.map (relator.mapM each blocks) fun _ _ => .orderedList
  | bulletList each => exact relator.map (relator.mapM each blocks) fun _ _ => .bulletList
  | definitionList each =>
      refine relator.map (relator.mapM each ?_) fun _ _ => .definitionList
      rintro _ _ ⟨defined, each⟩
      refine relator.bind (inlines _ _ defined) fun _ _ defined => ?_
      refine relator.bind (relator.mapM each blocks) fun _ _ each => ?_
      exact relator.pure (.intro defined each)
  | header inside => exact relator.map (inlines _ _ inside) fun _ _ => .header
  | horizontalRule => exact relator.pure .horizontalRule
  | table inside =>
      exact relator.map (relator.traverseTable inlines blocks inside) fun _ _ => .table
  | figure captions inside =>
      refine relator.bind (relator.traverseCaption inlines blocks captions) fun _ _ captions => ?_
      refine relator.bind (blocks _ _ inside) fun _ _ inside => ?_
      exact relator.pure (.figure captions inside)
  | div inside => exact relator.map (blocks _ _ inside) fun _ _ => .div

end Lawful

end Relator

/-! ## Results that agree -/

/-- Two outcomes are results or errors alike, and these are related. -/
inductive Agree {ε ε' α β : Type} (halts : ε → ε' → Prop) (results : α → β → Prop) :
    Except ε α → Except ε' β → Prop where
  | ok {a : α} {b : β} (same : results a b) : Agree halts results (.ok a) (.ok b)
  | error {e : ε} {e' : ε'} (same : halts e e') : Agree halts results (.error e) (.error e')

theorem Agree.eq {ε α : Type} {x y : Except ε α} (agree : Agree Eq Eq x y) : x = y := by
  cases agree with
  | ok same => rw [same]
  | error same => rw [same]

/-- Computations that may fail are related by their outcomes. -/
def Relator.agree {ε ε' : Type} (halts : ε → ε' → Prop) : Relator (Except ε) (Except ε') where
  rel := Agree halts
  pure same := .ok same
  bind related follow := by
    cases related with
    | ok same => exact follow _ _ same
    | error same => exact .error same

/-- Computations that may fail are related if the results are when there are both. -/
def Relator.onResults {ε ε' : Type} : Relator (Except ε) (Except ε') where
  rel results x y := ∀ a b, x = .ok a → y = .ok b → results a b
  pure same := by
    rintro _ _ ⟨⟩ ⟨⟩
    exact same
  bind {α β γ δ results others x y f g} related follow := by
    intro c d first second
    cases x with
    | error => cases first
    | ok a =>
        cases y with
        | error => cases second
        | ok b => exact follow a b (related a b rfl rfl) c d first second

/-! ## Visits that change nothing -/

section

variable {m : Type → Type} [Monad m] [LawfulMonad m]

theorem mapM_eq_pure {α : Type} {f : α → m α} (same : ∀ a, f a = pure a) (xs : List α) :
    xs.mapM f = pure xs := by
  induction xs with
  | nil => exact List.mapM_nil
  | cons x rest ih => rw [List.mapM_cons, same, ih, pure_bind, pure_bind]

theorem Citation.traverse_pure (citation : Citation) :
    citation.traverse (m := m) pure = pure citation := by
  obtain ⟨key, before, after, mode, noteNumber, hash⟩ := citation
  rw [traverse, pure_bind, pure_bind]

/-- A traversal of an inline that leaves its children alone leaves the inline alone. -/
theorem Inline.traverse_pure (inline : Inline) :
    inline.traverse (m := m) pure pure = pure inline := by
  cases inline with
  | cite citations content =>
      rw [traverse, mapM_eq_pure Citation.traverse_pure, pure_bind, pure_bind]
  | str | code | space | softBreak | lineBreak | math | raw => rfl
  | emph | underline | strong | strikeout | superscript | subscript | smallCaps | quoted | link
  | image | note | span => exact pure_bind _ _

theorem Caption.traverse_pure (caption : Caption) :
    caption.traverse (m := m) pure pure = pure caption := by
  obtain ⟨short, long⟩ := caption
  cases short with
  | none =>
      rw [traverse, Option.mapM_none, pure_bind, pure_bind]
  | some short =>
      rw [traverse, Option.mapM_some, map_pure, pure_bind, pure_bind]

theorem Cell.traverse_pure (cell : Cell) : cell.traverse (m := m) pure = pure cell := by
  obtain ⟨attr, alignment, rowSpan, colSpan, content⟩ := cell
  rw [traverse, pure_bind]

theorem Row.traverse_pure (row : Row) : row.traverse (m := m) pure = pure row := by
  obtain ⟨attr, cells⟩ := row
  rw [traverse, mapM_eq_pure Cell.traverse_pure, pure_bind]

theorem TableBody.traverse_pure (body : TableBody) :
    body.traverse (m := m) pure = pure body := by
  obtain ⟨attr, rowHeadColumns, head, rows⟩ := body
  rw [traverse, mapM_eq_pure Row.traverse_pure, mapM_eq_pure Row.traverse_pure, pure_bind,
    pure_bind]

theorem Table.traverse_pure (table : Table) :
    table.traverse (m := m) pure pure = pure table := by
  obtain ⟨attr, caption, colSpecs, ⟨headAttr, head⟩, bodies, ⟨footAttr, foot⟩⟩ := table
  rw [traverse, Caption.traverse_pure, mapM_eq_pure Row.traverse_pure,
    mapM_eq_pure TableBody.traverse_pure, mapM_eq_pure Row.traverse_pure, pure_bind, pure_bind,
    pure_bind, pure_bind]

theorem Block.traverse_pure (block : Block) :
    block.traverse (m := m) pure pure = pure block := by
  cases block with
  | lineBlock lines => rw [traverse, mapM_eq_pure fun _ => rfl, pure_bind]
  | orderedList attributes items => rw [traverse, mapM_eq_pure fun _ => rfl, pure_bind]
  | bulletList items => rw [traverse, mapM_eq_pure fun _ => rfl, pure_bind]
  | definitionList items =>
      rw [traverse, mapM_eq_pure ?_, pure_bind]
      intro item
      dsimp only
      rw [mapM_eq_pure fun _ => rfl, pure_bind, pure_bind]
  | table table => rw [traverse, Table.traverse_pure, pure_bind]
  | figure attr caption content =>
      rw [traverse, Caption.traverse_pure, pure_bind, pure_bind]
  | code | raw | horizontalRule => rfl
  | plain | para | blockQuote | header | div => exact pure_bind _ _

mutual

theorem MetaValue.traverse_pure : ∀ value : MetaValue,
    value.traverse (m := m) pure pure = pure value
  | .map entries => by rw [MetaValue.traverse, MetaValue.traverseEntries_pure, pure_bind]
  | .list items => by rw [MetaValue.traverse, MetaValue.traverseItems_pure, pure_bind]
  | .bool _ => rfl
  | .string _ => rfl
  | .inlines _ => pure_bind _ _
  | .blocks _ => pure_bind _ _

theorem MetaValue.traverseItems_pure : ∀ values : List MetaValue,
    MetaValue.traverseItems (m := m) pure pure values = pure values
  | [] => rfl
  | value :: rest => by
      rw [MetaValue.traverseItems, MetaValue.traverse_pure, MetaValue.traverseItems_pure,
        pure_bind, pure_bind]

theorem MetaValue.traverseEntries_pure : ∀ entries : List (String × MetaValue),
    MetaValue.traverseEntries (m := m) pure pure entries = pure entries
  | [] => rfl
  | (key, value) :: rest => by
      rw [MetaValue.traverseEntries, MetaValue.traverse_pure, MetaValue.traverseEntries_pure,
        pure_bind, pure_bind]

end

theorem Document.traverse_pure (document : Document) :
    document.traverse (m := m) pure pure = pure document := by
  rw [traverse, MetaValue.traverseEntries_pure, pure_bind, pure_bind]

end

/-! ## Frames -/

section

variable {ε : Type}

theorem onResults_pure {α : Type} {related : α → α → Prop} {visit : α → Except ε α}
    (visited : ∀ a b, visit a = .ok b → related a b) (a a' : α) (same : a = a') :
    (Relator.onResults : Relator (Except ε) (Except ε)).rel related (pure a) (visit a') := by
  rintro _ b ⟨⟩ made
  exact visited a b (same ▸ made)

variable {f : List Inline → Except ε (List Inline)} {h : List Block → Except ε (List Block)}
  {inlines : List Inline → List Inline → Prop} {blocks : List Block → List Block → Prop}
  (visitedInlines : ∀ xs ys, f xs = .ok ys → inlines xs ys)
  (visitedBlocks : ∀ xs ys, h xs = .ok ys → blocks xs ys)

include visitedInlines visitedBlocks

/-- A traversal of an inline leaves its frame as it is. -/
theorem Inline.alike_of_traverse {x y : Inline} (traversed : x.traverse f h = .ok y) :
    x.Alike inlines blocks y := by
  have alike : x.Alike Eq Eq x := x.alike_refl (fun _ => rfl) (fun _ => rfl)
  have related := Relator.onResults.traverseInline (onResults_pure visitedInlines)
    (onResults_pure visitedBlocks) alike
  rw [Inline.traverse_pure] at related
  exact related x y rfl traversed

theorem Block.alike_of_traverse {x y : Block} (traversed : x.traverse f h = .ok y) :
    x.Alike inlines blocks y := by
  have alike : x.Alike Eq Eq x := x.alike_refl (fun _ => rfl) (fun _ => rfl)
  have related := Relator.onResults.traverseBlock (onResults_pure visitedInlines)
    (onResults_pure visitedBlocks) alike
  rw [Block.traverse_pure] at related
  exact related x y rfl traversed

theorem Document.alike_of_traverse {x y : Document} (traversed : x.traverse f h = .ok y) :
    x.Alike inlines blocks y := by
  have alike : x.Alike Eq Eq x := x.alike_refl (fun _ => rfl) (fun _ => rfl)
  have related := Relator.onResults.traverseDocument (onResults_pure visitedInlines)
    (onResults_pure visitedBlocks) alike
  rw [Document.traverse_pure] at related
  exact related x y rfl traversed

omit visitedInlines visitedBlocks

theorem Inline.kind_eq_of_traverse {x y : Inline} (traversed : x.traverse f h = .ok y) :
    x.kind = y.kind := by
  have alike : x.Alike (fun _ _ => True) (fun _ _ => True) y :=
    Inline.alike_of_traverse (fun _ _ _ => trivial) (fun _ _ _ => trivial) traversed
  exact alike.kind_eq

theorem Block.kind_eq_of_traverse {x y : Block} (traversed : x.traverse f h = .ok y) :
    x.kind = y.kind := by
  have alike : x.Alike (fun _ _ => True) (fun _ _ => True) y :=
    Block.alike_of_traverse (fun _ _ _ => trivial) (fun _ _ _ => trivial) traversed
  exact alike.kind_eq

end

end DocFilter
