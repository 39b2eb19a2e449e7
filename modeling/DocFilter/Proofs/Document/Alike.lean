import DocFilter.Document.Traverse
import Mathlib.Data.List.Forall2
import Mathlib.Data.Option.Defs

/-!
# Nodes with the same frame

Two nodes are alike if they differ at most in the lists of their children. How
these lists are related is left open: equality gives equality of the nodes, and a
relation that always holds leaves nothing but the frame.
-/

namespace DocFilter

section

variable (inlines : List Inline → List Inline → Prop) (blocks : List Block → List Block → Prop)

/-- Citations with the same key, mode, note number and hash. -/
inductive Citation.Alike : Citation → Citation → Prop where
  | intro {key : String} {mode : CitationMode} {noteNumber hash : Int32}
      {before before' after after' : List Inline} (front : inlines before before')
      (back : inlines after after') :
      Alike ⟨key, before, after, mode, noteNumber, hash⟩
        ⟨key, before', after', mode, noteNumber, hash⟩

/-- Inlines of one kind with the same data besides their children. -/
inductive Inline.Alike : Inline → Inline → Prop where
  | str (text : String) : Alike (.str text) (.str text)
  | emph {content content' : List Inline} (inside : inlines content content') :
      Alike (.emph content) (.emph content')
  | underline {content content' : List Inline} (inside : inlines content content') :
      Alike (.underline content) (.underline content')
  | strong {content content' : List Inline} (inside : inlines content content') :
      Alike (.strong content) (.strong content')
  | strikeout {content content' : List Inline} (inside : inlines content content') :
      Alike (.strikeout content) (.strikeout content')
  | superscript {content content' : List Inline} (inside : inlines content content') :
      Alike (.superscript content) (.superscript content')
  | subscript {content content' : List Inline} (inside : inlines content content') :
      Alike (.subscript content) (.subscript content')
  | smallCaps {content content' : List Inline} (inside : inlines content content') :
      Alike (.smallCaps content) (.smallCaps content')
  | quoted {type : QuoteType} {content content' : List Inline}
      (inside : inlines content content') : Alike (.quoted type content) (.quoted type content')
  | cite {citations citations' : List Citation} {content content' : List Inline}
      (each : List.Forall₂ (Citation.Alike inlines) citations citations')
      (inside : inlines content content') :
      Alike (.cite citations content) (.cite citations' content')
  | code (attr : Attr) (text : String) : Alike (.code attr text) (.code attr text)
  | space : Alike .space .space
  | softBreak : Alike .softBreak .softBreak
  | lineBreak : Alike .lineBreak .lineBreak
  | math (type : MathType) (text : String) : Alike (.math type text) (.math type text)
  | raw (format text : String) : Alike (.raw format text) (.raw format text)
  | link {attr : Attr} {content content' : List Inline} {target : Target}
      (inside : inlines content content') :
      Alike (.link attr content target) (.link attr content' target)
  | image {attr : Attr} {content content' : List Inline} {target : Target}
      (inside : inlines content content') :
      Alike (.image attr content target) (.image attr content' target)
  | note {content content' : List Block} (inside : blocks content content') :
      Alike (.note content) (.note content')
  | span {attr : Attr} {content content' : List Inline} (inside : inlines content content') :
      Alike (.span attr content) (.span attr content')

/-- Captions both of which have a short form, or neither. -/
inductive Caption.Alike : Caption → Caption → Prop where
  | intro {short short' : Option (List Inline)} {long long' : List Block}
      (brief : Option.Rel inlines short short') (inside : blocks long long') :
      Alike ⟨short, long⟩ ⟨short', long'⟩

/-- Cells with the same attributes, alignment and spans. -/
inductive Cell.Alike : Cell → Cell → Prop where
  | intro {attr : Attr} {alignment : Alignment} {rowSpan colSpan : Int32}
      {content content' : List Block} (inside : blocks content content') :
      Alike ⟨attr, alignment, rowSpan, colSpan, content⟩
        ⟨attr, alignment, rowSpan, colSpan, content'⟩

/-- Rows with the same attributes and as many cells. -/
inductive Row.Alike : Row → Row → Prop where
  | intro {attr : Attr} {cells cells' : List Cell}
      (each : List.Forall₂ (Cell.Alike blocks) cells cells') : Alike ⟨attr, cells⟩ ⟨attr, cells'⟩

/-- Sections with the same attributes, head columns and numbers of rows. -/
inductive TableBody.Alike : TableBody → TableBody → Prop where
  | intro {attr : Attr} {rowHeadColumns : Int32} {head head' rows rows' : List Row}
      (heading : List.Forall₂ (Row.Alike blocks) head head')
      (each : List.Forall₂ (Row.Alike blocks) rows rows') :
      Alike ⟨attr, rowHeadColumns, head, rows⟩ ⟨attr, rowHeadColumns, head', rows'⟩

/-- Tables with the same attributes, columns and shape. -/
inductive Table.Alike : Table → Table → Prop where
  | intro {attr headAttr footAttr : Attr} {caption caption' : Caption} {colSpecs : List ColSpec}
      {head head' foot foot' : List Row} {bodies bodies' : List TableBody}
      (captions : Caption.Alike inlines blocks caption caption')
      (heads : List.Forall₂ (Row.Alike blocks) head head')
      (each : List.Forall₂ (TableBody.Alike blocks) bodies bodies')
      (feet : List.Forall₂ (Row.Alike blocks) foot foot') :
      Alike ⟨attr, caption, colSpecs, ⟨headAttr, head⟩, bodies, ⟨footAttr, foot⟩⟩
        ⟨attr, caption', colSpecs, ⟨headAttr, head'⟩, bodies', ⟨footAttr, foot'⟩⟩

/-- A term and its definitions, as many in both. -/
inductive Definition.Alike :
    List Inline × List (List Block) → List Inline × List (List Block) → Prop where
  | intro {term term' : List Inline} {items items' : List (List Block)}
      (defined : inlines term term') (each : List.Forall₂ blocks items items') :
      Alike (term, items) (term', items')

/-- Blocks of one kind with the same data besides their children. -/
inductive Block.Alike : Block → Block → Prop where
  | plain {content content' : List Inline} (inside : inlines content content') :
      Alike (.plain content) (.plain content')
  | para {content content' : List Inline} (inside : inlines content content') :
      Alike (.para content) (.para content')
  | lineBlock {lines lines' : List (List Inline)} (each : List.Forall₂ inlines lines lines') :
      Alike (.lineBlock lines) (.lineBlock lines')
  | code (attr : Attr) (text : String) : Alike (.code attr text) (.code attr text)
  | raw (format text : String) : Alike (.raw format text) (.raw format text)
  | blockQuote {content content' : List Block} (inside : blocks content content') :
      Alike (.blockQuote content) (.blockQuote content')
  | orderedList {attributes : ListAttributes} {items items' : List (List Block)}
      (each : List.Forall₂ blocks items items') :
      Alike (.orderedList attributes items) (.orderedList attributes items')
  | bulletList {items items' : List (List Block)} (each : List.Forall₂ blocks items items') :
      Alike (.bulletList items) (.bulletList items')
  | definitionList {items items' : List (List Inline × List (List Block))}
      (each : List.Forall₂ (Definition.Alike inlines blocks) items items') :
      Alike (.definitionList items) (.definitionList items')
  | header {level : Int32} {attr : Attr} {content content' : List Inline}
      (inside : inlines content content') :
      Alike (.header level attr content) (.header level attr content')
  | horizontalRule : Alike .horizontalRule .horizontalRule
  | table {table table' : Table} (inside : Table.Alike inlines blocks table table') :
      Alike (.table table) (.table table')
  | figure {attr : Attr} {caption caption' : Caption} {content content' : List Block}
      (captions : Caption.Alike inlines blocks caption caption')
      (inside : blocks content content') :
      Alike (.figure attr caption content) (.figure attr caption' content')
  | div {attr : Attr} {content content' : List Block} (inside : blocks content content') :
      Alike (.div attr content) (.div attr content')

mutual

/-- Metadata values with the same keys, numbers of items and scalars. -/
inductive MetaValue.Alike : MetaValue → MetaValue → Prop where
  | map {entries entries' : List (String × MetaValue)}
      (each : MetaValue.AlikeEntries entries entries') : Alike (.map entries) (.map entries')
  | list {items items' : List MetaValue} (each : MetaValue.AlikeItems items items') :
      Alike (.list items) (.list items')
  | bool (value : Bool) : Alike (.bool value) (.bool value)
  | string (text : String) : Alike (.string text) (.string text)
  | inlines {content content' : List Inline} (inside : inlines content content') :
      Alike (.inlines content) (.inlines content')
  | blocks {content content' : List Block} (inside : blocks content content') :
      Alike (.blocks content) (.blocks content')

/-- Metadata values that are alike one by one. -/
inductive MetaValue.AlikeItems : List MetaValue → List MetaValue → Prop where
  | nil : AlikeItems [] []
  | cons {value value' : MetaValue} {rest rest' : List MetaValue}
      (first : MetaValue.Alike value value') (others : AlikeItems rest rest') :
      AlikeItems (value :: rest) (value' :: rest')

/-- Entries with the same keys and values that are alike. -/
inductive MetaValue.AlikeEntries :
    List (String × MetaValue) → List (String × MetaValue) → Prop where
  | nil : AlikeEntries [] []
  | cons {key : String} {value value' : MetaValue} {rest rest' : List (String × MetaValue)}
      (first : MetaValue.Alike value value') (others : AlikeEntries rest rest') :
      AlikeEntries ((key, value) :: rest) ((key, value') :: rest')

end

/-- Documents of the same version with metadata that are alike. -/
inductive Document.Alike : Document → Document → Prop where
  | intro {version : List UInt32} {metadata metadata' : Metadata}
      {content content' : List Block}
      (entries : MetaValue.AlikeEntries inlines blocks metadata metadata')
      (inside : blocks content content') :
      Alike ⟨version, metadata, content⟩ ⟨version, metadata', content'⟩

end

/-! ## Equality -/

section

variable {inlines : List Inline → List Inline → Prop} {blocks : List Block → List Block → Prop}

theorem eq_of_forall₂ {α : Type} {related : α → α → Prop} (same : ∀ a b, related a b → a = b)
    {xs ys : List α} (each : List.Forall₂ related xs ys) : xs = ys := by
  induction each with
  | nil => rfl
  | cons first _ ih => rw [same _ _ first, ih]

theorem eq_of_forall₂_eq {α : Type} (xs ys : List α) (each : List.Forall₂ Eq xs ys) : xs = ys :=
  eq_of_forall₂ (fun _ _ => id) each

theorem Citation.Alike.eq (sameInlines : ∀ xs ys, inlines xs ys → xs = ys) {x y : Citation}
    (alike : x.Alike inlines y) : x = y := by
  cases alike with
  | intro front back => rw [sameInlines _ _ front, sameInlines _ _ back]

theorem Cell.Alike.eq (sameBlocks : ∀ xs ys, blocks xs ys → xs = ys) {x y : Cell}
    (alike : x.Alike blocks y) : x = y := by
  cases alike with
  | intro inside => rw [sameBlocks _ _ inside]

theorem Row.Alike.eq (sameBlocks : ∀ xs ys, blocks xs ys → xs = ys) {x y : Row}
    (alike : x.Alike blocks y) : x = y := by
  cases alike with
  | intro each => rw [eq_of_forall₂ (fun _ _ => Cell.Alike.eq sameBlocks) each]

theorem TableBody.Alike.eq (sameBlocks : ∀ xs ys, blocks xs ys → xs = ys) {x y : TableBody}
    (alike : x.Alike blocks y) : x = y := by
  cases alike with
  | intro heading each =>
      rw [eq_of_forall₂ (fun _ _ => Row.Alike.eq sameBlocks) heading,
        eq_of_forall₂ (fun _ _ => Row.Alike.eq sameBlocks) each]

theorem Inline.Alike.kind_eq {x y : Inline} (alike : x.Alike inlines blocks y) :
    x.kind = y.kind := by
  cases alike <;> rfl

theorem Block.Alike.kind_eq {x y : Block} (alike : x.Alike inlines blocks y) :
    x.kind = y.kind := by
  cases alike <;> rfl

mutual

theorem MetaValue.Alike.eq (sameInlines : ∀ xs ys, inlines xs ys → xs = ys)
    (sameBlocks : ∀ xs ys, blocks xs ys → xs = ys) {x y : MetaValue}
    (alike : x.Alike inlines blocks y) : x = y := by
  cases alike with
  | map each => rw [MetaValue.AlikeEntries.eq sameInlines sameBlocks each]
  | list each => rw [MetaValue.AlikeItems.eq sameInlines sameBlocks each]
  | bool | string => rfl
  | inlines inside => rw [sameInlines _ _ inside]
  | blocks inside => rw [sameBlocks _ _ inside]

theorem MetaValue.AlikeItems.eq (sameInlines : ∀ xs ys, inlines xs ys → xs = ys)
    (sameBlocks : ∀ xs ys, blocks xs ys → xs = ys)
    {xs ys : List MetaValue}
    (alike : MetaValue.AlikeItems inlines blocks xs ys) : xs = ys := by
  cases alike with
  | nil => rfl
  | cons first others => rw [MetaValue.Alike.eq sameInlines sameBlocks first,
        MetaValue.AlikeItems.eq sameInlines sameBlocks others]

theorem MetaValue.AlikeEntries.eq (sameInlines : ∀ xs ys, inlines xs ys → xs = ys)
    (sameBlocks : ∀ xs ys, blocks xs ys → xs = ys)
    {xs ys : List (String × MetaValue)}
    (alike : MetaValue.AlikeEntries inlines blocks xs ys) : xs = ys := by
  cases alike with
  | nil => rfl
  | cons first others => rw [MetaValue.Alike.eq sameInlines sameBlocks first,
        MetaValue.AlikeEntries.eq sameInlines sameBlocks others]

end

variable (sameInlines : ∀ xs ys, inlines xs ys → xs = ys)
  (sameBlocks : ∀ xs ys, blocks xs ys → xs = ys)

include sameInlines sameBlocks

/-- Inlines that are alike with equal children are equal. -/
theorem Inline.Alike.eq {x y : Inline} (alike : x.Alike inlines blocks y) : x = y := by
  cases alike with
  | cite each inside =>
      rw [eq_of_forall₂ (fun _ _ => Citation.Alike.eq sameInlines) each, sameInlines _ _ inside]
  | note inside => rw [sameBlocks _ _ inside]
  | str | code | space | softBreak | lineBreak | math | raw => rfl
  | emph inside | underline inside | strong inside | strikeout inside | superscript inside
  | subscript inside | smallCaps inside | quoted inside | link inside | image inside
  | span inside => rw [sameInlines _ _ inside]

theorem Caption.Alike.eq {x y : Caption} (alike : x.Alike inlines blocks y) : x = y := by
  cases alike with
  | intro brief inside =>
      cases brief with
      | none => rw [sameBlocks _ _ inside]
      | some short => rw [sameInlines _ _ short, sameBlocks _ _ inside]

theorem Table.Alike.eq {x y : Table} (alike : x.Alike inlines blocks y) : x = y := by
  cases alike with
  | intro captions heads each feet =>
      rw [captions.eq sameInlines sameBlocks,
        eq_of_forall₂ (fun _ _ => Row.Alike.eq sameBlocks) heads,
        eq_of_forall₂ (fun _ _ => TableBody.Alike.eq sameBlocks) each,
        eq_of_forall₂ (fun _ _ => Row.Alike.eq sameBlocks) feet]

theorem Definition.Alike.eq {x y : List Inline × List (List Block)}
    (alike : Definition.Alike inlines blocks x y) : x = y := by
  cases alike with
  | intro defined each => rw [sameInlines _ _ defined, eq_of_forall₂ sameBlocks each]

theorem Block.Alike.eq {x y : Block} (alike : x.Alike inlines blocks y) : x = y := by
  cases alike with
  | lineBlock each => rw [eq_of_forall₂ sameInlines each]
  | orderedList each | bulletList each => rw [eq_of_forall₂ sameBlocks each]
  | definitionList each =>
      rw [eq_of_forall₂ (fun _ _ => Definition.Alike.eq sameInlines sameBlocks) each]
  | table inside => rw [inside.eq sameInlines sameBlocks]
  | figure captions inside =>
      rw [captions.eq sameInlines sameBlocks, sameBlocks _ _ inside]
  | code | raw | horizontalRule => rfl
  | plain inside | para inside | header inside => rw [sameInlines _ _ inside]
  | blockQuote inside | div inside => rw [sameBlocks _ _ inside]

theorem Document.Alike.eq {x y : Document} (alike : x.Alike inlines blocks y) : x = y := by
  cases alike with
  | intro entries inside =>
      rw [MetaValue.AlikeEntries.eq sameInlines sameBlocks entries, sameBlocks _ _ inside]

end

end DocFilter
