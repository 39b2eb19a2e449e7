import DocFilter.Tabular.Render
import Mathlib.Data.List.Basic
import Mathlib.Data.List.Infix

/-!
# Braces in the markup of a tabular

A brace that is lost spoils everything after it. The markup of a tabular opens a brace in one
node and closes it in another, with text in between that is not its own. If the options and
the markup in the cells close what they open, the markup of the tabular does.
-/

namespace DocFilter

/-! ## Balanced texts -/

/-- Every brace of the text that is opened is closed, and none is closed before it is opened. -/
structure Balanced (text : List Char) : Prop where
  settled : text.count '\x7b' = text.count '\x7d'
  open_first : ∀ beginning, beginning <+: text → beginning.count '\x7d' ≤ beginning.count '\x7b'

theorem balanced_iff (text : List Char) :
    Balanced text ↔ text.count '\x7b' = text.count '\x7d' ∧
      ∀ beginning ∈ text.inits, beginning.count '\x7d' ≤ beginning.count '\x7b' := by
  simp only [List.mem_inits]
  exact ⟨fun balanced => ⟨balanced.1, balanced.2⟩, fun both => ⟨both.1, both.2⟩⟩

instance (text : List Char) : Decidable (Balanced text) :=
  decidable_of_iff' _ (balanced_iff text)

/-- A beginning of two texts one after the other ends in the first or in the second. -/
theorem prefix_append_cases {α : Type} {beginning first second : List α}
    (begins : beginning <+: first ++ second) :
    beginning <+: first ∨ ∃ others, beginning = first ++ others ∧ others <+: second := by
  rcases List.prefix_or_prefix_of_prefix begins (List.prefix_append first second) with
    within | ⟨others, rfl⟩
  · exact .inl within
  · exact .inr ⟨others, rfl, (List.prefix_append_right_inj first).mp begins⟩

namespace Balanced

theorem of_no_braces {text : List Char} (opened : '\x7b' ∉ text) (closed : '\x7d' ∉ text) :
    Balanced text where
  settled := by rw [List.count_eq_zero.mpr opened, List.count_eq_zero.mpr closed]
  open_first beginning begins := by
    rw [List.count_eq_zero.mpr fun member => closed (begins.subset member)]
    exact Nat.zero_le _

protected theorem nil : Balanced [] := of_no_braces List.not_mem_nil List.not_mem_nil

/-- Nothing is open where the first text ends. -/
theorem append {first second : List Char} (left : Balanced first) (right : Balanced second) :
    Balanced (first ++ second) where
  settled := by rw [List.count_append, List.count_append, left.settled, right.settled]
  open_first beginning begins := by
    rcases prefix_append_cases begins with within | ⟨others, rfl, within⟩
    · exact left.open_first beginning within
    · rw [List.count_append, List.count_append, left.settled]
      exact Nat.add_le_add_left (right.open_first others within) _

/-- A balanced text in braces is balanced. -/
theorem braced {text : List Char} (balanced : Balanced text) :
    Balanced ('\x7b' :: (text ++ ['\x7d'])) where
  settled := by
    simp [List.count_append, balanced.settled]
  open_first beginning begins := by
    rcases List.prefix_cons_iff.mp begins with rfl | ⟨inner, rfl, continues⟩
    · exact Nat.le_refl 0
    · -- Up to the last brace, one more brace is open than in the text alone.
      rcases prefix_append_cases continues with within | ⟨others, rfl, within⟩
      · have inside := balanced.open_first inner within
        simp
        omega
      · have last := within.sublist.count_le '\x7d'
        have settled := balanced.settled
        simp [List.count_append] at last ⊢
        omega

theorem flatten {texts : List (List Char)} (each : ∀ text ∈ texts, Balanced text) :
    Balanced texts.flatten := by
  induction texts with
  | nil => exact .nil
  | cons text rest ih =>
      obtain ⟨first, others⟩ := List.forall_mem_cons.mp each
      exact first.append (ih others)

theorem intercalate {separator : List Char} {texts : List (List Char)}
    (between : Balanced separator) (each : ∀ text ∈ texts, Balanced text) :
    Balanced (separator.intercalate texts) := by
  induction texts with
  | nil => exact .nil
  | cons text rest ih =>
      obtain ⟨first, others⟩ := List.forall_mem_cons.mp each
      cases rest with
      | nil =>
          rw [List.intercalate_singleton]
          exact first
      | cons next rest =>
          rw [List.intercalate_cons_cons]
          exact (first.append between).append (ih others)

theorem flatMap {α : Type} {write : α → List Char} {values : List α}
    (each : ∀ value ∈ values, Balanced (write value)) : Balanced (values.flatMap write) :=
  flatten (List.forall_mem_map.mpr each)

end Balanced

/-! ## Markup -/

/-- The text of an inline that is markup. -/
def Inline.markup : Inline → List Char
  | .raw _ text => text.toList
  | _ => []

/-- The markup that stands directly in running text. -/
def Inline.markupOf (content : List Inline) : List Char := content.flatMap Inline.markup

/-- The text of a block that is markup, and the markup that stands directly in a paragraph. -/
def Block.markup : Block → List Char
  | .raw _ text => text.toList
  | .para content => Inline.markupOf content
  | _ => []

/-- The markup of blocks in order, with that directly in their paragraphs. -/
def Block.markupOf (content : List Block) : List Char := content.flatMap Block.markup

theorem Inline.markupOf_append (first second : List Inline) :
    markupOf (first ++ second) = markupOf first ++ markupOf second := List.flatMap_append

theorem Inline.markupOf_cons (inline : Inline) (rest : List Inline) :
    markupOf (inline :: rest) = inline.markup ++ markupOf rest := List.flatMap_cons

theorem Inline.markupOf_singleton (inline : Inline) : markupOf [inline] = inline.markup :=
  List.flatMap_singleton ..

theorem Inline.markupOf_intercalate (separator : List Inline) (parts : List (List Inline)) :
    markupOf (separator.intercalate parts) =
      (markupOf separator).intercalate (parts.map markupOf) := by
  induction parts with
  | nil => rfl
  | cons part rest ih =>
      cases rest with
      | nil => rw [List.map_singleton, List.intercalate_singleton, List.intercalate_singleton]
      | cons next rest =>
          rw [List.map_cons, List.map_cons, List.intercalate_cons_cons, List.intercalate_cons_cons,
            markupOf_append, markupOf_append, ih, List.map_cons]

namespace Tabular

/-- The texts that a tabular is written with close all braces that they open. -/
structure Options.Balanced (options : Options) : Prop where
  placement : DocFilter.Balanced options.placement.toList
  textWidth : DocFilter.Balanced options.textWidth.toList
  columnGap : DocFilter.Balanced options.columnGap.toList
  cellSeparator : DocFilter.Balanced options.cellSeparator.toList
  rowEnd : DocFilter.Balanced options.rowEnd.toList
  rule : DocFilter.Balanced options.rule.toList
  headerCommand : DocFilter.Balanced options.headerCommand.toList
  captionCommand : DocFilter.Balanced options.captionCommand.toList

/-- The markup that stands directly in the caption and in each cell closes all braces that it
opens. -/
structure TableParts.Balanced (parts : TableParts) : Prop where
  caption : DocFilter.Balanced (Inline.markupOf parts.caption)
  header : ∀ row ∈ parts.headerRows, ∀ cell ∈ row, DocFilter.Balanced (Inline.markupOf cell)
  body : ∀ row ∈ parts.bodyRows, ∀ cell ∈ row, DocFilter.Balanced (Inline.markupOf cell)

namespace Options

variable {options : Options} (balanced : options.Balanced)

theorem balanced_justify (alignment : Alignment) :
    DocFilter.Balanced (justify alignment).toList := by
  cases alignment <;> decide

/-- What stands in a command of its own is put into braces. -/
theorem balanced_command {command : String} {content : List Inline}
    (named : DocFilter.Balanced command.toList)
    (inside : DocFilter.Balanced (Inline.markupOf content)) :
    DocFilter.Balanced (Inline.markupOf (options.rawInline ("\\" ++ command ++ "\x7b") ::
      (content ++ [options.rawInline "\x7d"]))) := by
  have braces : Inline.markupOf (options.rawInline ("\\" ++ command ++ "\x7b") ::
      (content ++ [options.rawInline "\x7d"])) =
        ['\\'] ++ command.toList ++ ('\x7b' :: (Inline.markupOf content ++ ['\x7d'])) := by
    simp [Inline.markupOf, Inline.markup, rawInline]
  rw [braces]
  exact ((by decide : DocFilter.Balanced ['\\']).append named).append inside.braced

include balanced

theorem balanced_columnDirective (columns : Nat) (column : ColumnLayout) :
    DocFilter.Balanced (options.columnDirective columns column).toList := by
  have directive : (options.columnDirective columns column).toList =
      ['>'] ++ ('\x7b' ::
        ((justify column.alignment).toList ++ "\\arraybackslash".toList ++ ['\x7d'])) ++
      ['p'] ++ ('\x7b' :: (['('] ++ options.textWidth.toList ++ " - ".toList ++
        (toString (columns * 2)).toList ++ options.columnGap.toList ++ ") * \\real".toList ++
        ('\x7b' :: (Decimal.fixedText options.widthPrecision column.width ++ ['\x7d'])) ++
        ['\x7d'])) := by
    simp [columnDirective]
  have width : DocFilter.Balanced (Decimal.fixedText options.widthPrecision column.width) :=
    .of_no_braces (Decimal.not_mem_fixedText _ _ rfl (by decide))
      (Decimal.not_mem_fixedText _ _ rfl (by decide))
  have factor : DocFilter.Balanced (toString (columns * 2)).toList :=
    .of_no_braces (Decimal.not_mem_toString _ rfl) (Decimal.not_mem_toString _ rfl)
  have command := ((balanced_justify column.alignment).append
    (by decide : DocFilter.Balanced "\\arraybackslash".toList)).braced
  have gaps := (((((by decide : DocFilter.Balanced ['(']).append balanced.textWidth).append
    (by decide : DocFilter.Balanced " - ".toList)).append factor).append balanced.columnGap).append
    (by decide : DocFilter.Balanced ") * \\real".toList)
  rw [directive]
  exact (((by decide : DocFilter.Balanced ['>']).append command).append
    (by decide : DocFilter.Balanced ['p'])).append (gaps.append width.braced).braced

theorem balanced_columnSpec (columns : List ColumnLayout) :
    DocFilter.Balanced (options.columnSpec columns).toList := by
  rw [columnSpec, String.toList_append, String.toList_append, String.toList_intercalate]
  have between : DocFilter.Balanced "\n  |".toList := by decide
  refine (between.append (between.intercalate ?_)).append (by decide)
  intro text member
  simp only [List.map_map, List.mem_map] at member
  obtain ⟨column, -, rfl⟩ := member
  exact balanced_columnDirective balanced columns.length column

theorem balanced_placementText : DocFilter.Balanced options.placementText.toList := by
  rw [placementText]
  split
  · decide
  · rw [String.toList_append, String.toList_append]
    exact ((by decide : DocFilter.Balanced "[".toList).append balanced.placement).append (by decide)

/-- The markup between the cells of a row is balanced if that in the cells is. -/
theorem balanced_separated {cells : List (List Inline)}
    (each : ∀ cell ∈ cells, DocFilter.Balanced (Inline.markupOf cell)) :
    DocFilter.Balanced (Inline.markupOf (options.separated cells)) := by
  rw [separated, Inline.markupOf_intercalate, Inline.markupOf_singleton]
  exact balanced.cellSeparator.intercalate (List.forall_mem_map.mpr each)

/-- Each header cell stands in braces of its own. -/
theorem balanced_header {rows : List (List (List Inline))}
    (each : ∀ row ∈ rows, ∀ cell ∈ row, DocFilter.Balanced (Inline.markupOf cell)) :
    DocFilter.Balanced (options.header rows).markup := by
  have lineEnd : DocFilter.Balanced (options.rowEnd ++ "\n").toList := by
    rw [String.toList_append]
    exact balanced.rowEnd.append (by decide)
  have between : DocFilter.Balanced (Inline.markupOf
      ([options.rawInline (options.rowEnd ++ "\n")].intercalate
        (rows.map fun row => options.separated (row.map options.headerCell)))) := by
    rw [Inline.markupOf_intercalate, Inline.markupOf_singleton]
    refine lineEnd.intercalate ?_
    rw [List.map_map]
    refine List.forall_mem_map.mpr fun row listed => ?_
    refine balanced_separated balanced (List.forall_mem_map.mpr fun cell member => ?_)
    exact balanced_command balanced.headerCommand (each row listed cell member)
  cases rows with
  | nil =>
      rw [header, Block.markup, Inline.markupOf_singleton]
      exact balanced.rule
  | cons row rest =>
      rw [header, Block.markup, Inline.markupOf_cons, Inline.markupOf_append,
        Inline.markupOf_singleton]
      · have rule : DocFilter.Balanced (options.rule ++ "\n").toList := by
          rw [String.toList_append]
          exact balanced.rule.append (by decide)
        have rules : DocFilter.Balanced
            (options.rowEnd ++ "\n" ++ options.rule ++ options.rule).toList := by
          rw [String.toList_append, String.toList_append]
          exact (lineEnd.append balanced.rule).append balanced.rule
        exact rule.append (between.append rules)
      · exact List.cons_ne_nil row rest

theorem balanced_bodyRow {row : List (List Inline)}
    (each : ∀ cell ∈ row, DocFilter.Balanced (Inline.markupOf cell)) :
    DocFilter.Balanced (Inline.markupOf (options.bodyRow row)) := by
  rw [bodyRow, Inline.markupOf_append, Inline.markupOf_cons, Inline.markupOf_singleton]
  refine (balanced_separated balanced each).append (.append ?_ ?_)
  · rw [rawInline, Inline.markup, String.toList_append]
    exact balanced.rowEnd.append (by decide)
  · rw [rawInline, Inline.markup, String.toList_append]
    exact balanced.rule.append (by decide)

theorem balanced_body {rows : List (List (List Inline))}
    (each : ∀ row ∈ rows, ∀ cell ∈ row, DocFilter.Balanced (Inline.markupOf cell)) :
    DocFilter.Balanced (options.body rows).markup := by
  rw [body, Block.markup, Inline.markupOf, List.flatMap_assoc]
  exact .flatMap fun row listed => balanced_bodyRow balanced (each row listed)

/-- If the options and the markup that stands directly in the caption and in each cell close the
braces that they open, so does all markup that a table is rendered as: the blocks of markup and
the markup that stands directly in the paragraphs, one after the other. -/
theorem render_balanced {parts : TableParts} (filled : parts.Balanced) :
    DocFilter.Balanced (Block.markupOf (options.render parts)) := by
  have begins : DocFilter.Balanced ("\\begin\x7btable\x7d" ++ options.placementText).toList := by
    rw [String.toList_append]
    exact (by decide : DocFilter.Balanced "\\begin\x7btable\x7d".toList).append
      (balanced_placementText balanced)
  have columns : DocFilter.Balanced ("\\begin\x7btabular\x7d\x7b@\x7b\x7d " ++
      options.columnSpec parts.columns ++ " @\x7b\x7d\x7d").toList := by
    have argument : ("\\begin\x7btabular\x7d\x7b@\x7b\x7d " ++ options.columnSpec parts.columns ++
        " @\x7b\x7d\x7d").toList = "\\begin\x7btabular\x7d".toList ++ '\x7b' ::
          ("@\x7b\x7d ".toList ++ (options.columnSpec parts.columns).toList ++
            " @\x7b\x7d".toList ++ ['\x7d']) := by
      simp
    rw [argument]
    refine (by decide : DocFilter.Balanced "\\begin\x7btabular\x7d".toList).append (.braced ?_)
    exact ((by decide : DocFilter.Balanced "@\x7b\x7d ".toList).append
      (balanced_columnSpec balanced parts.columns)).append (by decide)
  refine .flatMap fun block member => ?_
  rw [render, List.mem_append, List.mem_append] at member
  rcases member with (before | rows) | after
  · simp only [List.mem_cons, List.not_mem_nil, or_false] at before
    rcases before with rfl | rfl | rfl | rfl
    · exact begins
    · exact (by decide : DocFilter.Balanced "\\centering".toList)
    · exact columns
    · exact balanced_header balanced filled.header
  · split at rows
    · cases rows
    · cases List.mem_singleton.mp rows
      exact balanced_body balanced filled.body
  · simp only [List.mem_cons, List.not_mem_nil, or_false] at after
    rcases after with rfl | rfl | rfl
    · exact (by decide : DocFilter.Balanced "\\end\x7btabular\x7d".toList)
    · exact balanced_command balanced.captionCommand filled.caption
    · exact (by decide : DocFilter.Balanced "\\end\x7btable\x7d".toList)

end Options

/-- A tabular of two columns with markup that opens a brace in one node of a cell and closes it
in another one, with text between them. -/
def TableParts.emboldened : TableParts where
  caption := [.raw "latex" "\\emph\x7b", .str "a", .raw "html" "\x7d"]
  columns := [⟨.left, 0.5⟩, ⟨.center, 0.5⟩]
  headerRows := [[[.str "b"],
    [.raw "latex" "\x7b\\bf ", .emph [.raw "latex" "\x7d"], .raw "latex" "\x7d"]]]
  bodyRows := [[[], [.raw "latex" "\x7b", .space, .raw "latex" "\x7d\x7b\x7d"]], [[]]]

/-- Options with braces in them. -/
def Options.grouped : Options where
  placement := "\x7bh\x7d"
  textWidth := "\x7b\\linewidth\x7d"

theorem Options.render_balanced_emboldened :
    Options.grouped.Balanced ∧ TableParts.emboldened.Balanced ∧
      DocFilter.Balanced (Block.markupOf (Options.grouped.render TableParts.emboldened)) := by
  have given : Options.grouped.Balanced := by
    constructor <;> decide
  have filled : TableParts.emboldened.Balanced := by
    constructor <;> decide
  exact ⟨given, filled, render_balanced given filled⟩

end Tabular

end DocFilter
