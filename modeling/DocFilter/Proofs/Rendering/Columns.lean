import DocFilter.Proofs.Success
import DocFilter.Tabular.Render
import Mathlib.Algebra.GroupWithZero.Nat
import Mathlib.Data.List.Forall2
import Mathlib.Data.List.Infix

/-!
# The columns of a tabular

A tabular is told its columns in one text, with vertical rules between them. If the lengths in
it bring along neither rules nor columns of their own, the text has a rule more than columns,
and between two of them stands the directive of one column, in order.
-/

namespace DocFilter

/-! ## Stretches in a text -/

/-- At how many places of a text a stretch stands. -/
def occurrences (stretch : List Char) : List Char → Nat
  | [] => 0
  | char :: rest =>
      (if stretch <+: char :: rest then 1 else 0) + occurrences stretch rest

theorem occurrences_of_not_infix {stretch text : List Char} (absent : ¬ stretch <:+: text) :
    occurrences stretch text = 0 := by
  induction text with
  | nil => rfl
  | cons char rest ih =>
      rw [List.infix_cons_iff, not_or] at absent
      rw [occurrences, if_neg absent.1, ih absent.2]

section

variable {a b : Char}

theorem occurrences_of_not_mem {text : List Char} (absent : a ∉ text) :
    occurrences [a, b] text = 0 :=
  occurrences_of_not_infix fun found => absent (found.subset List.mem_cons_self)

theorem pair_prefix_iff {text : List Char} {char : Char} :
    [a, b] <+: char :: text ↔ a = char ∧ b ∈ text.head? := by
  cases text with
  | nil => simp
  | cons next rest => simp [List.cons_prefix_cons, eq_comm]

/-- A stretch of two characters does not stand across a seam if the first one does not stand
on the left of it or the second one not on the right. -/
theorem occurrences_append {first second : List Char}
    (seam : a ∉ first.getLast? ∨ b ∉ second.head?) :
    occurrences [a, b] (first ++ second) =
      occurrences [a, b] first + occurrences [a, b] second := by
  induction first with
  | nil => rw [List.nil_append, occurrences, Nat.zero_add]
  | cons char rest ih =>
      cases rest with
      | nil =>
          have apart : ¬ [a, b] <+: char :: second := by
            rw [pair_prefix_iff]
            rintro ⟨rfl, begins⟩
            exact seam.elim (fun ends => ends rfl) fun absent => absent begins
          have short : ¬ [a, b] <+: [char] := by simp
          rw [List.singleton_append, occurrences, if_neg apart, occurrences, if_neg short]
          rfl
      | cons next rest =>
          have same : [a, b] <+: char :: (next :: rest ++ second) ↔
              [a, b] <+: char :: next :: rest := by
            rw [pair_prefix_iff, pair_prefix_iff]
            rfl
          rw [List.getLast?_cons_cons] at seam
          rw [List.cons_append, occurrences, ih seam, occurrences.eq_def _ (char :: _),
            ← Nat.add_assoc]
          simp only [same]

end

/-! ## Texts with rules between them -/

section

variable {α : Type} {rule : α} {texts : List (List α)}

theorem count_intercalate [DecidableEq α] (filled : texts ≠ [])
    (unruled : ∀ text ∈ texts, rule ∉ text) :
    ([rule].intercalate texts).count rule + 1 = texts.length := by
  induction texts with
  | nil => exact absurd rfl filled
  | cons text rest ih =>
      obtain ⟨first, others⟩ := List.forall_mem_cons.mp unruled
      cases rest with
      | nil =>
          rw [List.intercalate_singleton, List.count_eq_zero.mpr first]
          rfl
      | cons next rest =>
          have counted := ih (List.cons_ne_nil next rest) others
          rw [List.intercalate_cons_cons, List.count_append, List.count_append,
            List.count_eq_zero.mpr first, List.count_singleton_self, List.length_cons, ← counted]
          omega

/-- Texts with a rule and a blank in front of it between them, and a rule at the end, are texts
with a rule alone between them: those that a rule follows get the blank. -/
theorem exists_spaced (filled : texts ≠ []) (blank : List α) (rule : α) :
    ∃ spaced, (blank ++ [rule]).intercalate texts ++ [rule] = [rule].intercalate (spaced ++ [[]]) ∧
      List.Forall₂ (fun text wide => wide = text ∨ wide = text ++ blank) texts spaced := by
  induction texts with
  | nil => exact absurd rfl filled
  | cons text rest ih =>
      cases rest with
      | nil =>
          refine ⟨[text], ?_, .cons (.inl rfl) .nil⟩
          simp
      | cons next rest =>
          obtain ⟨spaced, same, each⟩ := ih (List.cons_ne_nil next rest)
          refine ⟨(text ++ blank) :: spaced, ?_, .cons (.inr rfl) each⟩
          cases each with
          | @cons _ wide _ others first following =>
              rw [List.intercalate_cons_cons, List.append_assoc, List.append_assoc, same]
              simp

end

/-- A stretch of two characters does not stand across a rule. -/
theorem occurrences_intercalate {a b rule : Char} (first : rule ≠ a) (second : rule ≠ b)
    (texts : List (List Char)) :
    occurrences [a, b] ([rule].intercalate texts) = (texts.map (occurrences [a, b])).sum := by
  induction texts with
  | nil => rfl
  | cons text rest ih =>
      cases rest with
      | nil => simp
      | cons next rest =>
          have behind : a ∉ [rule].getLast? := fun same => first (Option.some.inj same)
          have ahead : b ∉ ([rule] ++ [rule].intercalate (next :: rest)).head? :=
            fun same => second (Option.some.inj same)
          have alone : occurrences [a, b] [rule] = 0 :=
            occurrences_of_not_mem fun member => first (List.mem_singleton.mp member).symm
          rw [List.intercalate_cons_cons, List.append_assoc, occurrences_append (.inr ahead),
            occurrences_append (.inl behind), alone, Nat.zero_add, List.map_cons, List.sum_cons, ih]

namespace Tabular

/-- The text brings along neither a rule nor the beginning of a column. -/
structure ColumnFree (text : String) : Prop where
  rule : '|' ∉ text.toList
  column : ¬ ['p', '\x7b'] <:+: text.toList

/-- The command justifies text as an alignment asks for: text on the left
is ragged on the right, and so is text that asks for nothing. -/
inductive Justifies : Alignment → String → Prop where
  | default : Justifies .default "\\raggedright"
  | left : Justifies .left "\\raggedright"
  | center : Justifies .center "\\centering"
  | right : Justifies .right "\\raggedleft"

theorem justifies_justify (alignment : Alignment) : Justifies alignment (justify alignment) := by
  cases alignment with
  | default => exact .default
  | left => exact .left
  | center => exact .center
  | right => exact .right

/-- The text is the directive of a column in a tabular with so many, and blanks may follow it.
It begins one column only; that is justified as its alignment asks for, and it is as wide as some
fraction of the text width without the gaps of all columns. -/
structure Options.Directs (options : Options) (columns : Nat) (column : ColumnLayout)
    (text : List Char) : Prop where
  once : occurrences ['p', '\x7b'] text = 1
  written : ∃ (command : String) (blank : List Char),
    Justifies column.alignment command ∧ (∀ char ∈ blank, char.isWhitespace) ∧
    text = ">\x7b".toList ++ command.toList ++
      "\\arraybackslash\x7dp\x7b(".toList ++ options.textWidth.toList ++ " - ".toList ++
      (toString (2 * columns)).toList ++ options.columnGap.toList ++ ") * \\real\x7b".toList ++
      Decimal.fixedText options.widthPrecision column.width ++ "\x7d\x7d".toList ++ blank

namespace Options

variable {options : Options}

theorem toList_columnDirective (options : Options) (columns : Nat) (column : ColumnLayout) :
    (options.columnDirective columns column).toList =
      (">\x7b".toList ++ (justify column.alignment).toList ++
        "\\arraybackslash\x7dp\x7b(".toList) ++
        (options.textWidth.toList ++ (" - ".toList ++ ((toString (columns * 2)).toList ++
          (options.columnGap.toList ++ (") * \\real\x7b".toList ++
            (Decimal.fixedText options.widthPrecision column.width ++ "\x7d\x7d".toList)))))) := by
  simp [columnDirective]

variable (width : ColumnFree options.textWidth) (gap : ColumnFree options.columnGap)

include width gap

theorem rule_not_mem_columnDirective (columns : Nat) (column : ColumnLayout) :
    '|' ∉ (options.columnDirective columns column).toList := by
  have command : '|' ∉ (justify column.alignment).toList := by
    cases column.alignment <;> decide
  have fraction := Decimal.not_mem_fixedText options.widthPrecision column.width
    (rfl : '|'.isDigit = false) (by decide)
  have factor := Decimal.not_mem_toString (columns * 2) (rfl : '|'.isDigit = false)
  simp only [toList_columnDirective, List.mem_append, not_or]
  exact ⟨⟨⟨by decide, command⟩, by decide⟩, width.rule, by decide, factor, gap.rule, by decide,
    fraction, by decide⟩

/-- A directive begins one column: none of its parts does but the first, and none of them can
be joined to the next one in such a way. -/
theorem occurrences_columnDirective (columns : Nat) (column : ColumnLayout) :
    occurrences ['p', '\x7b'] (options.columnDirective columns column).toList = 1 := by
  have command : occurrences ['p', '\x7b'] (">\x7b".toList ++ (justify column.alignment).toList ++
      "\\arraybackslash\x7dp\x7b(".toList) = 1 := by
    cases column.alignment <;> decide
  have ends : 'p' ∉ (">\x7b".toList ++ (justify column.alignment).toList ++
      "\\arraybackslash\x7dp\x7b(".toList).getLast? := by
    cases column.alignment <;> decide
  have factor : 'p' ∉ (toString (columns * 2)).toList := Decimal.not_mem_toString _ rfl
  have fraction : 'p' ∉ Decimal.fixedText options.widthPrecision column.width :=
    Decimal.not_mem_fixedText _ _ rfl (by decide)
  rw [toList_columnDirective]
  generalize ">\x7b".toList ++ (justify column.alignment).toList ++
    "\\arraybackslash\x7dp\x7b(".toList = opening at command ends ⊢
  rw [occurrences_append (.inl ends), occurrences_append (.inr (by simp)),
    occurrences_append (.inl (by decide)),
    occurrences_append (.inl fun last => factor (List.mem_of_getLast? last)),
    occurrences_append (.inr (by simp)), occurrences_append (.inl (by decide)),
    occurrences_append (.inr (by decide)), command, occurrences_of_not_infix width.column,
    occurrences_of_not_mem factor, occurrences_of_not_infix gap.column,
    occurrences_of_not_mem fraction]
  decide

/-- A directive is still one with blanks behind it. -/
theorem columnDirective_directs (columns : Nat) (column : ColumnLayout) {blank : List Char}
    (blanks : ∀ char ∈ blank, char.isWhitespace) :
    options.Directs columns column
      ((options.columnDirective columns column).toList ++ blank) where
  once := by
    have opens : '\x7b' ∉ blank.head? := fun first => by
      cases blanks _ (List.mem_of_head? first)
    have column : 'p' ∉ blank := fun member => by
      cases blanks _ member
    rw [occurrences_append (.inr opens), occurrences_columnDirective width gap,
      occurrences_of_not_mem column]
  written := by
    refine ⟨justify column.alignment, blank, justifies_justify _, blanks, ?_⟩
    rw [toList_columnDirective, Nat.mul_comm columns 2]
    simp only [List.append_assoc]

/-- The text of the columns in parts: a blank in front of the first rule, a directive between
two rules, and nothing behind the last one. -/
theorem exists_directives {columns : List ColumnLayout} (filled : columns ≠ []) :
    ∃ texts, (options.columnSpec columns).toList =
        ['|'].intercalate ("\n  ".toList :: (texts ++ [[]])) ∧
      (∀ text ∈ texts, '|' ∉ text) ∧
      List.Forall₂ (options.Directs columns.length) columns texts := by
  have listed : columns.map (fun column =>
      (options.columnDirective columns.length column).toList) ≠ [] := by
    simpa using filled
  obtain ⟨texts, same, each⟩ := exists_spaced listed "\n  ".toList '|'
  have wide : List.Forall₂ (fun column text =>
      text = (options.columnDirective columns.length column).toList ∨
        text = (options.columnDirective columns.length column).toList ++ "\n  ".toList)
      columns texts := List.forall₂_map_left_iff.mp each
  refine ⟨texts, ?_, ?_, wide.imp ?_⟩
  · obtain ⟨next, others, more⟩ := List.exists_cons_of_ne_nil (List.concat_ne_nil [] texts)
    rw [columnSpec, String.toList_append, String.toList_append, String.toList_intercalate,
      List.map_map, List.append_assoc]
    have spec : "\n  |".toList = "\n  ".toList ++ ['|'] := by decide
    have last : "|".toList = ['|'] := by decide
    rw [spec, last]
    refine (congrArg ("\n  ".toList ++ ['|'] ++ ·) same).trans ?_
    rw [more, List.intercalate_cons_cons]
  · refine forall_of_forall₂ ?_ wide
    rintro column text (rfl | rfl)
    · exact rule_not_mem_columnDirective width gap columns.length column
    · rw [List.mem_append, not_or]
      exact ⟨rule_not_mem_columnDirective width gap columns.length column, by decide⟩
  · rintro column text (rfl | rfl)
    · have directs := columnDirective_directs width gap columns.length column
        (List.forall_mem_nil _)
      rwa [List.append_nil] at directs
    · have blank : "\n  ".toList.all Char.isWhitespace = true := rfl
      exact columnDirective_directs width gap columns.length column (List.all_eq_true.mp blank)

/-- The text of the columns has a rule more than there are columns, and begins as many columns
as there are. Behind the first rule stands the directive of the first column up to the next
rule, and so on: nothing else, aligned as the column is and with the gaps of all taken off. -/
theorem columnSpec_counts {columns : List ColumnLayout} (filled : columns ≠ []) :
    let spec := (options.columnSpec columns).toList
    occurrences ['p', '\x7b'] spec = columns.length ∧
      spec.count '|' = columns.length + 1 ∧
      ∀ index column, columns[index]? = some column →
        ∃ text, (spec.splitOn '|')[index + 1]? = some text ∧
          options.Directs columns.length column text := by
  intro spec
  obtain ⟨texts, same, unruled, each⟩ := exists_directives width gap filled
  have parts : spec = ['|'].intercalate ("\n  ".toList :: (texts ++ [[]])) := same
  have none_ruled : ∀ text ∈ "\n  ".toList :: (texts ++ [[]]), '|' ∉ text := by
    refine List.forall_mem_cons.mpr ⟨by decide, List.forall_mem_append.mpr ⟨unruled, ?_⟩⟩
    exact List.forall_mem_singleton.mpr List.not_mem_nil
  have length : texts.length = columns.length := each.length_eq.symm
  refine ⟨?_, ?_, ?_⟩
  · have one : texts.map (occurrences ['p', '\x7b']) = List.replicate texts.length 1 :=
      List.eq_replicate_iff.mpr ⟨List.length_map _, List.forall_mem_map.mpr
        (forall_of_forall₂ (fun _ _ directs => directs.once) each)⟩
    have front : occurrences ['p', '\x7b'] "\n  ".toList = 0 := by decide
    rw [parts, occurrences_intercalate (by decide) (by decide), List.map_cons, List.sum_cons,
      List.map_append, List.sum_append, one, front, List.sum_replicate_nat, length]
    simp [occurrences]
  · have counted := count_intercalate (List.cons_ne_nil _ _) none_ruled
    rw [← parts, List.length_cons, List.length_append, length] at counted
    exact Nat.succ.inj counted
  · intro index column found
    obtain ⟨inside, rfl⟩ := List.getElem?_eq_some_iff.mp found
    have within : index < texts.length := length ▸ inside
    refine ⟨texts[index], ?_, (List.forall₂_iff_get.mp each).2 index inside within⟩
    -- The first of the parts is what stands in front of all rules.
    rw [parts, List.splitOn_intercalate '|' none_ruled (List.cons_ne_nil _ _),
      List.getElem?_cons_succ, List.getElem?_append_left within,
      List.getElem?_eq_getElem within]

end Options

/-- Neither length brings along a column, though their characters next to others could. -/
theorem Options.columnSpec_counts_besideLetters :
    let options : Options := { textWidth := "\x7b2cm\x7d/p", columnGap := "\x7b\\gap\x7dp" }
    let columns : List ColumnLayout := [⟨.right, 0.5⟩, ⟨.default, 0.25⟩]
    let spec := (options.columnSpec columns).toList
    ColumnFree options.textWidth ∧ ColumnFree options.columnGap ∧ columns ≠ [] ∧
      occurrences ['p', '\x7b'] spec = 2 ∧ spec.count '|' = 3 ∧
      ∀ index column, columns[index]? = some column →
        ∃ text, (spec.splitOn '|')[index + 1]? = some text ∧ options.Directs 2 column text := by
  have width : ColumnFree "\x7b2cm\x7d/p" := ⟨by decide, by decide⟩
  have gap : ColumnFree "\x7b\\gap\x7dp" := ⟨by decide, by decide⟩
  exact ⟨width, gap, List.cons_ne_nil _ _, columnSpec_counts width gap (List.cons_ne_nil _ _)⟩

/-- Without columns there is a rule too many. -/
example : ({} : Options).columnSpec [] = "\n  ||" := rfl

end Tabular

end DocFilter
