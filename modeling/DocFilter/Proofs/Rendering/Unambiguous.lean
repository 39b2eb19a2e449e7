import DocFilter.Tabular.Render

/-!
# Tabulars that can be read back

The markup of a tabular stands between its cells, so its cells can be told from one another
if they hold no markup of their own and a separator is no end of a row. Two tabulars that are
rendered as the same blocks then have the same caption and the same cells.
-/

namespace DocFilter

/-! ## Writing that can be read back -/

section

variable {α β : Type}

/-- What is written for one of some values tells the value and what follows, if what follows
is as agreed. -/
def Readable (valid : β → Prop) (after : List α → Prop) (write : β → List α) : Prop :=
  ∀ ⦃x y s t⦄, valid x → valid y → after s → after t → write x ++ s = write y ++ t →
    x = y ∧ s = t

/-- A list ends here or goes on with a mark. -/
def MarkedOff (mark : α → Prop) (s : List α) : Prop := ∀ first ∈ s.head?, mark first

/-- Lists without marks are told from the marks after them. -/
theorem Readable.of_marked (mark : α → Prop) :
    Readable (fun xs => ∀ x ∈ xs, ¬ mark x) (MarkedOff mark) (fun xs : List α => xs) := by
  intro xs ys s t plain plain' marked marked' same
  dsimp only at same
  induction xs generalizing ys with
  | nil =>
      cases ys with
      | nil => exact ⟨rfl, same⟩
      | cons y rest =>
          rw [List.nil_append] at same
          rw [same] at marked
          exact absurd (marked y rfl) (plain' y List.mem_cons_self)
  | cons x rest ih =>
      cases ys with
      | nil =>
          rw [List.nil_append] at same
          rw [← same] at marked'
          exact absurd (marked' x rfl) (plain x List.mem_cons_self)
      | cons y others =>
          obtain ⟨rfl, others⟩ := List.cons.inj same
          obtain ⟨rfl, tails⟩ := ih (List.forall_mem_cons.mp plain).2
            (List.forall_mem_cons.mp plain').2 others
          exact ⟨rfl, tails⟩

namespace Readable

variable {valid : β → Prop} {after : List α → Prop} {write : β → List α}

theorem injOn (readable : Readable valid after write) (ends : after []) {x y : β}
    (first : valid x) (second : valid y) (same : write x = write y) : x = y :=
  (readable first second ends ends (congrArg (· ++ []) same)).1

/-- Anything may follow once the writing is closed. -/
theorem closed (readable : Readable valid after write) {close : List α}
    (closes : ∀ s, after (close ++ s)) {later : List α → Prop} :
    Readable valid later (fun x => write x ++ close) := by
  intro x y s t first second _ _ same
  rw [List.append_assoc, List.append_assoc] at same
  obtain ⟨rfl, tails⟩ := readable first second (closes s) (closes t) same
  exact ⟨rfl, List.append_cancel_left tails⟩

theorem opened (readable : Readable valid after write) (mark : α) :
    Readable valid after (fun x => mark :: write x) := by
  intro x y s t first second here there same
  exact readable first second here there (List.cons.inj same).2

theorem intercalate_cons_cons (write : β → List α) (separator : α) (x x' : β) (rest : List β)
    (s : List α) :
    [separator].intercalate ((x :: x' :: rest).map write) ++ s =
      write x ++ separator :: ([separator].intercalate ((x' :: rest).map write) ++ s) :=
  List.append_assoc (write x) (separator :: _) s

/-- Values with separators between them can be told from what follows, unless that begins
with a separator. -/
theorem intercalate (readable : Readable valid after write) {separator : α}
    (separates : ∀ s, after (separator :: s)) :
    Readable (fun xs => xs ≠ [] ∧ ∀ x ∈ xs, valid x)
      (fun s => after s ∧ separator ∉ s.head?)
      (fun xs => [separator].intercalate (xs.map write)) := by
  rintro xs ys s t ⟨some, valid⟩ ⟨some', valid'⟩ ⟨here, ends⟩ ⟨there, ends'⟩ same
  dsimp only at same
  induction xs generalizing ys with
  | nil => exact absurd rfl some
  | cons x rest ih =>
      cases ys with
      | nil => exact absurd rfl some'
      | cons y others =>
          obtain ⟨validX, validRest⟩ := List.forall_mem_cons.mp valid
          obtain ⟨validY, validOthers⟩ := List.forall_mem_cons.mp valid'
          cases rest with
          | nil =>
              cases others with
              | nil =>
                  rw [List.map_singleton, List.map_singleton, List.intercalate_singleton,
                    List.intercalate_singleton] at same
                  obtain ⟨rfl, tails⟩ := readable validX validY here there same
                  exact ⟨rfl, tails⟩
              | cons y' others =>
                  -- What follows the only value would be a separator.
                  rw [List.map_singleton, List.intercalate_singleton, intercalate_cons_cons] at same
                  obtain ⟨-, rfl⟩ := readable validX validY here (separates _) same
                  exact absurd rfl ends
          | cons x' rest =>
              cases others with
              | nil =>
                  rw [intercalate_cons_cons, List.map_singleton, List.intercalate_singleton] at same
                  obtain ⟨-, rfl⟩ := readable validX validY (separates _) there same
                  exact absurd rfl ends'
              | cons y' others =>
                  rw [intercalate_cons_cons, intercalate_cons_cons] at same
                  obtain ⟨rfl, tails⟩ := readable validX validY (separates _) (separates _) same
                  obtain ⟨same, tails⟩ := ih (List.cons_ne_nil x' rest) validRest
                    (List.cons_ne_nil y' others) validOthers (List.cons.inj tails).2
                  exact ⟨congrArg (x :: ·) same, tails⟩

/-- Values that are written one after the other are read one after the other. -/
theorem flatMap_injOn (readable : Readable valid (fun _ => True) write)
    (written : ∀ x, write x ≠ []) {xs ys : List β} (first : ∀ x ∈ xs, valid x)
    (second : ∀ y ∈ ys, valid y) (same : xs.flatMap write = ys.flatMap write) : xs = ys := by
  induction xs generalizing ys with
  | nil =>
      cases ys with
      | nil => rfl
      | cons y others => exact absurd (List.append_eq_nil_iff.mp same.symm).1 (written y)
  | cons x rest ih =>
      cases ys with
      | nil => exact absurd (List.append_eq_nil_iff.mp same).1 (written x)
      | cons y others =>
          obtain ⟨validX, validRest⟩ := List.forall_mem_cons.mp first
          obtain ⟨validY, validOthers⟩ := List.forall_mem_cons.mp second
          obtain ⟨rfl, tails⟩ := readable validX validY trivial trivial same
          exact congrArg (x :: ·) (ih validRest validOthers tails)

end Readable

end

namespace Tabular

/-- The inline is markup. -/
def IsMarkup (inline : Inline) : Prop := inline.kind = .raw

/-- The row has cells, and they hold no markup of their own. -/
def Legible (row : List (List Inline)) : Prop :=
  row ≠ [] ∧ ∀ cell ∈ row, ∀ inline ∈ cell, ¬ IsMarkup inline

/-- All rows of the tabular are legible. -/
structure TableParts.Legible (parts : TableParts) : Prop where
  header : ∀ row ∈ parts.headerRows, Tabular.Legible row
  body : ∀ row ∈ parts.bodyRows, Tabular.Legible row

namespace Options

variable {options : Options}

theorem marked_rawInline (text : String) (s : List Inline) :
    MarkedOff IsMarkup (options.rawInline text :: s) := by
  rintro first ⟨⟩
  rfl

/-- A row can end here: with markup that is no separator, or with the list. -/
def EndsRow (options : Options) (s : List Inline) : Prop :=
  MarkedOff IsMarkup s ∧ options.rawInline options.cellSeparator ∉ s.head?

theorem endsRow_nil : options.EndsRow [] := ⟨nofun, nofun⟩

/-- A row ends where its end is written. -/
theorem endsRow_cons (separated : options.cellSeparator ≠ options.rowEnd ++ "\n")
    (s : List Inline) : options.EndsRow (options.rawInline (options.rowEnd ++ "\n") :: s) := by
  refine ⟨marked_rawInline (options.rowEnd ++ "\n") s, ?_⟩
  intro same
  cases separated (Inline.raw.inj (Option.some.inj same)).2.symm

/-- The cells of a row can be told apart in the form in which they are written. -/
theorem separated_readable {write : List Inline → List Inline}
    (readable : Readable (fun cell => ∀ inline ∈ cell, ¬ IsMarkup inline)
      (MarkedOff IsMarkup) write) :
    Readable Legible options.EndsRow (fun row => options.separated (row.map write)) :=
  readable.intercalate (marked_rawInline options.cellSeparator)

theorem headerCell_readable (options : Options) {later : List Inline → Prop} :
    Readable (fun cell => ∀ inline ∈ cell, ¬ IsMarkup inline) later options.headerCell :=
  ((Readable.of_marked IsMarkup).closed (marked_rawInline "\x7d")).opened _

theorem bodyRow_readable (separated : options.cellSeparator ≠ options.rowEnd ++ "\n") :
    Readable Legible (fun _ => True) options.bodyRow := by
  have cells : Readable Legible options.EndsRow options.separated := by
    simpa only [List.map_id_fun', id] using separated_readable (Readable.of_marked IsMarkup)
  exact cells.closed fun s => endsRow_cons separated (options.rawInline _ :: s)

/-- Without rows there is no body. -/
theorem body_inj (separated : options.cellSeparator ≠ options.rowEnd ++ "\n")
    {rows rows' : List (List (List Inline))} (legible : ∀ row ∈ rows, Legible row)
    (legible' : ∀ row ∈ rows', Legible row)
    (same : (if rows.isEmpty then [] else [options.body rows]) =
      if rows'.isEmpty then [] else [options.body rows']) : rows = rows' := by
  have written (row : List (List Inline)) : options.bodyRow row ≠ [] :=
    List.append_ne_nil_of_right_ne_nil _ (List.cons_ne_nil _ _)
  cases rows with
  | nil =>
      cases rows' with
      | nil => rfl
      | cons row' rest' => cases same
  | cons row rest =>
      cases rows' with
      | nil => cases same
      | cons row' rest' =>
          have paragraphs := Block.para.inj (List.cons.inj same).1
          exact (bodyRow_readable separated).flatMap_injOn written legible legible' paragraphs

/-- What follows the last row of a table head is not needed to tell it. -/
theorem header_inj (separated : options.cellSeparator ≠ options.rowEnd ++ "\n")
    {rows rows' : List (List (List Inline))} (legible : ∀ row ∈ rows, Legible row)
    (legible' : ∀ row ∈ rows', Legible row) (same : options.header rows = options.header rows') :
    rows = rows' := by
  cases rows with
  | nil =>
      cases rows' with
      | nil => rfl
      | cons row' rest' =>
          have ends := (List.cons.inj (Block.para.inj same)).2
          exact absurd ends.symm (List.append_ne_nil_of_right_ne_nil _ (List.cons_ne_nil _ _))
  | cons row rest =>
      cases rows' with
      | nil =>
          have ends := (List.cons.inj (Block.para.inj same)).2
          exact absurd ends (List.append_ne_nil_of_right_ne_nil _ (List.cons_ne_nil _ _))
      | cons row' rest' =>
          have between := List.append_cancel_right (List.cons.inj (Block.para.inj same)).2
          have readable := (separated_readable options.headerCell_readable).intercalate
            (endsRow_cons separated)
          exact readable.injOn ⟨endsRow_nil, nofun⟩ ⟨List.cons_ne_nil row rest, legible⟩
            ⟨List.cons_ne_nil row' rest', legible'⟩ between

theorem caption_inj {content content' : List Inline}
    (same : options.caption content = options.caption content') : content = content' :=
  List.append_cancel_right (List.cons.inj (Block.para.inj same)).2

/-- Rendering loses no cell. Two tabulars with legible rows that are rendered as the same
blocks, with separators that are no ends of rows, have the same rows and the same caption. -/
theorem render_injective (separated : options.cellSeparator ≠ options.rowEnd ++ "\n")
    {p q : TableParts} (legible : p.Legible) (legible' : q.Legible)
    (same : options.render p = options.render q) :
    p.headerRows = q.headerRows ∧ p.bodyRows = q.bodyRows ∧ p.caption = q.caption := by
  -- As many blocks stand before the body in both renderings, and as many after it.
  obtain ⟨same, ends⟩ := List.append_inj' same (by simp only [List.length_cons])
  obtain ⟨begins, bodies⟩ := List.append_inj same (by simp only [List.length_cons])
  simp only [List.cons.injEq] at begins ends
  obtain ⟨-, -, -, header, -⟩ := begins
  obtain ⟨-, caption, -⟩ := ends
  exact ⟨header_inj separated legible.header legible'.header header,
    body_inj separated legible.body legible'.body bodies, caption_inj caption⟩

end Options

/-- A tabular with a column of the given alignment, an empty cell and rows of different
lengths. -/
def TableParts.ragged (alignment : Alignment) : TableParts where
  caption := [.raw "latex" "\x7d"]
  columns := [⟨alignment, 0.5⟩]
  headerRows := [[[], [.str "a"]]]
  bodyRows := [[[.str "b", .space], [], []], [[]]]

theorem TableParts.ragged_legible (alignment : Alignment) :
    (TableParts.ragged alignment).Legible := by
  constructor <;> simp [TableParts.ragged, Tabular.Legible, IsMarkup, Inline.kind]

/-- Text is aligned to the left unless told otherwise, so the rendering does not tell how a
column is aligned. It tells the cells. -/
theorem Options.render_injective_ragged :
    let p := TableParts.ragged .default
    let q := TableParts.ragged .left
    ({} : Options).render p = ({} : Options).render q ∧
      p.headerRows = q.headerRows ∧ p.bodyRows = q.bodyRows ∧ p.caption = q.caption :=
  ⟨rfl, @Options.render_injective {} (by decide) _ _ (TableParts.ragged_legible .default)
    (TableParts.ragged_legible .left) rfl⟩

/-- With separators that are ends of rows, two cells are rendered as two rows of one. -/
example :
    let options : Options := { cellSeparator := "\\\\\n", rowEnd := "\\\\" }
    options.render ⟨[], [], [[[], []]], []⟩ = options.render ⟨[], [], [[[]], [[]]], []⟩ := rfl

end Tabular

end DocFilter
