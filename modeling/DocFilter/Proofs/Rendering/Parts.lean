import DocFilter.Tabular.Parts

/-!
# What is read of a table

Of a table with a caption, the first block of the caption is read and then the first block of
each cell, row by row from the table head to the table foot. The first of them that is not
text is the error; without one the tabular has the shape of the table. Rows are told about
while they are read, so none is after the one with the error.
-/

namespace DocFilter

/-! ## Up to the first of a kind -/

section

variable {α : Type} (stops : α → Bool)

/-- The elements up to the first one that stops the reading, which is read itself. -/
def throughFirst (xs : List α) : List α := xs.take (xs.findIdx stops + 1)

theorem throughFirst_cons (x : α) (rest : List α) :
    throughFirst stops (x :: rest) = x :: if stops x then [] else throughFirst stops rest := by
  rw [throughFirst, List.findIdx_cons]
  cases stops x with
  | false => rfl
  | true => simp

theorem throughFirst_append (xs ys : List α) :
    throughFirst stops (xs ++ ys) =
      throughFirst stops xs ++ if xs.any stops then [] else throughFirst stops ys := by
  induction xs with
  | nil => rfl
  | cons x rest ih =>
      rw [List.cons_append, throughFirst_cons, throughFirst_cons, ih, List.any_cons]
      cases stops x <;> rfl

end

namespace Tabular

/-! ## Leads -/

/-- The block that a caption or a cell begins with, and which of the two it is. -/
structure Lead where
  place : Place
  block : Block

namespace Lead

/-- The block is neither plain text nor a paragraph. -/
def unsupported (lead : Lead) : Bool :=
  match lead.block with
  | .plain _ => false
  | .para _ => false
  | _ => true

def text (lead : Lead) : List Inline :=
  match lead.block with
  | .plain content => content
  | .para content => content
  | _ => []

/-- The lead of a cell, unless the cell is empty. -/
def ofCell (cell : Cell) : List Lead := (cell.content.take 1).map (Lead.mk .tableCell)

def ofRow (row : Row) : List Lead := row.cells.flatMap ofCell

/-- The inlines that each cell of a row begins with, none for an empty cell. -/
def texts (row : Row) : List (List Inline) := row.cells.map fun cell => (ofCell cell).flatMap text

/-- The row has a lead that is not text, so reading stops there. -/
def stops (row : Row) : Bool := (ofRow row).any unsupported

/-- A result, unless one of the leads is not text: then the error is about the first of
those. -/
def verdict {β : Type} (leads : List Lead) (value : β) : Except Error β :=
  match leads.find? unsupported with
  | some lead => .error (.unsupported lead.place lead.block.kind)
  | none => .ok value

/-- What is told of the lengths of rows. -/
def lengthNotices (columns : Nat) (rows : List Row) : List Notice :=
  (rows.filter fun row => row.cells.length != columns).map fun row =>
    .rowLength row.cells.length columns

end Lead

/-! ## Reading -/

section

variable {α β : Type}

open Lead

/-- What is read second counts only if all that was read first is text. -/
theorem verdict_bind {leads leads' : List Lead} {value : α} {value' : β}
    {notices notices' : List Notice} {next : α → Report β}
    (follows : next value = ⟨verdict leads' value', notices'⟩) :
    (⟨verdict leads value, notices⟩ : Report α) >>= next =
      ⟨verdict (leads ++ leads') value',
        notices ++ if leads.any unsupported then [] else notices'⟩ := by
  unfold verdict
  rw [List.find?_append]
  cases found : leads.find? unsupported with
  | none =>
      have text : leads.any unsupported = false := by
        rw [List.any_eq_false]
        exact List.find?_eq_none.mp found
      rw [Report.ok_bind, follows, text]
      rfl
  | some lead =>
      have bad : leads.any unsupported = true :=
        List.any_eq_true.mpr ⟨lead, List.mem_of_find?_eq_some found, List.find?_some found⟩
      rw [Report.error_bind, bad]
      exact congrArg (Report.mk _) (List.append_nil notices).symm

theorem verdict_map {leads : List Lead} {value : α} {notices : List Notice} (f : α → β) :
    ((⟨verdict leads value, notices⟩ : Report α) >>= fun made => pure (f made)) =
      ⟨verdict leads (f value), notices⟩ := by
  unfold verdict
  cases leads.find? unsupported with
  | none => rw [Report.ok_bind, Report.pure_eq, List.append_nil]
  | some lead => rfl

/-- Things are read one by one until one has a lead that is not text. -/
theorem mapM_verdict {read : α → Report β} {leads : α → List Lead} {value : α → β}
    {told : α → List Notice} (each : ∀ x, read x = ⟨verdict (leads x) (value x), told x⟩)
    (xs : List α) :
    xs.mapM read =
      ⟨verdict (xs.flatMap leads) (xs.map value),
        (throughFirst (fun x => (leads x).any unsupported) xs).flatMap told⟩ := by
  induction xs with
  | nil => rfl
  | cons x rest ih =>
      rw [List.mapM_cons, each, ih, throughFirst_cons, List.flatMap_cons, List.flatMap_cons,
        apply_ite (List.flatMap told)]
      refine verdict_bind ?_
      exact verdict_map (value x :: ·)

/-- A caption or a cell is read if it begins with text. -/
theorem blockInlines_eq (place : Place) (block : Block) :
    blockInlines place block = verdict [⟨place, block⟩] (Lead.mk place block).text := by
  cases block <;> rfl

theorem cellInlines_eq (cell : Cell) :
    cellInlines cell = verdict (ofCell cell) ((ofCell cell).flatMap text) := by
  obtain ⟨attr, alignment, rowSpan, colSpan, content⟩ := cell
  cases content with
  | nil => rfl
  | cons first others =>
      show blockInlines .tableCell first = verdict [⟨.tableCell, first⟩] ((text _) ++ [])
      rw [blockInlines_eq, List.append_nil]

/-- A row is told about before it is read. -/
theorem rowInlines_eq (columns : Nat) (row : Row) :
    rowInlines columns row = ⟨verdict (ofRow row) (texts row), lengthNotices columns [row]⟩ := by
  have cells : row.cells.mapM (fun cell => Report.ofExcept (cellInlines cell)) =
      ⟨verdict (ofRow row) (texts row), []⟩ := by
    have each (cell : Cell) : Report.ofExcept (cellInlines cell) =
        ⟨verdict (ofCell cell) ((ofCell cell).flatMap text), []⟩ :=
      congrArg Report.ofExcept (cellInlines_eq cell)
    refine (mapM_verdict each row.cells).trans (congrArg (Report.mk _) ?_)
    exact List.flatMap_eq_nil_iff.mpr fun _ _ => rfl
  unfold rowInlines
  rw [cells]
  cases differs : row.cells.length != columns with
  | true => simp [Report.note, lengthNotices, differs]
  | false => simp [lengthNotices, differs]

theorem lengthNotices_append (columns : Nat) (xs ys : List Row) :
    lengthNotices columns (xs ++ ys) = lengthNotices columns xs ++ lengthNotices columns ys := by
  simp only [lengthNotices, List.filter_append, List.map_append]

theorem flatMap_lengthNotices (columns : Nat) (rows : List Row) :
    (rows.flatMap fun row => lengthNotices columns [row]) = lengthNotices columns rows := by
  induction rows with
  | nil => rfl
  | cons row rest ih =>
      rw [List.flatMap_cons, ih, ← lengthNotices_append, List.singleton_append]

/-- Rows are read up to one that cannot be, and told about so far. -/
theorem rowsInlines_eq (columns : Nat) (rows : List Row) :
    rows.mapM (rowInlines columns) =
      ⟨verdict (rows.flatMap ofRow) (rows.map texts),
        lengthNotices columns (throughFirst Lead.stops rows)⟩ := by
  rw [mapM_verdict (rowInlines_eq columns), flatMap_lengthNotices]
  rfl

/-- Of rows that are read after others nothing is told if one of those cannot be read. -/
theorem twoRowsInlines_eq (columns : Nat) (head content : List Row)
    (make : List (List (List Inline)) → List (List (List Inline)) → α) :
    (do
      let headerRows ← head.mapM (rowInlines columns)
      let bodyRows ← content.mapM (rowInlines columns)
      pure (make headerRows bodyRows)) =
      ⟨verdict ((head ++ content).flatMap ofRow) (make (head.map texts) (content.map texts)),
        lengthNotices columns (throughFirst Lead.stops (head ++ content))⟩ := by
  rw [rowsInlines_eq, rowsInlines_eq, throughFirst_append, lengthNotices_append,
    List.flatMap_append, apply_ite (lengthNotices columns)]
  refine Eq.trans (verdict_bind (verdict_map (make (head.map texts)))) ?_
  rw [List.any_flatMap]
  rfl

/-- A rule in the head of a section hides the listing in the table foot, and that both rows of
the foot are too long. -/
example :
    let column : ColSpec := ⟨.left, .default⟩
    let head : Row := .ofCells []
    let heading : Row := .ofCells [.prose "a", .ofBlocks [.horizontalRule], .empty]
    let foot : Row := .ofCells [.ofBlocks [.code .empty ""], .empty, .empty]
    let table : Table :=
      ⟨.empty, .plain [], [column, column], ⟨.empty, [head]⟩, [⟨.empty, 0, [heading], []⟩],
        ⟨.empty, [foot, foot]⟩⟩
    TableParts.ofTable? table =
      ⟨.error (.unsupported .tableCell .horizontalRule), [.rowLength 0 2, .rowLength 3 2]⟩ := rfl

end

end Tabular

end DocFilter
