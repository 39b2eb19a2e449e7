import DocFilter.Document.Table

/-!
# Building tables

A table is built by adding header rows and body rows and by setting its caption, in any
order. Every kind of step changes a part of the table that no other kind changes, so what is
built is known from the steps of each kind alone. Body rows go to the end of the last
section, and so stand between the rows of all sections and those of the table foot.
-/

namespace DocFilter

namespace TableBody

/-- Puts rows at the end of the last section, one after the other. -/
def addRows (rows : List Row) (bodies : List TableBody) : List TableBody :=
  rows.foldl (fun bodies row => addRow row bodies) bodies

/-- Every row of some sections, in the order of reading. -/
def allRows (bodies : List TableBody) : List Row :=
  bodies.flatMap fun body => body.head ++ body.rows

theorem addRow_append (row : Row) (front : List TableBody) (last : TableBody) :
    addRow row (front ++ [last]) = front ++ [{ last with rows := last.rows ++ [row] }] := by
  induction front with
  | nil => rfl
  | cons body rest ih =>
      have more : rest ++ [last] ≠ [] :=
        List.append_ne_nil_of_right_ne_nil _ (List.cons_ne_nil _ _)
      rw [List.cons_append, addRow, ih, List.cons_append]
      exact more

theorem allRows_addRow (row : Row) (bodies : List TableBody) :
    allRows (addRow row bodies) = allRows bodies ++ [row] := by
  rcases bodies.eq_nil_or_concat with rfl | ⟨front, last, rfl⟩
  · rfl
  · rw [List.concat_eq_append, addRow_append]
    simp [allRows]

theorem addRows_append (rows : List Row) (front : List TableBody) (last : TableBody) :
    addRows rows (front ++ [last]) = front ++ [{ last with rows := last.rows ++ rows }] := by
  induction rows generalizing last with
  | nil =>
      rw [List.append_nil]
      cases last
      rfl
  | cons row rest ih =>
      have step : addRows (row :: rest) (front ++ [last]) =
          addRows rest (front ++ [{ last with rows := last.rows ++ [row] }]) :=
        congrArg (addRows rest) (addRow_append row front last)
      rw [step, ih, List.append_assoc, List.singleton_append]

/-- Without a section one is made for the first row, and takes the others too. -/
theorem addRows_nil (rows : List Row) :
    addRows rows [] = if rows.isEmpty then [] else [{ TableBody.empty with rows }] := by
  cases rows with
  | nil => rfl
  | cons row rest => exact addRows_append rest [] { TableBody.empty with rows := [row] }

theorem allRows_addRows (rows : List Row) (bodies : List TableBody) :
    allRows (addRows rows bodies) = allRows bodies ++ rows := by
  induction rows generalizing bodies with
  | nil => exact (List.append_nil _).symm
  | cons row rest ih =>
      have step : addRows (row :: rest) bodies = addRows rest (addRow row bodies) := rfl
      rw [step, ih, allRows_addRow, List.append_assoc, List.singleton_append]

end TableBody

namespace Table

/-- One step in building a table. -/
inductive Step where
  | headerRow (row : Row)
  | bodyRow (row : Row)
  | caption (value : Caption)

namespace Step

def apply (table : Table) : Step → Table
  | .headerRow row => table.addHeaderRow row
  | .bodyRow row => table.addBodyRow row
  | .caption value => table.setCaption value

def headerRow? : Step → Option Row
  | .headerRow row => some row
  | _ => none

def bodyRow? : Step → Option Row
  | .bodyRow row => some row
  | _ => none

def caption? : Step → Option Caption
  | .caption value => some value
  | _ => none

end Step

def build (table : Table) (steps : List Step) : Table := steps.foldl Step.apply table

/-- The table with further header rows and body rows, and with another caption. -/
def extend (table : Table) (headerRows bodyRows : List Row) (caption : Caption) : Table :=
  { table with
    caption
    head := { table.head with rows := table.head.rows ++ headerRows }
    bodies := TableBody.addRows bodyRows table.bodies }

theorem extend_nil (table : Table) : table.extend [] [] table.caption = table := by
  obtain ⟨attr, caption, colSpecs, ⟨headAttr, rows⟩, bodies, foot⟩ := table
  simp only [extend, List.append_nil]
  rfl

/-- A step before others adds its row in front of theirs, or sets a caption that they may
replace. -/
theorem extend_apply (table : Table) (step : Step) (headerRows bodyRows : List Row)
    (captions : List Caption) :
    (step.apply table).extend headerRows bodyRows (captions.getLastD (step.apply table).caption) =
      table.extend (step.headerRow?.toList ++ headerRows) (step.bodyRow?.toList ++ bodyRows)
        ((step.caption?.toList ++ captions).getLastD table.caption) := by
  cases step with
  | headerRow row =>
      have front : table.head.rows ++ [row] ++ headerRows = table.head.rows ++ row :: headerRows :=
        List.append_assoc _ _ _
      simp only [Step.apply, addHeaderRow, extend, front]
      rfl
  | bodyRow row => rfl
  | caption value =>
      have last : (value :: captions).getLastD table.caption = captions.getLastD value :=
        List.getLastD_cons
      simp only [Step.caption?, Option.toList_some, List.singleton_append, last]
      rfl

/-- The header rows, the body rows and the captions of the steps say what is built. -/
theorem build_eq (table : Table) (steps : List Step) :
    table.build steps =
      table.extend (steps.filterMap Step.headerRow?) (steps.filterMap Step.bodyRow?)
        ((steps.filterMap Step.caption?).getLastD table.caption) := by
  induction steps generalizing table with
  | nil => exact (extend_nil table).symm
  | cons step rest ih =>
      have first : table.build (step :: rest) = (step.apply table).build rest := rfl
      rw [first, ih, extend_apply]
      cases step with
      | headerRow row => rfl
      | bodyRow row => rfl
      | caption value => rfl

/-- Header rows, body rows and captions may come in any order among each other. The header
rows stand behind those that were there, the body rows behind the rows of all sections and
before those of the table foot, and the last caption holds. Everything else stays as it is:
of the sections only the last one gets longer, and only if there is none one is made. -/
theorem build_interleaved (table : Table) (steps : List Step) :
    let headerRows := steps.filterMap Step.headerRow?
    let bodyRows := steps.filterMap Step.bodyRow?
    let captions := steps.filterMap Step.caption?
    let built := table.build steps
    built.head.rows = table.head.rows ++ headerRows ∧
    built.contentRows =
      table.bodies.flatMap (fun body => body.head ++ body.rows) ++ bodyRows ++ table.foot.rows ∧
    built.caption = captions.getLastD table.caption ∧
    built.attr = table.attr ∧ built.colSpecs = table.colSpecs ∧
    built.head.attr = table.head.attr ∧ built.foot = table.foot ∧
    (∀ front last, table.bodies = front ++ [last] →
      built.bodies = front ++ [{ last with rows := last.rows ++ bodyRows }]) ∧
    (table.bodies = [] →
      built.bodies = if bodyRows.isEmpty then [] else [{ TableBody.empty with rows := bodyRows }]) ∧
    ∀ others : List Step,
      others.filterMap Step.headerRow? = headerRows → others.filterMap Step.bodyRow? = bodyRows →
        others.filterMap Step.caption? = captions → table.build others = built := by
  intro headerRows bodyRows captions built
  have closed : built = table.extend headerRows bodyRows (captions.getLastD table.caption) :=
    build_eq table steps
  rw [closed]
  refine ⟨rfl, ?rows, rfl, rfl, rfl, rfl, rfl, ?longer, ?made, ?same⟩
  case rows => exact congrArg (· ++ table.foot.rows) (TableBody.allRows_addRows _ table.bodies)
  case longer =>
    intro front last sections
    rw [extend, sections]
    exact TableBody.addRows_append bodyRows front last
  case made =>
    intro none
    rw [extend, none]
    exact TableBody.addRows_nil bodyRows
  case same =>
    intro others sameHeader sameBody sameCaptions
    rw [build_eq, sameHeader, sameBody, sameCaptions]

/-- A table with two sections, the last of them with a row that heads it, and with a foot. -/
def sectioned : Table where
  attr := .ofIdentifier "sums"
  caption := .empty
  colSpecs := []
  head := ⟨.empty, [.prose ["Name"]]⟩
  bodies := [⟨.empty, 1, [], [.prose ["first"]]⟩, ⟨.empty, 0, [.prose ["Others"]], []⟩]
  foot := ⟨.empty, [.prose ["sum"]]⟩

/-- Rows of both kinds and two captions, one kind among the other. -/
def mixedSteps : List Step :=
  [.bodyRow (.prose ["second"]), .caption (.plain [.str "Draft"]), .headerRow (.prose ["Unit"]),
    .bodyRow (.prose ["third"]), .caption (.plain [.str "Sums"])]

/-- The same steps, one kind after the other. -/
def sortedSteps : List Step :=
  [.caption (.plain [.str "Draft"]), .caption (.plain [.str "Sums"]), .headerRow (.prose ["Unit"]),
    .bodyRow (.prose ["second"]), .bodyRow (.prose ["third"])]

theorem build_interleaved_sectioned :
    (sectioned.build mixedSteps).contentRows =
      [.prose ["first"], .prose ["Others"], .prose ["second"], .prose ["third"], .prose ["sum"]] ∧
    (sectioned.build mixedSteps).bodies =
      [⟨.empty, 1, [], [.prose ["first"]]⟩,
        ⟨.empty, 0, [.prose ["Others"]], [.prose ["second"], .prose ["third"]]⟩] ∧
    sectioned.build sortedSteps = sectioned.build mixedSteps ∧
    ((ofColumns []).build mixedSteps).bodies =
      [⟨.empty, 0, [], [.prose ["second"], .prose ["third"]]⟩] := by
  obtain ⟨-, rows, -, -, -, -, -, longer, -, same⟩ := build_interleaved sectioned mixedSteps
  obtain ⟨-, -, -, -, -, -, -, -, made, -⟩ := build_interleaved (ofColumns []) mixedSteps
  have sections := longer [⟨.empty, 1, [], [.prose ["first"]]⟩]
    ⟨.empty, 0, [.prose ["Others"]], []⟩ rfl
  exact ⟨rows, sections, same sortedSteps rfl rfl rfl, made rfl⟩

end Table

end DocFilter
