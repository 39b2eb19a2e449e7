import DocFilter.Proofs.Walk.Fusion

/-!
# Tables that are rendered

What a table is rendered as depends on no more of it than the kinds of the first
blocks of its caption and cells, on their inlines and on its columns. Tables in which
these are related are rendered as blocks that are related in the same way.
-/

namespace DocFilter

/-! ## Lists with separators -/

theorem forall₂_intersperse {α β : Type} {related : α → β → Prop} {separator : α}
    {separator' : β} (between : related separator separator') {xs : List α} {ys : List β}
    (each : List.Forall₂ related xs ys) :
    List.Forall₂ related (xs.intersperse separator) (ys.intersperse separator') := by
  induction each with
  | nil => exact .nil
  | cons first rest ih =>
      cases rest with
      | nil => exact .cons first .nil
      | cons second others => exact .cons first (.cons between ih)

theorem forall₂_intercalate {α β : Type} {related : α → β → Prop} {separator : List α}
    {separator' : List β} (between : List.Forall₂ related separator separator')
    {xs : List (List α)} {ys : List (List β)}
    (each : List.Forall₂ (List.Forall₂ related) xs ys) :
    List.Forall₂ related (separator.intercalate xs) (separator'.intercalate ys) :=
  List.rel_flatten (forall₂_intersperse between each)

/-- Reports are related by their outcomes. -/
def Relator.reports (halts : Error → Error → Prop) : Relator Report Report where
  rel results x y := Agree halts results x.outcome y.outcome
  pure same := .ok same
  bind {α β γ δ results others x y f g} related follow := by
    obtain ⟨outcome, notices⟩ := x
    obtain ⟨outcome', notices'⟩ := y
    cases related with
    | ok same => exact follow _ _ same
    | error same => exact .error same

/-- Two walks stop because of one place in a table, whatever stands there, or because of
the limit. -/
inductive Halt.Alike : Halt → Halt → Prop where
  | failed (place : Place) (found found' : BlockKind) :
      Alike (.failed (.unsupported place found)) (.failed (.unsupported place found'))
  | tooDeep : Alike .tooDeep .tooDeep

theorem Halt.Alike.self {x y : Halt} (alike : x.Alike y) : x.Alike x := by
  cases alike with
  | failed place found found' => exact .failed place found found
  | tooDeep => exact .tooDeep

namespace Tabular

/-- Tabulars with the same columns and shape, and inlines that are related one by one. -/
structure TableParts.Alike (related : Inline → Inline → Prop) (x y : TableParts) : Prop where
  caption : List.Forall₂ related x.caption y.caption
  columns : x.columns = y.columns
  headerRows : List.Forall₂ (List.Forall₂ (List.Forall₂ related)) x.headerRows y.headerRows
  bodyRows : List.Forall₂ (List.Forall₂ (List.Forall₂ related)) x.bodyRows y.bodyRows

/-! ## Taking apart -/

section

variable {halts : Error → Error → Prop} {inlines : Inline → Inline → Prop}
  {blocks : Block → Block → Prop} {short : List Inline → List Inline → Prop}
  (reads : ∀ place x y, blocks x y →
    Agree halts (List.Forall₂ inlines) (blockInlines place x) (blockInlines place y))

include reads

theorem cellInlines_agree {x y : Cell} (alike : x.Alike (List.Forall₂ blocks) y) :
    Agree halts (List.Forall₂ inlines) (cellInlines x) (cellInlines y) := by
  cases alike with
  | intro inside =>
      cases inside with
      | nil => exact .ok .nil
      | cons first _ => exact reads .tableCell _ _ first

theorem rowInlines_agree (columns : Nat) {x y : Row} (alike : x.Alike (List.Forall₂ blocks) y) :
    (Relator.reports halts).rel (List.Forall₂ (List.Forall₂ inlines)) (rowInlines columns x)
      (rowInlines columns y) := by
  cases alike with
  | intro each =>
      rw [rowInlines, rowInlines]
      dsimp only
      -- Rows that are alike have as many cells, so both are of the wrong length or neither.
      rw [each.length_eq]
      have cells := (Relator.reports halts).mapM each fun _ _ alike =>
        show (Relator.reports halts).rel (List.Forall₂ inlines) (Report.ofExcept (cellInlines _))
          (Report.ofExcept (cellInlines _)) from cellInlines_agree reads alike
      split
      case isTrue =>
          have told (notice : Notice) : (Relator.reports halts).rel (fun _ _ => True)
              (Report.note notice) (Report.note notice) := .ok trivial
          exact (Relator.reports halts).bind (told _) fun _ _ _ => cells
      case isFalse => exact cells

theorem rowsInlines_agree (columns : Nat) {xs ys : List Row}
    (each : List.Forall₂ (Row.Alike (List.Forall₂ blocks)) xs ys) :
    (Relator.reports halts).rel (List.Forall₂ (List.Forall₂ (List.Forall₂ inlines)))
      (xs.mapM (rowInlines columns)) (ys.mapM (rowInlines columns)) :=
  (Relator.reports halts).mapM each fun _ _ => rowInlines_agree reads columns

/-- Tables that are alike are made of parts that are alike. -/
theorem ofTable?_agree {x y : Table} (alike : x.Alike short (List.Forall₂ blocks) y) :
    (Relator.reports halts).rel (Option.Rel (TableParts.Alike inlines)) (TableParts.ofTable? x)
      (TableParts.ofTable? y) := by
  cases alike with
  | @intro attr headAttr footAttr caption caption' colSpecs head head' foot foot' bodies bodies'
      captions heads each feet =>
    cases captions with
    | intro brief inside =>
        cases inside with
        | nil => exact .ok .none
        | cons first others =>
            have contents : List.Forall₂ (Row.Alike (List.Forall₂ blocks))
                (bodies.flatMap (fun body => body.head ++ body.rows) ++ foot)
                (bodies'.flatMap (fun body => body.head ++ body.rows) ++ foot') := by
              refine List.rel_append (List.rel_flatMap each ?_) feet
              rintro _ _ ⟨heading, rows⟩
              exact List.rel_append heading rows
            have caption := reads .tableCaption _ _ first
            refine (Relator.reports halts).bind caption fun text text' title => ?_
            refine (Relator.reports halts).bind (rowsInlines_agree reads _ heads)
              fun header header' headed => ?_
            refine (Relator.reports halts).bind (rowsInlines_agree reads _ contents)
              fun body body' filled => ?_
            exact .ok (.some ⟨title, rfl, headed, filled⟩)

end

/-! ## Rendering -/

/-- Markup, or paragraphs of inlines that are related one by one. -/
inductive Rendered (related : Inline → Inline → Prop) : Block → Block → Prop where
  | raw (format text : String) : Rendered related (.raw format text) (.raw format text)
  | para {content content' : List Inline} (inside : List.Forall₂ related content content') :
      Rendered related (.para content) (.para content')

section

variable (options : Options) {related : Inline → Inline → Prop}
  (markup : ∀ text, related (options.rawInline text) (options.rawInline text))

include markup

theorem headerCell_rel {xs ys : List Inline} (each : List.Forall₂ related xs ys) :
    List.Forall₂ related (options.headerCell xs) (options.headerCell ys) :=
  .cons (markup _) (List.rel_append each (.cons (markup _) .nil))

theorem separated_rel {xs ys : List (List Inline)}
    (each : List.Forall₂ (List.Forall₂ related) xs ys) :
    List.Forall₂ related (options.separated xs) (options.separated ys) :=
  forall₂_intercalate (.cons (markup _) .nil) each

theorem header_rel {xs ys : List (List (List Inline))}
    (each : List.Forall₂ (List.Forall₂ (List.Forall₂ related)) xs ys) :
    Rendered related (options.header xs) (options.header ys) := by
  have rows : List.Forall₂ (List.Forall₂ related)
      (xs.map fun row => options.separated (row.map options.headerCell))
      (ys.map fun row => options.separated (row.map options.headerCell)) := by
    refine List.rel_map (fun row row' cells => ?_) each
    apply separated_rel options markup
    exact List.rel_map (fun _ _ cell => headerCell_rel options markup cell) cells
  cases each with
  | nil => exact .para (.cons (markup _) .nil)
  | cons first others =>
      have between := forall₂_intercalate (.cons (markup (options.rowEnd ++ "\n")) .nil) rows
      exact .para (.cons (markup _) (List.rel_append between (.cons (markup _) .nil)))

theorem bodyRow_rel {xs ys : List (List Inline)}
    (each : List.Forall₂ (List.Forall₂ related) xs ys) :
    List.Forall₂ related (options.bodyRow xs) (options.bodyRow ys) :=
  List.rel_append (separated_rel options markup each) (.cons (markup _) (.cons (markup _) .nil))

theorem body_rel {xs ys : List (List (List Inline))}
    (each : List.Forall₂ (List.Forall₂ (List.Forall₂ related)) xs ys) :
    List.Forall₂ (Rendered related) (if xs.isEmpty then [] else [options.body xs])
      (if ys.isEmpty then [] else [options.body ys]) := by
  cases each with
  | nil => exact .nil
  | cons first others =>
      refine .cons (.para ?_) .nil
      exact List.rel_flatMap (.cons first others) fun _ _ => bodyRow_rel options markup

/-- Tabulars that are alike are rendered alike. -/
theorem render_rel {x y : TableParts} (alike : x.Alike related y) :
    List.Forall₂ (Rendered related) (options.render x) (options.render y) := by
  rw [Options.render, Options.render, alike.columns]
  refine List.rel_append (List.rel_append ?_ (body_rel options markup alike.bodyRows)) ?_
  · have header := header_rel options markup alike.headerRows
    exact .cons (.raw _ _) (.cons (.raw _ _) (.cons (.raw _ _) (.cons header .nil)))
  · have caption : Rendered related (options.caption x.caption) (options.caption y.caption) :=
      .para (.cons (markup _) (List.rel_append alike.caption (.cons (markup _) .nil)))
    exact .cons (.raw _ _) (.cons caption (.cons (.raw _ _) .nil))

end

theorem Rendered.kind_ne_code {related : Inline → Inline → Prop} {x y : Block}
    (rendered : Rendered related x y) : y.kind ≠ .code := by
  cases rendered <;> exact nofun

namespace TableParts

theorem alike_refl (parts : TableParts) : parts.Alike (fun x y => x = y) parts where
  caption := List.forall₂_same.mpr fun _ _ => rfl
  columns := rfl
  headerRows :=
    List.forall₂_same.mpr fun _ _ => List.forall₂_same.mpr fun _ _ =>
      List.forall₂_same.mpr fun _ _ => rfl
  bodyRows :=
    List.forall₂_same.mpr fun _ _ => List.forall₂_same.mpr fun _ _ =>
      List.forall₂_same.mpr fun _ _ => rfl

end TableParts

/-! ## Height -/

/-- Equal inlines that are not too tall. -/
def Within (bound : Nat) (x y : Inline) : Prop := x = y ∧ y.height ≤ bound

theorem Rendered.height_le {bound : Nat} {x y : Block} (rendered : Rendered (Within bound) x y) :
    y.height ≤ bound + 1 := by
  cases rendered with
  | raw format text => exact Nat.succ_le_succ (Nat.zero_le bound)
  | para inside =>
      have low := forall_of_forall₂ (fun _ _ within => within.2) inside
      exact Nat.succ_le_succ (Inline.tallest_le_iff.mpr low)

theorem blockInlines_within {bound : Nat} (place : Place) (x y : Block)
    (same : x = y ∧ y.height ≤ bound) :
    Agree Eq (List.Forall₂ (Within bound)) (blockInlines place x) (blockInlines place y) := by
  obtain ⟨rfl, fits⟩ := same
  cases x with
  | plain content | para content =>
      have low := Inline.tallest_le_iff.mp (Nat.le_of_succ_le fits)
      exact .ok (List.forall₂_same.mpr fun inline member => ⟨rfl, low inline member⟩)
  | _ => exact .error rfl

namespace TableParts

variable {table : Table} {parts : TableParts}

theorem height_pos_of_made (made : (ofTable? table).outcome = .ok (some parts)) :
    0 < table.height := by
  obtain ⟨attr, ⟨short, long⟩, colSpecs, head, bodies, foot⟩ := table
  cases long with
  | nil => cases made
  | cons first others =>
      have listed : first.height ≤ Block.tallest (first :: others) := Nat.le_max_left _ _
      have title : Block.tallest (first :: others) ≤ Caption.height ⟨short, first :: others⟩ := by
        cases short with
        | none => exact Nat.le_refl _
        | some short => exact Nat.le_max_right (Inline.tallest short) _
      have whole : Caption.height ⟨short, first :: others⟩ ≤
          Table.height ⟨attr, ⟨short, first :: others⟩, colSpecs, head, bodies, foot⟩ :=
        Nat.le_trans (Nat.le_max_left _ _) (Nat.le_max_left _ _)
      exact Nat.lt_of_lt_of_le first.height_pos (Nat.le_trans listed (Nat.le_trans title whole))

/-- The inlines of a tabular are like themselves if those of the blocks in the table are. -/
theorem alike_self {halts : Error → Error → Prop} {inlines : Inline → Inline → Prop}
    {blocks : Block → Block → Prop} {short : List Inline → List Inline → Prop}
    (reads : ∀ place x y, blocks x y →
      Agree halts (List.Forall₂ inlines) (blockInlines place x) (blockInlines place y))
    (alike : table.Alike short (List.Forall₂ blocks) table)
    (made : (ofTable? table).outcome = .ok (some parts)) : parts.Alike inlines parts := by
  have agree : Agree halts (Option.Rel (TableParts.Alike inlines)) (ofTable? table).outcome
      (ofTable? table).outcome := ofTable?_agree reads alike
  rw [made] at agree
  rcases agree with ⟨⟨alike⟩⟩
  exact alike

/-- The inlines of a tabular are no taller than the table. -/
theorem alike_of_made (made : (ofTable? table).outcome = .ok (some parts)) :
    parts.Alike (Within table.height) parts := by
  have low (content : List Block) (fits : Block.tallest content ≤ table.height) :
      List.Forall₂ (fun x y => x = y ∧ y.height ≤ table.height) content content :=
    List.forall₂_same.mpr fun block member => ⟨rfl, Block.tallest_le_iff.mp fits block member⟩
  have alike : table.Alike (fun _ _ => True)
      (List.Forall₂ fun x y => x = y ∧ y.height ≤ table.height) table :=
    table.alike_self (fun _ _ => trivial) low (Nat.le_refl table.height)
  exact alike_self blockInlines_within alike made

end TableParts

/-! ## Code -/

variable {marking : Marking}

theorem blockInlines_becomes (place : Place) (x y : Block) (same : x.Becomes marking y) :
    Agree (fun e e' => Halt.Alike (.failed e) (.failed e'))
      (List.Forall₂ (Inline.Becomes marking)) (blockInlines place x) (blockInlines place y) := by
  cases same
  cases x with
  | plain content | para content => exact .ok (Inline.markedAll_becomes content)
  | _ => exact .error (.failed place _ _)

theorem Rendered.becomes {x y : Block} (rendered : Rendered (Inline.Becomes marking) x y) :
    x.Becomes marking y := by
  cases rendered with
  | raw format text => rfl
  | para inside => exact congrArg Block.para (Inline.becomes_all inside)

/-! ## What becomes of tables -/

namespace Options

variable (options : Options)

/-- What takes the place of a table, given its parts. -/
def replacement : Option TableParts → Action Block
  | some parts => .many (options.render parts)
  | none => .keep

def answers (format : String) : Answers where
  inline _ := .ok .keep
  block node := (options.onBlock ⟨format, []⟩ node).outcome

theorem gives_answers {σ : Type} (context : Context) :
    (options.filter (σ := σ)).Gives context (options.answers context.format) where
  inline _ _ := rfl
  block _ _ := rfl

variable {options} {format : String}

theorem answers_table (target : options.targetFormat = format) (table : Table) :
    (options.answers format).block (.table table) =
      (TableParts.ofTable? table).outcome.map options.replacement := by
  have same : ¬ (format != options.targetFormat) = true := by
    rw [target, bne_self_eq_false]
    exact Bool.false_ne_true
  unfold answers onBlock
  dsimp only
  rw [if_neg same]
  generalize TableParts.ofTable? table = report
  obtain ⟨outcome, notices⟩ := report
  cases outcome with
  | error error => rfl
  | ok parts => cases parts <;> rfl

/-- Nodes other than tables are kept, and so is everything for another format. -/
theorem answers_keep (node : Block)
    (other : options.targetFormat = format → node.kind ≠ .table) :
    (options.answers format).block node = .ok .keep := by
  unfold answers onBlock
  split
  case isTrue => rfl
  case isFalse same =>
      have target : format = options.targetFormat := by simpa using same
      cases node with
      | table table => exact absurd rfl (other target.symm)
      | _ => rfl

theorem table_or_other (format : String) (node : Block) :
    (∃ table, node = .table table ∧ options.targetFormat = format) ∨
      (options.targetFormat = format → node.kind ≠ .table) := by
  by_cases target : options.targetFormat = format
  · cases node with
    | table table => exact .inl ⟨table, rfl, target⟩
    | _ => exact .inr nofun
  · exact .inr fun same => absurd same target

/-- What takes the place of a table is the tabular of its parts. -/
theorem replacements_of_answers {node : Block} {action : Action Block}
    (answered : (options.answers format).block node = .ok action) :
    action = .keep ∨
      ∃ table parts, node = .table table ∧
        (TableParts.ofTable? table).outcome = .ok (some parts) ∧
        action = .many (options.render parts) := by
  rcases options.table_or_other format node with ⟨table, rfl, target⟩ | other
  · rw [answers_table target] at answered
    cases outcome : (TableParts.ofTable? table).outcome with
    | error error =>
        rw [outcome] at answered
        cases answered
    | ok made =>
        rw [outcome] at answered
        cases answered
        cases made with
        | none => exact .inl rfl
        | some parts => exact .inr ⟨table, parts, rfl, outcome, rfl⟩
  · cases (answers_keep node other).symm.trans answered
    exact .inl rfl

/-- Tables are not rendered as code. -/
theorem answers_avoidsCode : (options.answers format).AvoidsCode where
  inline _ _ answered others replaced := by
    cases answered
    cases replaced
  block node action answered others replaced := by
    rcases replacements_of_answers answered with rfl | ⟨table, parts, -, -, rfl⟩
    · cases replaced
    · cases replaced
      have rendered := render_rel options (fun _ => rfl) parts.alike_refl
      exact forall_of_forall₂ (fun _ _ block => block.kind_ne_code) rendered

/-! ## Height -/

/-- Tables are rendered as nothing that is taller. -/
theorem answers_lowers : (options.answers format).Lowers where
  inline node action answered := by
    cases answered
    exact List.forall_mem_singleton.mpr (Nat.le_refl node.height)
  block node action answered := by
    rcases replacements_of_answers answered with rfl | ⟨table, parts, rfl, made, rfl⟩
    · exact List.forall_mem_singleton.mpr (Nat.le_refl node.height)
    · have tall := TableParts.height_pos_of_made made
      have rendered := render_rel options (fun _ => ⟨rfl, tall⟩) (TableParts.alike_of_made made)
      exact forall_of_forall₂ (fun _ _ block => block.height_le) rendered

/-! ## Code that was replaced before -/

/-- Tables with their code replaced are rendered as others are, with code replaced then;
or both cannot be rendered because of one place in them. -/
theorem answers_commutes (marking : Marking) :
    (options.answers format).Commutes marking Halt.Alike where
  inline node := .ok (.cons rfl .nil)
  block node := by
    rcases options.table_or_other format node with ⟨table, rfl, target⟩ | other
    · have agree : Agree (fun e e' => Halt.Alike (.failed e) (.failed e'))
          (Option.Rel (TableParts.Alike (Inline.Becomes marking)))
          (TableParts.ofTable? table).outcome
          (TableParts.ofTable? (table.marked marking)).outcome :=
        ofTable?_agree blockInlines_becomes
          (table.alike_marked Inline.markedAll_becomes Block.markedAll_becomes)
      rw [Block.marked, answers_table target, answers_table target]
      generalize (TableParts.ofTable? table).outcome = made at agree ⊢
      generalize (TableParts.ofTable? (table.marked marking)).outcome = made' at agree ⊢
      cases agree with
      | error same => exact .error same
      | ok same =>
          cases same with
          | none => exact .ok (.cons rfl .nil)
          | some alike =>
              have markup (text : String) : Inline.Becomes marking (options.rawInline text)
                  (options.rawInline text) := rfl
              have rendered := render_rel options markup alike
              exact .ok (rendered.imp fun _ _ => Rendered.becomes)
    · have same : options.targetFormat = format → (node.marked marking).kind ≠ .table :=
        fun target => Block.kind_marked_ne_table (other target)
      rw [answers_keep node other, answers_keep _ same]
      exact .ok (.cons rfl .nil)
  tooDeep := .tooDeep

end Options

end Tabular

end DocFilter
