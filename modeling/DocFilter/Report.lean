import DocFilter.Error

/-!
# Reports

What a computation has to say besides its result: notices for whoever watches
the program, in the order in which they come up, and kept if it fails.
-/

namespace DocFilter

/-- Something worth telling. -/
inductive Notice where
  /-- A document has a version that tables and figures may differ in. -/
  | unsupportedVersion (version : List UInt32)
  /-- A row has another number of cells than the table has columns. -/
  | rowLength (cells columns : Nat)
  | codeRendered (label language : String)
  | tableRendered (columns rows : Nat)
  | tableSkipped
  /-- A whole document was walked. -/
  | walked (blocks inlines : Nat) (format : String) (replaced : Nat)
  deriving DecidableEq

/-- How much a notice matters. -/
inductive Level where
  | warning
  | debug
  deriving DecidableEq

def Level.name : Level → String
  | .warning => "WARN"
  | .debug => "DEBUG"

namespace Notice

def level : Notice → Level
  | .unsupportedVersion _ => .warning
  | .rowLength _ _ => .warning
  | _ => .debug

def bracketed (numbers : List UInt32) : String :=
  "[" ++ String.intercalate ", " (numbers.map fun number => toString number.toNat) ++ "]"

def message : Notice → String
  | .unsupportedVersion version =>
      "pandoc-api-version " ++ bracketed version ++ " is outside the supported 1.22-1.23 range"
  | .rowLength cells columns =>
      s!"Table row has {cells} cells but {columns} column specs"
  | .codeRendered label language =>
      s!"Rendering code block '{label}' as minted {language}"
  | .tableRendered columns rows =>
      s!"Rendering table with {columns} columns and {rows} body rows"
  | .tableSkipped => "Skipping table without caption"
  | .walked blocks inlines format replaced =>
      s!"Walked {blocks} blocks and {inlines} inlines for format '{format}', " ++
        s!"replaced {replaced} nodes"

end Notice

/-- A result, or an error, and the notices on the way to it. -/
structure Report (α : Type) where
  outcome : Except Error α
  notices : List Notice

namespace Report

variable {α β : Type}

/-- Nothing but a result. -/
protected def pure (value : α) : Report α := ⟨.ok value, []⟩

/-- Goes on with a result; the notices of both parts are kept in order. -/
protected def bind (report : Report α) (next : α → Report β) : Report β :=
  match report.outcome with
  | .ok value =>
      let following := next value
      ⟨following.outcome, report.notices ++ following.notices⟩
  | .error error => ⟨.error error, report.notices⟩

instance : Monad Report where
  pure := Report.pure
  bind := Report.bind

@[simp] theorem pure_eq (value : α) : (pure value : Report α) = ⟨.ok value, []⟩ := rfl

/-- What follows a result follows its notices. -/
@[simp] theorem ok_bind (value : α) (notices : List Notice) (next : α → Report β) :
    (⟨.ok value, notices⟩ : Report α) >>= next =
      ⟨(next value).outcome, notices ++ (next value).notices⟩ := rfl

/-- Nothing follows an error. -/
@[simp] theorem error_bind (error : Error) (notices : List Notice) (next : α → Report β) :
    (⟨.error error, notices⟩ : Report α) >>= next = ⟨.error error, notices⟩ := rfl

instance : LawfulMonad Report :=
  LawfulMonad.mk' Report
    (fun report => by
      obtain ⟨outcome, notices⟩ := report
      cases outcome <;> simp [Functor.map, Report.bind, Report.pure])
    (fun value next => by simp)
    (fun report next last => by
      obtain ⟨outcome, notices⟩ := report
      cases outcome with
      | error => rfl
      | ok value =>
          rw [ok_bind, ok_bind]
          generalize next value = following
          obtain ⟨outcome, more⟩ := following
          cases outcome <;> simp)

def fail (error : Error) : Report α := ⟨.error error, []⟩

def ofExcept (outcome : Except Error α) : Report α := ⟨outcome, []⟩

def note (notice : Notice) : Report Unit := ⟨.ok (), [notice]⟩

end Report

/-- What there is to tell about a document that was read. -/
def Document.versionNotices (document : Document) : List Notice :=
  if document.isSupported then [] else [.unsupportedVersion document.version]

end DocFilter
