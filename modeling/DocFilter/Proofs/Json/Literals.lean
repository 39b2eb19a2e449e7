import DocFilter.Json.Printer
import DocFilter.Json.Token

/-!
# String literals read back

A printed string literal is one token, whatever follows it, and the token
spells the printed text. Each character is escaped on its own, so the literal is
read piece by piece.
-/

namespace DocFilter.Json

/-- The tokens of a text that is over after these characters, from one state of
the lexer on. -/
def lexChars (state : Lexing) (text : List Char) : List Token :=
  lex .complete state (text.map .char)

/-- One character more: its tokens, and those of the rest unless it is faulty. -/
theorem lexChars_cons (state : Lexing) (value : Char) (rest : List Char) :
    lexChars state (value :: rest) =
      (state.step (.char value)).tokens ++
        ((state.step (.char value)).next.map fun next => lexChars next rest).getD [] := by
  unfold lexChars
  rw [List.map_cons, lex]
  obtain ⟨tokens, next⟩ := state.step (.char value)
  cases next with
  | none => simp
  | some next => simp

/-- A character that finishes no token. -/
theorem lexChars_of_on {state : Lexing} {value : Char} (next : Lexing)
    (step : state.step (.char value) = .on next) (rest : List Char) :
    lexChars state (value :: rest) = lexChars next rest := by
  rw [lexChars_cons, step]
  rfl

/-- A character that finishes a token. -/
theorem lexChars_of_done {state : Lexing} {value : Char} (token : Token)
    (step : state.step (.char value) = .done token) (rest : List Char) :
    lexChars state (value :: rest) = token :: lexChars .idle rest := by
  rw [lexChars_cons, step]
  rfl

/-- A blank between tokens leaves no trace. -/
theorem lexChars_blank {value : Char} (blank : isBlank value = true) (rest : List Char) :
    lexChars .idle (value :: rest) = lexChars .idle rest := by
  apply lexChars_of_on
  simp [Lexing.step, startSymbol, start, blank]

/-- A line break leaves no trace, whatever the layout. -/
@[simp] theorem lexChars_lineBreak (layout : Layout) (level : Nat) (rest : List Char) :
    lexChars .idle (layout.lineBreak level ++ rest) = lexChars .idle rest := by
  cases layout with
  | compact => rfl
  | indented =>
      have spaces (count : Nat) :
          lexChars .idle (List.replicate count ' ' ++ rest) = lexChars .idle rest := by
        induction count with
        | zero => rfl
        | succ count ih =>
            rw [List.replicate_succ, List.cons_append, lexChars_blank (by decide), ih]
      rw [Layout.lineBreak, List.cons_append, lexChars_blank (by decide), spaces]

/-- The separator of name and value is a colon, whatever the layout. -/
@[simp] theorem lexChars_colon (layout : Layout) (rest : List Char) :
    lexChars .idle (layout.colon ++ rest) = .colon :: lexChars .idle rest := by
  cases layout with
  | compact => rfl
  | indented => rfl

/-- Hexadecimal digits are read back, and each is a single byte. -/
theorem hexDigit?_hexDigit :
    ∀ value < 16, hexDigit? (hexDigit value) = some value ∧ (hexDigit value).utf8Size = 1 := by
  decide

/-- A unit escape is read as its four digits. -/
theorem lexChars_unit (high low : Nat) (highSmall : high < 16) (lowSmall : low < 16)
    (pieces : List Piece) (rest : List Char) :
    lexChars (.quoted pieces)
        ('\\' :: 'u' :: '0' :: '0' :: hexDigit high :: hexDigit low :: rest) =
      lexChars (.quoted (.unit (high * 16 + low) :: pieces)) rest := by
  obtain ⟨readHigh, highWidth⟩ := hexDigit?_hexDigit high highSmall
  obtain ⟨readLow, lowWidth⟩ := hexDigit?_hexDigit low lowSmall
  calc lexChars (.quoted pieces)
        ('\\' :: 'u' :: '0' :: '0' :: hexDigit high :: hexDigit low :: rest)
      = lexChars (.unit pieces 2 0 true) (hexDigit high :: hexDigit low :: rest) := rfl
    _ = lexChars (.unit pieces 1 high true) (hexDigit low :: rest) := by
        apply lexChars_of_on
        simp [Lexing.step, stepUnit, Text.Symbol.width, readHigh, highWidth]
    _ = lexChars (.quoted (.unit (high * 16 + low) :: pieces)) rest := by
        apply lexChars_of_on
        simp [Lexing.step, stepUnit, Text.Symbol.width, readLow, lowWidth]

/-- A piece of a literal spells one character. -/
def Piece.Spells (piece : Piece) (value : Char) : Prop :=
  ∀ following, Quoted.spell .closed true (piece :: following) =
    (Quoted.spell .closed true following).map (value :: ·)

/-- A character that stands for itself spells itself. -/
theorem Piece.Spells.char (value : Char) : (Piece.char value).Spells value := by
  intro following
  rw [Quoted.spell]
  cases Quoted.spell .closed true following with
  | error fault => rfl
  | ok text => rfl

/-- The unit of a character outside the surrogates spells that character. -/
theorem Piece.Spells.unit {value : Char} (low : value.toNat < 0x20) :
    (Piece.unit value.toNat).Spells value := by
  intro following
  have notSecond : isLowSurrogate value.toNat = false := by
    simp [isLowSurrogate]
    omega
  have notFirst : isHighSurrogate value.toNat = false := by
    simp [isHighSurrogate]
    omega
  rw [Quoted.spell.eq_def]
  simp only [notSecond, notFirst, Bool.false_eq_true, if_false, Char.ofNat_toNat]
  cases Quoted.spell .closed true following with
  | error fault => rfl
  | ok text => rfl

/-- An escaped character is read as one piece that spells it. -/
theorem exists_piece (value : Char) :
    ∃ piece : Piece, piece.Spells value ∧ ∀ pieces rest,
      lexChars (.quoted pieces) (escape value ++ rest) =
        lexChars (.quoted (piece :: pieces)) rest := by
  unfold escape
  split
  next same => exact ⟨.char '"', same ▸ Piece.Spells.char _, fun _ _ => rfl⟩
  split
  next same => exact ⟨.char '\\', same ▸ Piece.Spells.char _, fun _ _ => rfl⟩
  split
  next same => exact ⟨.char '\x08', same ▸ Piece.Spells.char _, fun _ _ => rfl⟩
  split
  next same => exact ⟨.char '\t', same ▸ Piece.Spells.char _, fun _ _ => rfl⟩
  split
  next same => exact ⟨.char '\n', same ▸ Piece.Spells.char _, fun _ _ => rfl⟩
  split
  next same => exact ⟨.char '\x0c', same ▸ Piece.Spells.char _, fun _ _ => rfl⟩
  split
  next same => exact ⟨.char '\r', same ▸ Piece.Spells.char _, fun _ _ => rfl⟩
  split
  next low =>
    refine ⟨.unit value.toNat, .unit low, fun pieces rest => ?_⟩
    have whole : value.toNat / 16 * 16 + value.toNat % 16 = value.toNat := by omega
    have read := lexChars_unit (value.toNat / 16) (value.toNat % 16) (by omega) (by omega)
      pieces rest
    rw [whole] at read
    exact read
  next notMark notSlash _ _ _ _ _ high =>
    refine ⟨.char value, .char _, fun pieces rest => ?_⟩
    apply lexChars_of_on
    simp [Lexing.step, stepQuoted, notMark, notSlash, high]

/-- An escaped text is read as pieces that spell it. -/
theorem exists_pieces (text : List Char) :
    ∃ spelt : List Piece, Quoted.spell .closed true spelt = .ok text ∧ ∀ pieces rest,
      lexChars (.quoted pieces) (text.flatMap escape ++ rest) =
        lexChars (.quoted (spelt.reverse ++ pieces)) rest := by
  induction text with
  | nil => exact ⟨[], rfl, fun _ _ => rfl⟩
  | cons value text ih =>
      obtain ⟨piece, spells, readPiece⟩ := exists_piece value
      obtain ⟨spelt, spellsText, readText⟩ := ih
      refine ⟨piece :: spelt, ?_, fun pieces rest => ?_⟩
      · rw [spells, spellsText]
        rfl
      · rw [List.flatMap_cons, List.append_assoc, readPiece, readText, List.reverse_cons,
          List.append_assoc, List.singleton_append]

/-- A printed string is one literal, which spells it. -/
theorem exists_literal (text : String) :
    ∃ literal : Quoted, literal.read = .ok text ∧ ∀ rest,
      lexChars .idle (writeString text rest) =
        .scalar (.quoted literal) :: lexChars .idle rest := by
  obtain ⟨spelt, spellsText, readText⟩ := exists_pieces text.toList
  refine ⟨⟨spelt, .closed⟩, ?_, fun rest => ?_⟩
  · rw [Quoted.read, spellsText, Except.map, String.ofList_toList]
  · have opened : lexChars .idle (writeString text rest) =
        lexChars (.quoted []) (text.toList.flatMap escape ++ '"' :: rest) := rfl
    rw [opened, readText, lexChars_of_done (finishQuoted _ .closed) rfl, finishQuoted,
      List.append_nil, List.reverse_reverse]

end DocFilter.Json
