import DocFilter.Template

/-!
# The grammar of templates

Which texts are templates is said here without a scanner: they are put together from
pieces, each a character other than a dollar sign, two dollar signs, or a dollar sign with
a name that stands in braces or goes on as long as it can. The scanner finds these pieces,
and there are no others; where it finds a dollar sign that dangles, no piece fits.
-/

namespace DocFilter.Template

/-! ## Names -/

/-- Letters of ASCII and the underscore, which names start with. -/
def IsLetter (char : Char) : Prop :=
  char = '_' ∨ ('A' ≤ char ∧ char ≤ 'Z') ∨ ('a' ≤ char ∧ char ≤ 'z')

/-- What names go on with: the same and digits. -/
def IsNameChar (char : Char) : Prop :=
  IsLetter char ∨ ('0' ≤ char ∧ char ≤ '9')

instance (char : Char) : Decidable (IsLetter char) :=
  inferInstanceAs (Decidable (_ ∨ _))

instance (char : Char) : Decidable (IsNameChar char) :=
  inferInstanceAs (Decidable (_ ∨ _))

/-- A letter and then letters and digits. -/
inductive IsName : List Char → Prop where
  | intro {first : Char} {rest : List Char} (letter : IsLetter first)
      (others : ∀ char ∈ rest, IsNameChar char) : IsName (first :: rest)

/-- No name goes on into a text. -/
def EndsName (text : List Char) : Prop := ∀ next ∈ text.head?, ¬ IsNameChar next

theorem EndsName.nil : EndsName [] := nofun

@[simp] theorem endsName_cons {next : Char} {rest : List Char} :
    EndsName (next :: rest) ↔ ¬ IsNameChar next := by
  simp [EndsName]

/-- A name that does not go on into a text does not go on into a beginning of it. -/
theorem EndsName.of_append {text more : List Char} (ends : EndsName (text ++ more)) :
    EndsName text := by
  cases text with
  | nil => exact .nil
  | cons next rest => exact endsName_cons.mpr (endsName_cons.mp ends)

theorem within_iff {low high char : Char} :
    (decide (low ≤ char) && decide (char ≤ high)) = true ↔ low ≤ char ∧ char ≤ high := by
  rw [Bool.and_eq_true, decide_eq_true_iff, decide_eq_true_iff]

theorem startsName_iff {char : Char} : startsName char = true ↔ IsLetter char := by
  have upper : char.isUpper = true ↔ 'A' ≤ char ∧ char ≤ 'Z' := decide_eq_true_iff
  have lower : char.isLower = true ↔ 'a' ≤ char ∧ char ≤ 'z' := within_iff
  have alpha : char.isAlpha = (char.isUpper || char.isLower) := rfl
  rw [startsName, IsLetter, Bool.or_eq_true, beq_iff_eq, alpha, Bool.or_eq_true, upper, lower]

theorem continuesName_iff {char : Char} : continuesName char = true ↔ IsNameChar char := by
  have digit : char.isDigit = true ↔ '0' ≤ char ∧ char ≤ '9' := within_iff
  rw [continuesName, IsNameChar, Bool.or_eq_true, startsName_iff, digit]

/-- A name is taken as a whole from in front of a text that it does not go on into. -/
theorem takeName_append {letters rest : List Char} (name : IsName letters)
    (ends : EndsName rest) : takeName (letters ++ rest) = some (letters, rest) := by
  cases name with
  | @intro first others letter inside =>
      have inside : ∀ char ∈ others, continuesName char = true := fun char member =>
        continuesName_iff.mpr (inside char member)
      have stops : rest.takeWhile continuesName = [] ∧ rest.dropWhile continuesName = rest := by
        cases rest with
        | nil => exact ⟨rfl, rfl⟩
        | cons next rest =>
            have stop : ¬ continuesName next = true :=
              mt continuesName_iff.mp (endsName_cons.mp ends)
            simp [stop]
      rw [List.cons_append, takeName, if_pos (startsName_iff.mpr letter),
        List.takeWhile_append_of_pos inside, List.dropWhile_append_of_pos inside, stops.1,
        stops.2, List.append_nil]

/-- What is taken is a name, and it does not go on into what follows it. -/
theorem isName_of_takeName {text letters rest : List Char}
    (taken : takeName text = some (letters, rest)) : IsName letters ∧ EndsName rest := by
  cases text with
  | nil => cases taken
  | cons first others =>
      rw [takeName] at taken
      split at taken
      case isFalse => cases taken
      case isTrue starts =>
        cases taken
        refine ⟨.intro (startsName_iff.mp starts) ?_, ?_⟩
        · intro char member
          exact continuesName_iff.mp (List.all_eq_true.mp List.all_takeWhile char member)
        · intro next head goesOn
          have stopped := List.head?_dropWhile_not continuesName others
          rw [head] at stopped
          simp [continuesName_iff.mpr goesOn] at stopped

/-- What starts with a name starts with a letter. -/
theorem IsName.append_ne_cons {letters rest following : List Char} {char : Char}
    (name : IsName letters) (other : ¬ IsLetter char) : letters ++ rest ≠ char :: following := by
  cases name with
  | intro letter _ =>
      rintro ⟨⟩
      exact other letter

/-! ## Pieces -/

/-- A piece of the grammar stands in front of what follows it. Bare names go on as long as
they can. -/
def Piece.Fits : Piece → List Char → Prop
  | .literal char, _ => char ≠ '$'
  | .dollar, _ => True
  | .bare letters, following => IsName letters ∧ EndsName following
  | .braced letters, _ => IsName letters
  | .dangling, _ => False

/-- A text is put together from pieces of the grammar. -/
inductive Composed : List Char → List Piece → Prop where
  | nil : Composed [] []
  | cons {piece : Piece} {rest : List Char} {pieces : List Piece} (fits : piece.Fits rest)
      (others : Composed rest pieces) : Composed (piece.source ++ rest) (piece :: pieces)

/-- No piece of the grammar stands at the start of a text. -/
def Dangles (text : List Char) : Prop :=
  ∀ (piece : Piece) (following : List Char), text = piece.source ++ following →
    ¬ piece.Fits following

/-- A text is put together from pieces of the grammar and from dollar signs where no piece
stands. -/
inductive Scanned : List Char → List Piece → Prop where
  | nil : Scanned [] []
  | piece {piece : Piece} {rest : List Char} {pieces : List Piece} (fits : piece.Fits rest)
      (others : Scanned rest pieces) : Scanned (piece.source ++ rest) (piece :: pieces)
  | dangling {rest : List Char} {pieces : List Piece} (dangles : Dangles ('$' :: rest))
      (others : Scanned rest pieces) : Scanned ('$' :: rest) (.dangling :: pieces)

/-- The scanner takes a piece that fits. -/
theorem piecesOf_of_fits {piece : Piece} {rest : List Char} (fits : piece.Fits rest) :
    piecesOf (piece.source ++ rest) = piece :: piecesOf rest := by
  cases piece with
  | literal char =>
      have plain : char ≠ '$' := fits
      rw [Piece.source, List.singleton_append, piecesOf]
      · exact fun _ dollar => absurd dollar plain
      · exact fun _ dollar => absurd dollar plain
      · exact plain
  | dollar => rw [Piece.source, List.cons_append, List.singleton_append, piecesOf]
  | bare letters =>
      obtain ⟨name, ends⟩ := fits
      have taken := takeName_append name ends
      rw [Piece.source, List.cons_append, piecesOf]
      · split
        next others following found =>
          obtain ⟨rfl, rfl⟩ : letters = others ∧ rest = following := by simpa [taken] using found
          rfl
        next untaken => cases taken.symm.trans untaken
      · exact fun _ => name.append_ne_cons (by decide)
      · exact fun _ => name.append_ne_cons (by decide)
  | braced letters =>
      -- The brace ends the name, whatever follows it.
      have ends : EndsName ('\x7d' :: rest) := endsName_cons.mpr (by decide)
      have taken := takeName_append fits ends
      rw [Piece.source, List.cons_append, List.cons_append, List.append_assoc,
        List.singleton_append, piecesOf]
      split
      next others following found =>
        obtain ⟨rfl, rfl⟩ : letters = others ∧ rest = following := by simpa [taken] using found
        rfl
      next untaken => exact absurd taken (untaken letters rest)
  | dangling => cases fits

/-- No piece stands at a dollar sign behind which there are neither another one nor a name,
be it bare or in braces. -/
theorem dangles_of_takeName {rest : List Char} (notDollar : ∀ following, rest ≠ '$' :: following)
    (notBare : takeName rest = none)
    (notBraced : ∀ inner letters following, rest = '\x7b' :: inner →
      takeName inner ≠ some (letters, '\x7d' :: following)) : Dangles ('$' :: rest) := by
  intro piece following whole fits
  cases piece with
  | literal char =>
      obtain ⟨rfl, -⟩ := List.cons.inj whole
      exact fits rfl
  | dollar => exact notDollar following (List.cons.inj whole).2
  | bare letters =>
      have rest_eq : rest = letters ++ following := (List.cons.inj whole).2
      rw [rest_eq, takeName_append fits.1 fits.2] at notBare
      cases notBare
  | braced letters =>
      have rest_eq : rest = '\x7b' :: (letters ++ '\x7d' :: following) := by
        simpa [Piece.source] using whole
      exact notBraced _ letters following rest_eq
        (takeName_append fits (endsName_cons.mpr (by decide)))
  | dangling => exact fits

/-- The scanner finds pieces that fit, and dollar signs only where none does. -/
theorem scanned_piecesOf (text : List Char) : Scanned text (piecesOf text) := by
  fun_induction piecesOf text with
  | case1 => exact .nil
  | case2 rest ih => exact @Scanned.piece .dollar _ _ trivial ih
  | case3 rest letters following taken ih =>
      have fits : (Piece.braced letters).Fits following := (isName_of_takeName taken).1
      have scanned := Scanned.piece fits ih
      simpa [Piece.source, ← append_of_takeName taken] using scanned
  | case4 rest untaken ih =>
      refine .dangling (dangles_of_takeName (by simp) ?_ ?_) ih
      · rfl
      · rintro inner letters following ⟨⟩
        exact untaken letters following
  | case5 rest notDollar notBrace letters following taken ih =>
      have fits : (Piece.bare letters).Fits following := isName_of_takeName taken
      have scanned := Scanned.piece fits ih
      simpa [Piece.source, ← append_of_takeName taken] using scanned
  | case6 rest notDollar notBrace untaken ih =>
      refine .dangling (dangles_of_takeName notDollar untaken ?_) ih
      exact fun inner _ _ brace => (notBrace inner brace).elim
  | case7 char rest _ _ plain ih => exact @Scanned.piece (.literal char) _ _ plain ih

/-- There is no other way to put a text together than the one the scanner finds. -/
theorem Composed.piecesOf_eq {text : List Char} {pieces : List Piece}
    (composed : Composed text pieces) : piecesOf text = pieces := by
  induction composed with
  | nil => exact piecesOf.eq_1
  | cons fits others ih => rw [piecesOf_of_fits fits, ih]

/-- No piece of the grammar is a dollar sign that dangles. -/
theorem Composed.dangling_not_mem {text : List Char} {pieces : List Piece}
    (composed : Composed text pieces) : .dangling ∉ pieces := by
  induction composed with
  | nil => exact List.not_mem_nil
  | cons fits others ih =>
      rintro (_ | ⟨_, member⟩)
      · exact fits
      · exact ih member

/-- A text in which no dollar sign dangles is put together from pieces of the grammar. -/
theorem Scanned.composed {text : List Char} {pieces : List Piece}
    (scanned : Scanned text pieces) (whole : .dangling ∉ pieces) : Composed text pieces := by
  induction scanned with
  | nil => exact .nil
  | piece fits others ih => exact .cons fits (ih fun member => whole (.tail _ member))
  | dangling dangles others ih => exact absurd List.mem_cons_self whole

/-- The texts that are put together from pieces of the grammar are those in which the scanner
finds no dollar sign that dangles. -/
theorem composed_iff {text : List Char} {pieces : List Piece} :
    Composed text pieces ↔ piecesOf text = pieces ∧ .dangling ∉ pieces := by
  constructor
  · exact fun composed => ⟨composed.piecesOf_eq, composed.dangling_not_mem⟩
  · rintro ⟨rfl, whole⟩
    exact (scanned_piecesOf text).composed whole

end DocFilter.Template
