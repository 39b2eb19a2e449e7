import DocFilter.Proofs.Template.Substitution

/-!
# Templates side by side

A text in which every dollar sign is doubled is a template of this text. Two templates side
by side are one that becomes what they become side by side, unless the name of a bare
placeholder at the end of the first goes on into the second; so a quoted text can stand
between them.
-/

namespace DocFilter.Template

variable {fields : List (String × String)}

/-- A text in which every dollar sign is doubled. -/
def quoted (text : String) : String :=
  String.ofList (text.toList.flatMap fun char => if char = '$' then ['$', '$'] else [char])

/-- A template ends in a placeholder without braces. -/
def EndsBare (source : String) : Prop :=
  ∃ (before : List Piece) (letters : List Char),
    Composed source.toList (before ++ [.bare letters])

/-! ## Seams -/

/-- A piece still fits if more follows, unless it is a bare name at the end that goes on. -/
theorem Piece.Fits.append {piece : Piece} {text more : List Char} (fits : piece.Fits text)
    (apart : text = [] → ∀ letters, piece = .bare letters → EndsName more) :
    piece.Fits (text ++ more) := by
  cases piece with
  | bare letters =>
      refine ⟨fits.1, ?_⟩
      cases text with
      | nil => exact apart rfl letters rfl
      | cons next rest => exact endsName_cons.mpr (endsName_cons.mp fits.2)
  | literal char | dollar | braced letters | dangling => exact fits

/-- Nothing is put together from no piece but the empty text. -/
theorem Composed.eq_nil {pieces : List Piece} (composed : Composed [] pieces) : pieces = [] := by
  rw [← composed.piecesOf_eq, piecesOf]

/-- Texts side by side are put together from the pieces of both. -/
theorem Composed.append {text more : List Char} {pieces others : List Piece}
    (first : Composed text pieces) (second : Composed more others)
    (apart : ∀ before letters, pieces = before ++ [.bare letters] → EndsName more) :
    Composed (text ++ more) (pieces ++ others) := by
  induction first with
  | nil => exact second
  | @cons piece rest pieces fits later ih =>
      rw [List.append_assoc]
      -- Only the last piece stands at the seam, and it is the last of `pieces`.
      refine .cons (fits.append ?_) (ih fun before letters last => ?_)
      · rintro rfl letters rfl
        exact apart [] letters (congrArg _ later.eq_nil)
      · exact apart (piece :: before) letters (congrArg _ last)

/-- A template can be replaced if it is put together from pieces that all have texts. -/
theorem substitute_iff_composed {template : Template} {text : String} :
    template.substitute fields = .ok text ↔
      ∃ pieces texts, Composed template.source.toList pieces ∧ Becomes fields pieces texts ∧
        text = String.join texts := by
  rw [substitute_eq_ok_iff]
  constructor
  · rintro ⟨texts, becomes, rfl⟩
    have whole := (forall_allowed_iff.mp becomes.allowed).1
    exact ⟨template.pieces, texts, composed_iff.mpr ⟨rfl, whole⟩, becomes, rfl⟩
  · rintro ⟨pieces, texts, composed, becomes, rfl⟩
    refine ⟨texts, ?_, rfl⟩
    rw [show template.pieces = pieces from composed.piecesOf_eq]
    exact becomes

/-! ## Quoted texts -/

/-- The piece that stands for a character of a quoted text. -/
def quotedPiece (char : Char) : Piece := if char = '$' then .dollar else .literal char

theorem source_quotedPiece (char : Char) :
    (quotedPiece char).source = if char = '$' then ['$', '$'] else [char] := by
  unfold quotedPiece
  split <;> rfl

theorem text?_quotedPiece (char : Char) :
    (quotedPiece char).text? fields = some (String.singleton char) := by
  unfold quotedPiece
  split
  case isTrue dollar => rw [dollar]; rfl
  case isFalse => rfl

theorem composed_quoted (text : String) :
    Composed (quoted text).toList (text.toList.map quotedPiece) := by
  rw [quoted, String.toList_ofList]
  induction text.toList with
  | nil => exact .nil
  | cons char rest ih =>
      rw [List.flatMap_cons, ← source_quotedPiece]
      refine .cons ?_ ih
      unfold quotedPiece
      split
      case isTrue => trivial
      case isFalse plain => exact plain

theorem becomes_quoted (text : List Char) :
    Becomes fields (text.map quotedPiece) (text.map String.singleton) := by
  induction text with
  | nil => exact .nil
  | cons char rest ih => exact .cons (text?_quotedPiece char) ih

/-- No quoted character is a placeholder. -/
theorem quotedPiece_ne_bare (text letters : List Char) (before : List Piece) :
    text.map quotedPiece ≠ before ++ [.bare letters] := by
  intro last
  have member : .bare letters ∈ text.map quotedPiece := by simp [last]
  obtain ⟨char, -, same⟩ := List.mem_map.mp member
  unfold quotedPiece at same
  split at same <;> cases same

theorem join_singletons (text : String) :
    String.join (text.toList.map String.singleton) = text := by
  rw [← String.toList_inj, String.toList_join, List.flatMap_map]
  simp

/-- A quoted text can stand between two templates: together they become what the first
becomes, the text and what the second becomes. Only the name of a bare placeholder at the
end of the first must not go on into what follows it. -/
theorem substitute_append_quoted {first second filled following : String} (text : String)
    (replaced : (Template.mk first).substitute fields = .ok filled)
    (later : (Template.mk second).substitute fields = .ok following)
    (apart : ¬ (EndsBare first ∧
      ∃ next ∈ (quoted text ++ second).toList.head?, IsNameChar next)) :
    (Template.mk (first ++ quoted text ++ second)).substitute fields =
      .ok (filled ++ text ++ following) := by
  obtain ⟨pieces, texts, composed, becomes, rfl⟩ := substitute_iff_composed.mp replaced
  obtain ⟨others, more, composed', becomes', rfl⟩ := substitute_iff_composed.mp later
  have behind :
      Composed (quoted text ++ second).toList (text.toList.map quotedPiece ++ others) := by
    rw [String.toList_append]
    exact (composed_quoted text).append composed' fun before letters last =>
      absurd last (quotedPiece_ne_bare _ _ _)
  have whole : Composed (first ++ quoted text ++ second).toList
      (pieces ++ (text.toList.map quotedPiece ++ others)) := by
    rw [String.append_assoc, String.toList_append]
    refine composed.append behind fun before letters last next head goesOn => ?_
    exact apart ⟨⟨before, letters, last ▸ composed⟩, next, head, goesOn⟩
  refine substitute_iff_composed.mpr ⟨_, texts ++ (text.toList.map String.singleton ++ more),
    whole, ?_, ?_⟩
  · exact List.rel_append becomes (List.rel_append (becomes_quoted _) becomes')
  · rw [String.join_append, String.join_append, join_singletons, String.append_assoc]

/-- A bare placeholder at the end, a text that starts with a dollar sign and a placeholder in
braces behind it. -/
theorem substitute_append_quoted_price :
    EndsBare "€$a" ∧
      (Template.mk "€$a").substitute [("a", "$"), ("b", "tea")] = .ok "€$" ∧
      (Template.mk "$\x7bb\x7ds").substitute [("a", "$"), ("b", "tea")] = .ok "teas" ∧
      (Template.mk ("€$a" ++ quoted "$5 for " ++ "$\x7bb\x7ds")).substitute
        [("a", "$"), ("b", "tea")] = .ok ("€$" ++ "$5 for " ++ "teas") := by
  have bare : EndsBare "€$a" :=
    ⟨[.literal '€'], ['a'], composed_iff.mpr ⟨by decide +kernel, by decide⟩⟩
  have replaced : (Template.mk "€$a").substitute [("a", "$"), ("b", "tea")] = .ok "€$" := by
    decide +kernel
  have later : (Template.mk "$\x7bb\x7ds").substitute [("a", "$"), ("b", "tea")] = .ok "teas" := by
    decide +kernel
  refine ⟨bare, replaced, later, substitute_append_quoted "$5 for " replaced later ?_⟩
  rintro ⟨-, next, head, goesOn⟩
  have start : (quoted "$5 for " ++ "$\x7bb\x7ds").toList.head? = some '$' := by decide
  rw [start] at head
  cases head
  exact absurd goesOn (by decide)

end DocFilter.Template
