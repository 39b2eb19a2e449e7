import DocFilter.Proofs.Template.Substitution

/-!
# The first problem of a template

A template that is not valid for the names of some fields has a first piece that is not
allowed. The check and the substitution both stop there: at a placeholder they name the
same field, and at a dollar sign that dangles the one says where it stands and the other
where it ends, in bytes. What stands in front of it is a template of its own that can be
replaced.
-/

namespace DocFilter.Template

variable {known : List String} {fields : List (String × String)}

/-- The bytes of a text are those of its characters. -/
theorem byteCount_toList (text : String) : byteCount text.toList = text.utf8ByteSize := by
  obtain ⟨letters, rfl⟩ : ∃ letters, text = String.ofList letters := ⟨_, String.ofList_toList.symm⟩
  rw [String.toList_ofList]
  induction letters with
  | nil => rfl
  | cons char rest ih =>
      rw [byteCount, ih, String.ofList_cons, String.utf8ByteSize_append,
        String.utf8ByteSize_singleton]

/-- A placeholder of the given name stands at the start of a text. -/
def Refers (name : String) (text : List Char) : Prop :=
  ∃ (piece : Piece) (following : List Char),
    piece.name? = some name ∧ piece.Fits following ∧ text = piece.source ++ following

/-- A piece that fits in front of a text fits in front of a beginning of it. -/
theorem Piece.Fits.of_append {piece : Piece} {text more : List Char}
    (fits : piece.Fits (text ++ more)) : piece.Fits text := by
  cases piece with
  | bare letters => exact ⟨fits.1, fits.2.of_append⟩
  | literal char | dollar | braced letters | dangling => exact fits

/-- The beginning of a text that some of its pieces make up is put together from these alone,
and the scan goes on behind it. -/
theorem Scanned.split {text : List Char} {before rest : List Piece}
    (scanned : Scanned text (before ++ rest)) (whole : .dangling ∉ before) :
    ∃ following, text = before.flatMap Piece.source ++ following ∧
      Composed (before.flatMap Piece.source) before ∧ Scanned following rest := by
  induction before generalizing text with
  | nil => exact ⟨text, rfl, .nil, scanned⟩
  | cons piece before ih =>
      cases scanned with
      | piece fits others =>
          obtain ⟨following, rfl, composed, later⟩ := ih others fun member => whole (.tail _ member)
          refine ⟨following, ?_, .cons fits.of_append composed, later⟩
          rw [List.flatMap_cons, List.append_assoc]
      | dangling dangles others => exact absurd List.mem_cons_self whole

/-- Where a scan finds a piece that is not allowed, there is a dollar sign: either that of a
placeholder whose name is not known, or one at which no piece stands. -/
theorem Scanned.refused {text : List Char} {piece : Piece} {rest : List Piece}
    (scanned : Scanned text (piece :: rest)) (refused : ¬ piece.Allowed known) :
    (∃ following, text = '$' :: following) ∧
      ((∃ name, Refers name text ∧ name ∉ known ∧
          ∀ noticed, piece.problem noticed = .unknown name) ∨
        (Dangles text ∧ ∀ noticed, piece.problem noticed = .dangling noticed)) := by
  cases scanned with
  | @piece _ following _ fits others =>
      cases piece with
      | literal char => exact absurd (Piece.allowed_literal char) refused
      | dollar => exact absurd Piece.allowed_dollar refused
      | bare letters | braced letters =>
          refine ⟨⟨_, rfl⟩, .inl ⟨String.ofList letters, ⟨_, following, rfl, fits, rfl⟩, ?_, ?_⟩⟩
          · exact mt (Piece.allowed_named rfl).mpr refused
          · exact fun _ => rfl
      | dangling => cases fits
  | dangling dangles others => exact ⟨⟨_, rfl⟩, .inr ⟨dangles, fun _ => rfl⟩⟩

/-- The check for the names of some fields and the substitution of these fields agree. If
they fail, they do so for the first problem, in front of which the text can be replaced: at
a placeholder both name the same unknown field, and at a dollar sign that dangles the
substitution says how many bytes stand in front of it and the check one more. -/
theorem substitute_agrees_validate (template : Template) (fields : List (String × String)) :
    ((∃ text, template.substitute fields = .ok text) ↔
      template.validate (fields.map Prod.fst) = .ok ()) ∧
    (template.validate (fields.map Prod.fst) ≠ .ok () →
      ∃ before after : String, template.source = before ++ "$" ++ after ∧
        (∃ text, (Template.mk before).substitute fields = .ok text) ∧
        ((∃ name, Refers name ("$" ++ after).toList ∧ name ∉ fields.map Prod.fst ∧
            template.substitute fields = .error (.unknown name) ∧
            template.validate (fields.map Prod.fst) = .error (.unknown name)) ∨
          (Dangles ("$" ++ after).toList ∧
            template.substitute fields = .error (.dangling before.utf8ByteSize) ∧
            template.validate (fields.map Prod.fst) =
              .error (.dangling (before.utf8ByteSize + 1))))) := by
  refine ⟨exists_substitute_iff.trans validate_eq_ok_iff.symm, ?_⟩
  intro invalid
  rcases allowed_or_first_refused (fields.map Prod.fst) template.pieces with
    allowed | ⟨before, piece, after, whole, allowed, refused⟩
  · exact absurd (validate_eq_ok_iff.mpr allowed) invalid
  have scanned := scanned_piecesOf template.source.toList
  rw [show piecesOf template.source.toList = _ from whole] at scanned
  obtain ⟨_, source_eq, composed, later⟩ := scanned.split (forall_allowed_iff.mp allowed).1
  obtain ⟨⟨following, rfl⟩, problem⟩ := later.refused refused
  have replaced := substitute_of_refused whole allowed refused
  have checked := validate_of_refused whole allowed refused
  obtain ⟨head, head_eq⟩ : ∃ head : String, head.toList = before.flatMap Piece.source :=
    ⟨String.ofList _, String.toList_ofList⟩
  rw [← head_eq, byteCount_toList] at replaced checked
  rw [← head_eq] at source_eq composed
  have start : ("$" ++ String.ofList following).toList = '$' :: following := by simp
  refine ⟨head, String.ofList following, ?_, ?_, ?_⟩
  · rw [String.append_assoc, ← String.toList_inj, source_eq, String.toList_append, start]
  · refine exists_substitute_iff.mpr ?_
    rw [show (Template.mk head).pieces = before from composed.piecesOf_eq]
    exact allowed
  · rw [start]
    rcases problem with ⟨name, refers, unlisted, unknown⟩ | ⟨dangles, dangling⟩
    · rw [unknown] at replaced checked
      exact .inl ⟨name, refers, unlisted, replaced, checked⟩
    · rw [dangling] at replaced checked
      exact .inr ⟨dangles, replaced, checked⟩

/-- Behind a character of three bytes and two dollar signs, one in front of a digit dangles:
it is noticed at the sixth byte and at the seventh, and the unknown name after it is not. -/
theorem substitute_agrees_validate_price :
    (Template.mk "€$$ $5 $b").validate ["a"] = .error (.dangling 7) ∧
      (Template.mk "€$$ $5 $b").substitute [("a", "1")] = .error (.dangling 6) ∧
      ∃ before after : String, "€$$ $5 $b" = before ++ "$" ++ after ∧ before.utf8ByteSize = 6 ∧
        ∃ text, (Template.mk before).substitute [("a", "1")] = .ok text := by
  have noticed : (Template.mk "€$$ $5 $b").validate ["a"] = .error (.dangling 7) := by
    decide +kernel
  obtain ⟨-, failing⟩ := substitute_agrees_validate ⟨"€$$ $5 $b"⟩ [("a", "1")]
  obtain ⟨before, after, whole, filled, problem⟩ := failing fun valid =>
    nomatch noticed.symm.trans valid
  rcases problem with ⟨name, -, -, -, checked⟩ | ⟨-, replaced, checked⟩
  · cases noticed.symm.trans checked
  · have size : before.utf8ByteSize = 6 := by
      have same := noticed.symm.trans checked
      injection same with same
      injection same with same
      omega
    exact ⟨noticed, by rw [replaced, size], before, after, whole, size, filled⟩

end DocFilter.Template
