import DocFilter.Proofs.Success
import DocFilter.Proofs.Template.Grammar

/-!
# What templates become

The check of a template and the substitution of fields into it look at one piece after the
other. Each piece is allowed or not, and has a text or not, whatever stands around it: a
template is valid if all its pieces are allowed, and becomes the texts of its pieces if all
of them have one. Both come to the same for the names that the fields have.
-/

namespace DocFilter.Template

variable {known : List String} {fields : List (String × String)}

/-! ## A single piece -/

/-- There is a field of a name exactly if it is found. -/
theorem exists_lookup_iff {name : String} :
    (∃ text, fields.lookup name = some text) ↔ name ∈ fields.map Prod.fst := by
  rw [← Option.isSome_iff_exists, List.lookup_isSome_iff, List.mem_map]
  simp only [beq_iff_eq]
  exact exists_congr fun _ => and_congr_right' eq_comm

namespace Piece

/-- The text that takes the place of a piece. A placeholder has that of the first field of
its name, if there is any. -/
def text? (fields : List (String × String)) : Piece → Option String
  | .literal char => some (String.singleton char)
  | .dollar => some "$"
  | .bare letters | .braced letters => fields.lookup (String.ofList letters)
  | .dangling => none

/-- A piece neither dangles nor has a name that is not known. -/
def Allowed (known : List String) (piece : Piece) : Prop :=
  piece ≠ .dangling ∧ ∀ name ∈ piece.name?, name ∈ known

instance (piece : Piece) : Decidable (piece.Allowed known) :=
  inferInstanceAs (Decidable (_ ∧ _))

/-- What is wrong with a piece that is not allowed. That it dangles is noticed at the given
place. -/
def problem (noticed : Nat) : Piece → Problem
  | .bare letters | .braced letters => .unknown (String.ofList letters)
  | _ => .dangling noticed

@[simp] theorem allowed_literal (char : Char) : (Piece.literal char).Allowed known := ⟨nofun, nofun⟩

@[simp] theorem allowed_dollar : Piece.dollar.Allowed known := ⟨nofun, nofun⟩

@[simp] theorem not_allowed_dangling : ¬ Piece.dangling.Allowed known :=
  fun allowed => allowed.1 rfl

/-- A placeholder is allowed if its name is known. -/
theorem allowed_named {piece : Piece} {name : String} (named : piece.name? = some name) :
    piece.Allowed known ↔ name ∈ known := by
  have other : piece ≠ .dangling := by
    rintro rfl
    cases named
  simp [Allowed, named, other]

/-- More pieces are allowed if more names are known. -/
theorem Allowed.mono {piece : Piece} {names : List String} (more : ∀ name ∈ names, name ∈ known)
    (allowed : piece.Allowed names) : piece.Allowed known :=
  ⟨allowed.1, fun name named => more name (allowed.2 name named)⟩

/-- The pieces that have a text are those allowed for the names of the fields. -/
theorem exists_text_iff {piece : Piece} :
    (∃ text, piece.text? fields = some text) ↔ piece.Allowed (fields.map Prod.fst) := by
  cases piece with
  | literal char => simp [text?]
  | dollar => simp [text?]
  | bare letters | braced letters => rw [allowed_named rfl, ← exists_lookup_iff, text?]
  | dangling => simp [text?]

end Piece

/-! ## One step -/

/-- The check goes on behind a piece that is allowed. -/
theorem validateFrom_cons_of_allowed {piece : Piece} (allowed : piece.Allowed known)
    (offset : Nat) (rest : List Piece) :
    validateFrom known offset (piece :: rest) =
      validateFrom known (offset + piece.width) rest := by
  cases piece with
  | literal char => rfl
  | dollar => rfl
  | bare letters | braced letters =>
      rw [Piece.allowed_named rfl, ← List.contains_iff_mem] at allowed
      exact if_pos allowed
  | dangling => exact absurd allowed Piece.not_allowed_dangling

/-- The check fails at a piece that is not allowed. If it dangles, the place named is the one
behind the dollar sign. -/
theorem validateFrom_cons_of_not_allowed {piece : Piece} (refused : ¬ piece.Allowed known)
    (offset : Nat) (rest : List Piece) :
    validateFrom known offset (piece :: rest) = .error (piece.problem (offset + 1)) := by
  cases piece with
  | literal char => exact absurd (Piece.allowed_literal char) refused
  | dollar => exact absurd Piece.allowed_dollar refused
  | bare letters | braced letters =>
      rw [Piece.allowed_named rfl, ← List.contains_iff_mem] at refused
      exact if_neg refused
  | dangling => rfl

/-- The text of a piece is followed by those of the pieces behind it. -/
theorem substituteFrom_cons {piece : Piece} {text : String}
    (given : piece.text? fields = some text) (offset : Nat) (rest : List Piece) :
    substituteFrom fields offset (piece :: rest) =
      (substituteFrom fields (offset + piece.width) rest).map (text.toList ++ ·) := by
  have followed (first : List Char) (later : Except Problem (List Char)) :
      (later >>= fun following => .ok (first ++ following)) = later.map (first ++ ·) := by
    cases later <;> rfl
  cases piece with
  | literal char =>
      cases given
      rw [substituteFrom, String.toList_singleton, ← followed]
      rfl
  | dollar =>
      cases given
      rw [substituteFrom, ← followed]
      rfl
  | bare letters | braced letters =>
      have looked : fields.lookup (String.ofList letters) = some text := given
      rw [substituteFrom]
      simp only [looked]
      exact followed _ _
  | dangling => cases given

/-- The substitution fails at a piece that is not allowed for the names of the fields. If it
dangles, the place named is that of the dollar sign. -/
theorem substituteFrom_cons_of_not_allowed {piece : Piece}
    (refused : ¬ piece.Allowed (fields.map Prod.fst)) (offset : Nat) (rest : List Piece) :
    substituteFrom fields offset (piece :: rest) = .error (piece.problem offset) := by
  have missing : piece.text? fields = none := by
    rw [← Piece.exists_text_iff, ← Option.isSome_iff_exists] at refused
    simpa using refused
  cases piece with
  | literal char => cases missing
  | dollar => cases missing
  | bare letters | braced letters =>
      have looked : fields.lookup (String.ofList letters) = none := missing
      rw [substituteFrom]
      simp only [looked]
      rfl
  | dangling => rfl

/-! ## A whole run -/

/-- The texts of pieces, if each has one. -/
def Becomes (fields : List (String × String)) (pieces : List Piece) (texts : List String) : Prop :=
  List.Forall₂ (fun piece text => piece.text? fields = some text) pieces texts

/-- Pieces all have texts if they are allowed for the names of the fields. -/
theorem exists_becomes {pieces : List Piece}
    (allowed : ∀ piece ∈ pieces, piece.Allowed (fields.map Prod.fst)) :
    ∃ texts, Becomes fields pieces texts := by
  induction pieces with
  | nil => exact ⟨[], .nil⟩
  | cons piece rest ih =>
      obtain ⟨first, others⟩ := List.forall_mem_cons.mp allowed
      obtain ⟨text, given⟩ := Piece.exists_text_iff.mpr first
      obtain ⟨texts, later⟩ := ih others
      exact ⟨text :: texts, .cons given later⟩

theorem Becomes.allowed {pieces : List Piece} {texts : List String}
    (becomes : Becomes fields pieces texts) :
    ∀ piece ∈ pieces, piece.Allowed (fields.map Prod.fst) := by
  induction becomes with
  | nil => exact List.forall_mem_nil _
  | cons given _ ih =>
      exact List.forall_mem_cons.mpr ⟨Piece.exists_text_iff.mp ⟨_, given⟩, ih⟩

/-- Either all pieces are allowed, or there is a first one that is not. -/
theorem allowed_or_first_refused (known : List String) (pieces : List Piece) :
    (∀ piece ∈ pieces, piece.Allowed known) ∨
      ∃ before piece after, pieces = before ++ piece :: after ∧
        (∀ earlier ∈ before, earlier.Allowed known) ∧ ¬ piece.Allowed known := by
  cases found : pieces.find? fun piece => ¬ piece.Allowed known with
  | none =>
      left
      simpa using found
  | some piece =>
      right
      obtain ⟨refused, before, after, whole, earlier⟩ := List.find?_eq_some_iff_append.mp found
      exact ⟨before, piece, after, whole, by simpa using earlier, by simpa using refused⟩

theorem byteCount_append (text more : List Char) :
    byteCount (text ++ more) = byteCount text + byteCount more := by
  induction text with
  | nil => exact (Nat.zero_add _).symm
  | cons char rest ih => rw [List.cons_append, byteCount, byteCount, ih, Nat.add_assoc]

/-- The check goes on behind pieces that are allowed. -/
theorem validateFrom_append {before : List Piece} (allowed : ∀ piece ∈ before, piece.Allowed known)
    (offset : Nat) (rest : List Piece) :
    validateFrom known offset (before ++ rest) =
      validateFrom known (offset + byteCount (before.flatMap Piece.source)) rest := by
  induction before generalizing offset with
  | nil => rfl
  | cons piece before ih =>
      obtain ⟨first, others⟩ := List.forall_mem_cons.mp allowed
      rw [List.cons_append, validateFrom_cons_of_allowed first, ih others, List.flatMap_cons,
        byteCount_append, Nat.add_assoc]
      rfl

/-- What becomes of pieces that have texts stands in front of what becomes of the others. -/
theorem Becomes.substituteFrom_append {before : List Piece} {texts : List String}
    (becomes : Becomes fields before texts) (offset : Nat) (rest : List Piece) :
    substituteFrom fields offset (before ++ rest) =
      (substituteFrom fields (offset + byteCount (before.flatMap Piece.source)) rest).map
        ((String.join texts).toList ++ ·) := by
  induction becomes generalizing offset with
  | nil =>
      simp only [List.nil_append, List.flatMap_nil, byteCount, Nat.add_zero, String.join_nil]
      cases substituteFrom fields offset rest <;> rfl
  | @cons piece text before texts given _ ih =>
      rw [List.cons_append, substituteFrom_cons given, ih, List.flatMap_cons, byteCount_append,
        ← Nat.add_assoc]
      show _ = (substituteFrom fields (offset + piece.width + _) rest).map _
      cases substituteFrom fields (offset + piece.width + _) rest with
      | error problem => rfl
      | ok following => simp [Except.map]

/-! ## Templates -/

variable {template : Template}

section

variable {before after : List Piece} {piece : Piece}

/-- The check fails at the first piece that is not allowed, and notices a dollar sign that
dangles behind it. -/
theorem validate_of_refused (whole : template.pieces = before ++ piece :: after)
    (allowed : ∀ earlier ∈ before, earlier.Allowed known) (refused : ¬ piece.Allowed known) :
    template.validate known =
      .error (piece.problem (byteCount (before.flatMap Piece.source) + 1)) := by
  rw [validate, whole, validateFrom_append allowed, validateFrom_cons_of_not_allowed refused,
    Nat.zero_add]

/-- The substitution fails at the first piece that is not allowed for the names of the
fields, and notices a dollar sign that dangles in front of it. -/
theorem substitute_of_refused (whole : template.pieces = before ++ piece :: after)
    (allowed : ∀ earlier ∈ before, earlier.Allowed (fields.map Prod.fst))
    (refused : ¬ piece.Allowed (fields.map Prod.fst)) :
    template.substitute fields =
      .error (piece.problem (byteCount (before.flatMap Piece.source))) := by
  obtain ⟨texts, becomes⟩ := exists_becomes allowed
  rw [substitute, whole, becomes.substituteFrom_append, substituteFrom_cons_of_not_allowed refused,
    Nat.zero_add]
  rfl

end

theorem Becomes.substitute_eq {texts : List String}
    (becomes : Becomes fields template.pieces texts) :
    template.substitute fields = .ok (String.join texts) := by
  have replaced := becomes.substituteFrom_append 0 []
  rw [List.append_nil, substituteFrom] at replaced
  rw [substitute, replaced]
  show Except.ok (String.ofList ((String.join texts).toList ++ [])) = _
  rw [List.append_nil, String.ofList_toList]

/-- A template becomes the texts of its pieces. -/
theorem substitute_eq_ok_iff {text : String} :
    template.substitute fields = .ok text ↔
      ∃ texts, Becomes fields template.pieces texts ∧ text = String.join texts := by
  constructor
  · intro done
    rcases allowed_or_first_refused (fields.map Prod.fst) template.pieces with
      allowed | ⟨before, piece, after, whole, allowed, refused⟩
    · obtain ⟨texts, becomes⟩ := exists_becomes allowed
      exact ⟨texts, becomes, Except.ok.inj (done.symm.trans becomes.substitute_eq)⟩
    · cases done.symm.trans (substitute_of_refused whole allowed refused)
  · rintro ⟨texts, becomes, rfl⟩
    exact becomes.substitute_eq

/-- A template can be replaced if its pieces are allowed for the names of the fields. -/
theorem exists_substitute_iff :
    (∃ text, template.substitute fields = .ok text) ↔
      ∀ piece ∈ template.pieces, piece.Allowed (fields.map Prod.fst) := by
  constructor
  · rintro ⟨text, done⟩
    obtain ⟨texts, becomes, -⟩ := substitute_eq_ok_iff.mp done
    exact becomes.allowed
  · intro allowed
    obtain ⟨texts, becomes⟩ := exists_becomes allowed
    exact ⟨_, becomes.substitute_eq⟩

/-- A template is valid if its pieces are allowed. -/
theorem validate_eq_ok_iff :
    template.validate known = .ok () ↔ ∀ piece ∈ template.pieces, piece.Allowed known := by
  constructor
  · intro valid
    rcases allowed_or_first_refused known template.pieces with
      allowed | ⟨before, piece, after, whole, allowed, refused⟩
    · exact allowed
    · cases valid.symm.trans (validate_of_refused whole allowed refused)
  · intro allowed
    have passed := validateFrom_append allowed 0 []
    rwa [List.append_nil] at passed

/-- All pieces are allowed if none dangles and all names are known. -/
theorem forall_allowed_iff {pieces : List Piece} :
    (∀ piece ∈ pieces, piece.Allowed known) ↔
      .dangling ∉ pieces ∧ ∀ name ∈ pieces.filterMap Piece.name?, name ∈ known := by
  constructor
  · intro allowed
    refine ⟨fun member => Piece.not_allowed_dangling (allowed _ member), ?_⟩
    intro name named
    obtain ⟨piece, member, has⟩ := List.mem_filterMap.mp named
    exact (allowed piece member).2 name has
  · rintro ⟨whole, listed⟩ piece member
    refine ⟨fun dangles => whole (dangles ▸ member), ?_⟩
    exact fun name has => listed name (List.mem_filterMap.mpr ⟨piece, member, has⟩)

/-! ## Templates and their grammar -/

/-- A template is valid exactly if its text is put together from pieces of the grammar whose
names are known. There is then one way to do so, the names are the placeholders in order,
and if each of them has a field, the template becomes the texts of the pieces, one behind
the other. -/
theorem validate_iff_composed (template : Template) (known : List String) :
    (template.validate known = .ok () ↔
      ∃ pieces, Composed template.source.toList pieces ∧
        ∀ name ∈ pieces.filterMap Piece.name?, name ∈ known) ∧
    ∀ pieces, Composed template.source.toList pieces →
      (∀ others, Composed template.source.toList others → others = pieces) ∧
      template.placeholders = pieces.filterMap Piece.name? ∧
      ∀ fields : List (String × String),
        (∀ name ∈ pieces.filterMap Piece.name?, name ∈ fields.map Prod.fst) →
          ∃ texts, Becomes fields pieces texts ∧
            template.substitute fields = .ok (String.join texts) := by
  refine ⟨?_, ?_⟩
  · rw [validate_eq_ok_iff, forall_allowed_iff]
    constructor
    · rintro ⟨whole, listed⟩
      exact ⟨template.pieces, composed_iff.mpr ⟨rfl, whole⟩, listed⟩
    · rintro ⟨pieces, composed, listed⟩
      obtain ⟨rfl, whole⟩ := composed_iff.mp composed
      exact ⟨whole, listed⟩
  · intro pieces composed
    obtain ⟨rfl, whole⟩ := composed_iff.mp composed
    refine ⟨fun others again => again.piecesOf_eq.symm, rfl, ?_⟩
    intro fields given
    obtain ⟨texts, becomes⟩ := exists_becomes (forall_allowed_iff.mpr ⟨whole, given⟩)
    exact ⟨texts, becomes, becomes.substitute_eq⟩

/-- Placeholders next to a dollar sign and to a letter, with fields of one name twice and a
text with a dollar sign. -/
theorem validate_iff_composed_adjacent :
    (Template.mk "$a$$$\x7bb\x7dc").validate ["b", "a"] = .ok () ∧
      (Template.mk "$a$$$\x7bb\x7dc").placeholders = ["a", "b"] ∧
      (Template.mk "$a$$$\x7bb\x7dc").substitute [("a", "$b"), ("b", "1"), ("a", "2")] =
        .ok "$b$1c" := by
  obtain ⟨valid, unique⟩ := validate_iff_composed ⟨"$a$$$\x7bb\x7dc"⟩ ["b", "a"]
  have composed : Composed "$a$$$\x7bb\x7dc".toList
      [.bare ['a'], .dollar, .braced ['b'], .literal 'c'] :=
    composed_iff.mpr ⟨by decide +kernel, by decide⟩
  obtain ⟨-, listed, filled⟩ := unique _ composed
  obtain ⟨texts, becomes, done⟩ := filled [("a", "$b"), ("b", "1"), ("a", "2")] (by decide)
  obtain _ | ⟨⟨⟩, _ | ⟨⟨⟩, _ | ⟨⟨⟩, _ | ⟨⟨⟩, ⟨⟩⟩⟩⟩⟩ := becomes
  refine ⟨valid.mpr ⟨_, composed, by decide⟩, ?_, ?_⟩
  · rw [listed]
    decide
  · rw [done]
    decide

end DocFilter.Template
