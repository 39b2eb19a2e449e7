import DocFilter.Json.Printer

/-!
# Layouts of JSON text

Both layouts have the same tokens, and the indented one has blanks between them. Where a
string literal begins and ends is told from a text alone: a quotation mark ends a literal
unless a backslash stands before it that is not itself escaped. Read in this way, the compact
text has no blanks outside of literals, and the indented text without them is the compact one.
-/

namespace DocFilter.Json

/-! ## Where literals stand in a text -/

/-- Where a character of a text stands. -/
inductive Place where
  /-- Outside of string literals. Their opening quotation marks stand there. -/
  | outside
  /-- In a string literal. Its closing quotation mark stands there. -/
  | inside
  /-- In a string literal, behind a backslash that escapes it. -/
  | escaped
  deriving DecidableEq

/-- The place behind a character. -/
def Place.after : Place → Char → Place
  | .outside, char => if char = '"' then .inside else .outside
  | .inside, char => if char = '"' then .outside else if char = '\\' then .escaped else .inside
  | .escaped, _ => .inside

/-- The characters of a text, each with its place. -/
def placed : Place → List Char → List (Place × Char)
  | _, [] => []
  | place, char :: rest => (place, char) :: placed (place.after char) rest

/-- The character is a space or a line end that stands outside of string literals. -/
def isLoose (entry : Place × Char) : Bool :=
  entry.1 == .outside && (entry.2 == ' ' || entry.2 == '\n')

/-- A text without the spaces and line ends that stand outside of string literals. -/
def withoutBlanks (text : List Char) : List Char :=
  ((placed .outside text).filter (!isLoose ·)).map (·.2)

theorem placed_append (place : Place) (text rest : List Char) :
    placed place (text ++ rest) =
      placed place text ++ placed (text.foldl Place.after place) rest := by
  induction text generalizing place with
  | nil => rfl
  | cons char text ih =>
      rw [List.cons_append, placed, placed, ih]
      rfl

theorem map_placed (place : Place) (text : List Char) : (placed place text).map (·.2) = text := by
  induction text generalizing place with
  | nil => rfl
  | cons char text ih => rw [placed, List.map_cons, ih]

/-! ## The characters of tokens -/

/-- The character is a printing one of ASCII: no control character and no blank of any kind. -/
def Visible (char : Char) : Prop := 0x20 < char.toNat ∧ char.toNat < 0x7f

instance : DecidablePred Visible :=
  fun char => inferInstanceAs (Decidable (0x20 < char.toNat ∧ char.toNat < 0x7f))

/-- Nothing but printing characters, and no quotation mark. -/
def Bare (text : List Char) : Prop := ∀ char ∈ text, Visible char ∧ char ≠ '"'

instance : DecidablePred Bare :=
  fun text => List.decidableBAll (fun char => Visible char ∧ char ≠ '"') text

/-- A character is written as a backslash and a letter, as a code of four digits, or as itself. -/
theorem escape_cases (value : Char) :
    (∃ letter, escape value = ['\\', letter] ∧ 0x20 ≤ letter.toNat) ∨
      (∃ high < 16, ∃ low < 16,
        escape value = ['\\', 'u', '0', '0', hexDigit high, hexDigit low]) ∨
      escape value = [value] ∧ value ≠ '"' ∧ value ≠ '\\' ∧ 0x20 ≤ value.toNat := by
  rw [escape]
  split
  · exact .inl ⟨'"', rfl, by decide⟩
  split
  · exact .inl ⟨'\\', rfl, by decide⟩
  split
  · exact .inl ⟨'b', rfl, by decide⟩
  split
  · exact .inl ⟨'t', rfl, by decide⟩
  split
  · exact .inl ⟨'n', rfl, by decide⟩
  split
  · exact .inl ⟨'f', rfl, by decide⟩
  split
  · exact .inl ⟨'r', rfl, by decide⟩
  split
  next control =>
    exact .inr (.inl ⟨value.toNat / 16, by omega, value.toNat % 16, by omega, rfl⟩)
  next noMark noSlash _ _ _ _ _ high =>
    exact .inr (.inr ⟨rfl, noMark, noSlash, Nat.le_of_not_lt high⟩)

theorem hexDigit_plain : ∀ value < 16,
    hexDigit value ≠ '"' ∧ hexDigit value ≠ '\\' ∧ 0x20 ≤ (hexDigit value).toNat := by
  decide

/-- A text that can stand in a literal: it has no control characters, all of it stands inside,
and the literal goes on behind it. -/
structure Interior (text : List Char) : Prop where
  plain : ∀ char ∈ text, 0x20 ≤ char.toNat
  within : ∀ entry ∈ placed .inside text, entry.1 ≠ .outside
  continues : text.foldl Place.after .inside = .inside

namespace Interior

protected theorem nil : Interior [] where
  plain := List.forall_mem_nil _
  within := List.forall_mem_nil _
  continues := rfl

theorem append {first second : List Char} (left : Interior first) (right : Interior second) :
    Interior (first ++ second) where
  plain := List.forall_mem_append.mpr ⟨left.plain, right.plain⟩
  within := by
    rw [placed_append, left.continues]
    exact List.forall_mem_append.mpr ⟨left.within, right.within⟩
  continues := by rw [List.foldl_append, left.continues, right.continues]

theorem escape (value : Char) : Interior (escape value) := by
  rcases escape_cases value with
    ⟨letter, written, high⟩ | ⟨high, highSmall, low, lowSmall, written⟩ |
      ⟨written, noMark, noSlash, high⟩
  · rw [written]
    constructor <;> simp [placed, Place.after, high]
  · obtain ⟨highMark, highSlash, highVisible⟩ := hexDigit_plain high highSmall
    obtain ⟨lowMark, lowSlash, lowVisible⟩ := hexDigit_plain low lowSmall
    rw [written]
    constructor <;> simp [placed, Place.after, *]
  · rw [written]
    constructor <;> simp [placed, Place.after, noMark, noSlash, high]

theorem escapes (text : List Char) : Interior (text.flatMap Json.escape) := by
  induction text with
  | nil => exact .nil
  | cons char text ih =>
      rw [List.flatMap_cons]
      exact (Interior.escape char).append ih

end Interior

/-- The characters of a literal behind its first quotation mark stand inside, and what follows
the literal stands outside again. -/
theorem exists_placed_literal (text : String) :
    ∃ literal : List (Place × Char), (∀ entry ∈ literal, entry.1 ≠ .outside) ∧ ∀ rest,
      placed .outside (writeString text rest) =
          (.outside, '"') :: (literal ++ placed .outside rest) ∧
        writeString text rest = '"' :: (literal.map (·.2) ++ rest) := by
  have interior := Interior.escapes text.toList
  refine ⟨placed .inside (text.toList.flatMap escape) ++ [(.inside, '"')], ?_,
    fun rest => ⟨?_, ?_⟩⟩
  · intro entry member
    rcases List.mem_append.mp member with inner | closing
    · exact interior.within entry inner
    · rw [List.mem_singleton.mp closing]
      decide
  · rw [writeString, placed]
    show _ :: placed .inside _ = _
    rw [placed_append, interior.continues, placed, List.append_assoc]
    rfl
  · rw [List.map_append, map_placed, writeString, List.append_assoc]
    rfl

/-! ## Texts of the same tokens -/

/-- The two texts have the same tokens, and only in the first one blanks stand between them. -/
inductive Loosened : List Char → List Char → Prop where
  | nil : Loosened [] []
  | blank {char : Char} {wide tight : List Char} (blank : char = ' ' ∨ char = '\n')
      (rest : Loosened wide tight) : Loosened (char :: wide) tight
  | mark {char : Char} {wide tight : List Char} (visible : Visible char) (noQuote : char ≠ '"')
      (rest : Loosened wide tight) : Loosened (char :: wide) (char :: tight)
  | literal {wide tight : List Char} (text : String) (rest : Loosened wide tight) :
      Loosened (writeString text wide) (writeString text tight)

namespace Loosened

variable {wide tight : List Char}

/-- Without its blanks the first text is the second one. -/
theorem withoutBlanks_eq (loosened : Loosened wide tight) : withoutBlanks wide = tight := by
  induction loosened with
  | nil => rfl
  | @blank char wide tight blank rest ih =>
      rcases blank with rfl | rfl
      · exact ih
      · exact ih
  | @mark char wide tight visible noQuote rest ih =>
      have noSpace : char ≠ ' ' := fun same => absurd visible.1 (by rw [same]; decide)
      have noEnd : char ≠ '\n' := fun same => absurd visible.1 (by rw [same]; decide)
      rw [withoutBlanks, placed, Place.after, if_neg noQuote,
        List.filter_cons_of_pos (by simp [isLoose, noSpace, noEnd]), List.map_cons]
      exact congrArg (char :: ·) ih
  | @literal wide tight text rest ih =>
      obtain ⟨literal, within, split⟩ := exists_placed_literal text
      have kept : literal.filter (!isLoose ·) = literal := by
        rw [List.filter_eq_self]
        intro entry member
        simp [isLoose, within entry member]
      rw [withoutBlanks, (split wide).1, (split tight).2, List.filter_cons_of_pos (by decide),
        List.filter_append, kept, List.map_cons, List.map_append]
      exact congrArg (fun others => '"' :: (literal.map (·.2) ++ others)) ih

/-- Outside of literals the second text has nothing but printing characters. -/
theorem visible_of_outside (loosened : Loosened wide tight) {char : Char}
    (member : (Place.outside, char) ∈ placed .outside tight) : Visible char := by
  induction loosened with
  | nil => cases member
  | blank _ _ ih => exact ih member
  | mark visible noQuote rest ih =>
      rw [placed, Place.after, if_neg noQuote] at member
      rcases List.mem_cons.mp member with same | later
      · cases same
        exact visible
      · exact ih later
  | literal text rest ih =>
      obtain ⟨literal, within, split⟩ := exists_placed_literal text
      rw [(split _).1, List.mem_cons, List.mem_append] at member
      rcases member with same | inner | later
      · cases same
        decide
      · exact absurd rfl (within _ inner)
      · exact ih later

/-- Nowhere in the second text a control character stands. -/
theorem le_of_mem (loosened : Loosened wide tight) {char : Char} (member : char ∈ tight) :
    0x20 ≤ char.toNat := by
  induction loosened with
  | nil => cases member
  | blank _ _ ih => exact ih member
  | mark visible noQuote rest ih =>
      rcases List.mem_cons.mp member with same | later
      · rw [same]
        exact Nat.le_of_lt visible.1
      · exact ih later
  | literal text rest ih =>
      rw [writeString, List.mem_cons, List.mem_append, List.mem_cons] at member
      rcases member with opening | inner | closing | later
      · rw [opening]
        decide
      · exact (Interior.escapes text.toList).plain char inner
      · rw [closing]
        decide
      · exact ih later

/-- Characters that are neither blanks nor quotation marks stand in both texts. -/
theorem marks (text : List Char) (bare : Bare text) (rest : Loosened wide tight) :
    Loosened (text ++ wide) (text ++ tight) := by
  induction text with
  | nil => exact rest
  | cons char text ih =>
      obtain ⟨⟨visible, noQuote⟩, others⟩ := List.forall_mem_cons.mp bare
      exact .mark visible noQuote (ih others)

/-- A line break is nothing but blanks, whatever the layout. -/
theorem lineBreak (layout : Layout) (level : Nat) (rest : Loosened wide tight) :
    Loosened (layout.lineBreak level ++ wide) tight := by
  cases layout with
  | compact => exact rest
  | indented =>
      have spaces (count : Nat) : Loosened (List.replicate count ' ' ++ wide) tight := by
        induction count with
        | zero => exact rest
        | succ count ih => exact .blank (.inl rfl) ih
      exact .blank (.inr rfl) (spaces (2 * level))

/-- A colon may have a space behind it. -/
theorem colon (layout : Layout) (rest : Loosened wide tight) :
    Loosened (layout.colon ++ wide) (':' :: tight) := by
  cases layout with
  | compact => exact .mark (by decide) (by decide) rest
  | indented => exact .mark (by decide) (by decide) (.blank (.inl rfl) rest)

end Loosened

/-! ## Printed values -/

theorem plain_of_isDigit {char : Char} (digit : char.isDigit) : Visible char ∧ char ≠ '"' := by
  simp only [Char.isDigit, ge_iff_le, UInt32.le_iff_toNat_le, Bool.and_eq_true,
    decide_eq_true_eq] at digit
  have low : 48 ≤ char.toNat := digit.1
  have high : char.toNat ≤ 57 := digit.2
  refine ⟨⟨by omega, by omega⟩, fun mark => ?_⟩
  rw [mark] at low
  exact absurd low (by decide)

theorem plain_of_mem_repr {number : Nat} {char : Char} (member : char ∈ number.repr.toList) :
    Visible char ∧ char ≠ '"' := by
  rw [Nat.toList_repr] at member
  exact plain_of_isDigit (Nat.isDigit_of_mem_toDigits (by decide) (by decide) member)

/-- The text of a number is one of printing characters. -/
theorem numberText_bare (number : Decimal.Number) : Bare (numberText number) := by
  intro char member
  cases number with
  | whole value =>
      rw [numberText, Int.toString_eq_repr, Int.repr_eq_if] at member
      split at member
      · exact plain_of_mem_repr member
      · rcases List.mem_append.mp (String.toList_append ▸ member) with minus | digits
        · rw [List.mem_singleton.mp minus]
          decide
        · exact plain_of_mem_repr digits
  | real value =>
      rw [numberText] at member
      cases written : Decimal.shortestText? value with
      | none =>
          rw [written, Option.getD_none] at member
          exact (by decide : Bare ['n', 'u', 'l', 'l']) char member
      | some text =>
          rw [written, Option.getD_some] at member
          rcases Decimal.mem_shortestText written member with digit | listed
          · exact plain_of_isDigit digit
          · exact (by decide : Bare ['.', 'e', '-', '+']) char listed

mutual

/-- A value in any layout has the tokens of the same value in the compact layout. -/
theorem write_loosened (layout : Layout) : ∀ (value : Json) (level other : Nat)
    {wide tight : List Char}, Loosened wide tight →
      Loosened (write layout level value wide) (write .compact other value tight)
  | .null, _, _, _, _, rest => by
      rw [write, write]
      exact rest.marks _ (by decide)
  | .bool true, _, _, _, _, rest => by
      rw [write, write]
      exact rest.marks _ (by decide)
  | .bool false, _, _, _, _, rest => by
      rw [write, write]
      exact rest.marks _ (by decide)
  | .number value, _, _, _, _, rest => by
      rw [write, write]
      exact rest.marks _ (numberText_bare value)
  | .string text, _, _, _, _, rest => by
      rw [write, write]
      exact .literal text rest
  | .list [], _, _, _, _, rest => by
      rw [write, write]
      exact rest.marks ['[', ']'] (by decide)
  | .list (item :: items), level, other, _, _, rest => by
      rw [write, write]
      have closing := (rest.marks [']'] (by decide)).lineBreak layout level
      have others := writeItems_loosened layout items level other closing
      have first := write_loosened layout item (level + 1) (other + 1) others
      exact .mark (by decide) (by decide) (first.lineBreak layout (level + 1))
  | .object [], _, _, _, _, rest => by
      rw [write, write]
      exact rest.marks ['\x7b', '\x7d'] (by decide)
  | .object ((name, value) :: members), level, other, _, _, rest => by
      rw [write, write]
      have closing := (rest.marks ['\x7d'] (by decide)).lineBreak layout level
      have others := writeMembers_loosened layout members level other closing
      have first := write_loosened layout value (level + 1) (other + 1) others
      exact .mark (by decide) (by decide)
        ((Loosened.literal name (first.colon layout)).lineBreak layout (level + 1))

theorem writeItems_loosened (layout : Layout) : ∀ (items : List Json) (level other : Nat)
    {wide tight : List Char}, Loosened wide tight →
      Loosened (writeItems layout level items wide) (writeItems .compact other items tight)
  | [], _, _, _, _, rest => by
      rw [writeItems, writeItems]
      exact rest
  | item :: items, level, other, _, _, rest => by
      rw [writeItems, writeItems]
      have others := writeItems_loosened layout items level other rest
      have first := write_loosened layout item (level + 1) (other + 1) others
      exact .mark (by decide) (by decide) (first.lineBreak layout (level + 1))

theorem writeMembers_loosened (layout : Layout) :
    ∀ (members : List (String × Json)) (level other : Nat) {wide tight : List Char},
      Loosened wide tight →
        Loosened (writeMembers layout level members wide)
          (writeMembers .compact other members tight)
  | [], _, _, _, _, rest => by
      rw [writeMembers, writeMembers]
      exact rest
  | (name, value) :: members, level, other, _, _, rest => by
      rw [writeMembers, writeMembers]
      have others := writeMembers_loosened layout members level other rest
      have first := write_loosened layout value (level + 1) (other + 1) others
      exact .mark (by decide) (by decide)
        ((Loosened.literal name (first.colon layout)).lineBreak layout (level + 1))

end

theorem toText_loosened (layout : Layout) (value : Json) :
    Loosened (value.toText layout).toList (value.toText .compact).toList := by
  rw [toText, toText, String.toList_ofList, String.toList_ofList]
  exact write_loosened layout value 0 0 .nil

end DocFilter.Json
