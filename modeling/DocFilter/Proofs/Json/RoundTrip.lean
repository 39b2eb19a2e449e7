import DocFilter.Proofs.Json.Numerals
import DocFilter.Proofs.Json.ReadAs
import DocFilter.Proofs.Json.Value

/-!
# Printed values read back

In either layout, the text of a value has an outline: the tokens of the text are those of the
outline, and an outline is scanned from its own tokens. The outline is read as the value if its
numbers are legible, and denotes what is written for the value in any case.
-/

namespace DocFilter.Json

/-! ## The tokens of an outline -/

mutual

/-- The tokens of an outline without malformed places. -/
def Outline.tokens : Outline → List Token
  | .absent _ => []
  | .scalar value => [.scalar value]
  | .list [] _ => [.openList, .closeList]
  | .list (item :: items) _ =>
      .openList :: (item.tokens ++ (Outline.itemTokens items ++ [.closeList]))
  | .object [] _ => [.openObject, .closeObject]
  | .object ((key, value) :: members) _ =>
      .openObject :: .scalar (.quoted key) :: .colon ::
        (value.tokens ++ (Outline.memberTokens members ++ [.closeObject]))

/-- The tokens of the items after the first of a list. -/
def Outline.itemTokens : List Outline → List Token
  | [] => []
  | item :: items => .comma :: (item.tokens ++ Outline.itemTokens items)

def Outline.memberTokens : List (Quoted × Outline) → List Token
  | [] => []
  | (key, value) :: members =>
      .comma :: .scalar (.quoted key) :: .colon ::
        (value.tokens ++ Outline.memberTokens members)

end

/-- Goes on with the tokens after one that was taken in. -/
def resume (ending : Text.Ending) : Progress → List Token → Scan
  | .next stage waiting, rest => scan ending stage waiting rest
  | .whole root, rest => ⟨root, rest⟩
  | .torn root, _ => ⟨root, []⟩

/-- One token after the other. -/
theorem scan_cons (ending : Text.Ending) (stage : Stage) (waiting : List Waiting)
    (token : Token) (rest : List Token) :
    scan ending stage waiting (token :: rest) =
      resume ending (advance ending stage waiting token) rest := by
  rw [scan]
  cases advance ending stage waiting token with
  | next stage waiting => rfl
  | whole root => rfl
  | torn root => rfl

/-- A scalar is a whole value. -/
theorem advance_scalar (ending : Text.Ending) (waiting : List Waiting) (value : Scalar) :
    advance ending .value waiting (.scalar value) = supply (.scalar value) waiting := by
  rw [advance]

/-- An opening bracket waits for the first item. -/
theorem advance_openList (ending : Text.Ending) (waiting : List Waiting) :
    advance ending .value waiting .openList = .next .value (.list [] :: waiting) := by
  rw [advance]

/-- An opening brace waits for the first name. -/
theorem advance_openObject (ending : Text.Ending) (waiting : List Waiting) :
    advance ending .value waiting .openObject = .next (.key []) waiting := by
  rw [advance]

/-- A name is taken in before its value. -/
theorem scan_name (ending : Text.Ending) (members : List (Quoted × Outline))
    (outer : List Waiting) (key : Quoted) (rest : List Token) :
    scan ending (.key members) outer (.scalar (.quoted key) :: .colon :: rest) =
      scan ending .value (.member members key :: outer) rest := by
  have named : advance ending (.key members) outer (.scalar (.quoted key)) =
      .next (.colon members key) outer := by
    rw [advance]
  rw [scan_cons, named, resume, scan_cons]
  rfl

mutual

/-- An outline is that of the text of a value: it has the members of objects in order, and for
a number whatever the text of the number is. -/
inductive Printed : Outline → Json → Prop where
  | null : Printed (.scalar .null) .null
  | bool (value : Bool) : Printed (.scalar (.bool value)) (.bool value)
  | number {scalar : Scalar} {number : Decimal.Number} (prints : Prints number scalar) :
      Printed (.scalar scalar) (.number number)
  | string {literal : Quoted} {text : String} (spelt : literal.read = .ok text) :
      Printed (.scalar (.quoted literal)) (.string text)
  | list {items : List Outline} {values : List Json} (each : List.Forall₂ Printed items values) :
      Printed (.list items .closed) (.list values)
  | object {members : List (Quoted × Outline)} {values : List (String × Json)}
      (each : MembersPrinted members values) : Printed (.object members .closed) (.object values)

inductive MembersPrinted : List (Quoted × Outline) → List (String × Json) → Prop where
  | nil : MembersPrinted [] []
  | cons {key : Quoted} {name : String} {outline : Outline} {value : Json}
      {members : List (Quoted × Outline)} {values : List (String × Json)}
      (spelt : key.read = .ok name) (printed : Printed outline value)
      (rest : MembersPrinted members values) :
      MembersPrinted ((key, outline) :: members) ((name, value) :: values)

end

mutual

/-- An outline is scanned from its tokens. -/
theorem scan_tokens (ending : Text.Ending) : ∀ (outline : Outline) (value : Json),
    Printed outline value → ∀ (waiting : List Waiting) (rest : List Token),
      scan ending .value waiting (outline.tokens ++ rest) =
        resume ending (supply outline waiting) rest
  | .absent _, _, printed, _, _ => by cases printed
  | .scalar scalar, _, _, waiting, rest => by
      rw [Outline.tokens, List.singleton_append, scan_cons, advance_scalar]
  | .list [] close, _, printed, waiting, rest => by
      cases printed with
      | list each =>
          rw [Outline.tokens, List.cons_append, scan_cons, advance_openList, resume,
            List.singleton_append, scan_cons]
          rfl
  | .list (item :: items) close, _, printed, waiting, rest => by
      cases printed with
      | list each =>
          cases each with
          | cons first others =>
              rw [Outline.tokens, List.cons_append, scan_cons, advance_openList, resume,
                List.append_assoc, scan_tokens ending item _ first, supply, resume,
                List.append_assoc, List.singleton_append,
                scan_itemTokens ending items _ others]
              rfl
  | .object [] close, _, printed, waiting, rest => by
      cases printed with
      | object each =>
          rw [Outline.tokens, List.cons_append, scan_cons, advance_openObject, resume,
            List.singleton_append, scan_cons]
          rfl
  | .object ((key, value) :: members) close, _, printed, waiting, rest => by
      cases printed with
      | object each =>
          cases each with
          | cons named first others =>
              rw [Outline.tokens, List.cons_append, scan_cons, advance_openObject, resume,
                List.cons_append, List.cons_append, scan_name, List.append_assoc,
                scan_tokens ending value _ first, supply, resume, List.append_assoc,
                List.singleton_append, scan_memberTokens ending members _ others]
              rfl

theorem scan_itemTokens (ending : Text.Ending) : ∀ (items : List Outline) (values : List Json),
    List.Forall₂ Printed items values →
      ∀ (earlier : List Outline) (outer : List Waiting) (rest : List Token),
        scan ending (.afterItem earlier) outer
            (Outline.itemTokens items ++ .closeList :: rest) =
          resume ending (supply (.list (earlier.reverse ++ items) .closed) outer) rest
  | [], _, _, earlier, outer, rest => by
      rw [Outline.itemTokens, List.nil_append, scan_cons, List.append_nil]
      rfl
  | item :: items, _, each, earlier, outer, rest => by
      cases each with
      | cons first others =>
          rw [Outline.itemTokens, List.cons_append, scan_cons]
          show scan ending .value (.list earlier :: outer) _ = _
          rw [List.append_assoc, scan_tokens ending item _ first, supply, resume,
            scan_itemTokens ending items _ others, List.reverse_cons, List.append_assoc,
            List.singleton_append]

theorem scan_memberTokens (ending : Text.Ending) : ∀ (members : List (Quoted × Outline))
    (values : List (String × Json)), MembersPrinted members values →
      ∀ (earlier : List (Quoted × Outline)) (outer : List Waiting) (rest : List Token),
        scan ending (.afterMember earlier) outer
            (Outline.memberTokens members ++ .closeObject :: rest) =
          resume ending (supply (.object (earlier.reverse ++ members) .closed) outer) rest
  | [], _, _, earlier, outer, rest => by
      rw [Outline.memberTokens, List.nil_append, scan_cons, List.append_nil]
      rfl
  | (key, value) :: members, _, each, earlier, outer, rest => by
      cases each with
      | cons named first others =>
          rw [Outline.memberTokens, List.cons_append, scan_cons]
          show scan ending (.key earlier) outer _ = _
          rw [List.cons_append, List.cons_append, scan_name, List.append_assoc,
            scan_tokens ending value _ first, supply, resume,
            scan_memberTokens ending members _ others, List.reverse_cons, List.append_assoc,
            List.singleton_append]

end

/-! ## The tokens of a printed value -/

/-- A separator in a line of its own is still one. -/
theorem separated_lineBreak (layout : Layout) (level : Nat) {rest : List Char}
    (separated : Separated rest) : Separated (layout.lineBreak level ++ rest) := by
  cases layout with
  | compact => exact separated
  | indented => exact separated_cons (by decide)

/-- Items after the first start with a separator. -/
theorem separated_writeItems (layout : Layout) (level : Nat) (items : List Json)
    {rest : List Char} (separated : Separated rest) :
    Separated (writeItems layout level items rest) := by
  cases items with
  | nil =>
      rw [writeItems]
      exact separated
  | cons item items =>
      rw [writeItems]
      exact separated_cons (by decide)

theorem separated_writeMembers (layout : Layout) (level : Nat)
    (members : List (String × Json)) {rest : List Char} (separated : Separated rest) :
    Separated (writeMembers layout level members rest) := by
  cases members with
  | nil =>
      rw [writeMembers]
      exact separated
  | cons member members =>
      obtain ⟨name, value⟩ := member
      rw [writeMembers]
      exact separated_cons (by decide)

/-- A closing bracket, in a line of its own or not, is read as such. -/
theorem lexChars_closeList (layout : Layout) (level : Nat) (rest : List Char) :
    lexChars .idle (layout.lineBreak level ++ ']' :: rest) = .closeList :: lexChars .idle rest := by
  rw [lexChars_lineBreak, lexChars_of_done .closeList rfl]

theorem lexChars_closeObject (layout : Layout) (level : Nat) (rest : List Char) :
    lexChars .idle (layout.lineBreak level ++ '\x7d' :: rest) =
      .closeObject :: lexChars .idle rest := by
  rw [lexChars_lineBreak, lexChars_of_done .closeObject rfl]

mutual

/-- A printed value has the tokens of an outline. -/
theorem exists_outline (layout : Layout) : ∀ (value : Json) (level : Nat),
    ∃ outline : Outline, Printed outline value ∧ ∀ rest, Separated rest →
      lexChars .idle (write layout level value rest) = outline.tokens ++ lexChars .idle rest
  | .null, _ => ⟨.scalar .null, .null, fun _ _ => by rw [write]; rfl⟩
  | .bool true, _ => ⟨.scalar (.bool true), .bool true, fun _ _ => by rw [write]; rfl⟩
  | .bool false, _ => ⟨.scalar (.bool false), .bool false, fun _ _ => by rw [write]; rfl⟩
  | .number held, _ => by
      obtain ⟨scalar, prints⟩ := exists_prints held
      refine ⟨.scalar scalar, .number prints, fun rest separated => ?_⟩
      rw [write, prints rest separated]
      rfl
  | .string text, _ => by
      obtain ⟨literal, spelt, lexed⟩ := exists_literal text
      refine ⟨.scalar (.quoted literal), .string spelt, fun rest _ => ?_⟩
      rw [write, lexed]
      rfl
  | .list [], _ => ⟨.list [] .closed, .list .nil, fun _ _ => by rw [write]; rfl⟩
  | .list (item :: items), level => by
      obtain ⟨first, printed, lexedFirst⟩ := exists_outline layout item (level + 1)
      obtain ⟨others, each, lexedOthers⟩ := exists_itemOutlines layout items level
      refine ⟨.list (first :: others) .closed, .list (.cons printed each), fun rest _ => ?_⟩
      have closing : Separated (layout.lineBreak level ++ ']' :: rest) :=
        separated_lineBreak layout level (separated_cons (by decide))
      rw [write, lexChars_of_done .openList rfl, lexChars_lineBreak,
        lexedFirst _ (separated_writeItems layout level items closing), lexedOthers _ closing,
        lexChars_closeList]
      simp [Outline.tokens]
  | .object [], _ => ⟨.object [] .closed, .object .nil, fun _ _ => by rw [write]; rfl⟩
  | .object ((name, value) :: members), level => by
      obtain ⟨key, spelt, lexedKey⟩ := exists_literal name
      obtain ⟨first, printed, lexedFirst⟩ := exists_outline layout value (level + 1)
      obtain ⟨others, each, lexedOthers⟩ := exists_memberOutlines layout members level
      refine ⟨.object ((key, first) :: others) .closed, .object (.cons spelt printed each),
        fun rest _ => ?_⟩
      have closing : Separated (layout.lineBreak level ++ '\x7d' :: rest) :=
        separated_lineBreak layout level (separated_cons (by decide))
      rw [write, lexChars_of_done .openObject rfl, lexChars_lineBreak, lexedKey, lexChars_colon,
        lexedFirst _ (separated_writeMembers layout level members closing),
        lexedOthers _ closing, lexChars_closeObject]
      simp [Outline.tokens]

theorem exists_itemOutlines (layout : Layout) : ∀ (items : List Json) (level : Nat),
    ∃ outlines : List Outline, List.Forall₂ Printed outlines items ∧ ∀ rest, Separated rest →
      lexChars .idle (writeItems layout level items rest) =
        Outline.itemTokens outlines ++ lexChars .idle rest
  | [], _ => ⟨[], .nil, fun _ _ => by rw [writeItems]; rfl⟩
  | item :: items, level => by
      obtain ⟨first, printed, lexedFirst⟩ := exists_outline layout item (level + 1)
      obtain ⟨others, each, lexedOthers⟩ := exists_itemOutlines layout items level
      refine ⟨first :: others, .cons printed each, fun rest separated => ?_⟩
      rw [writeItems, lexChars_of_done .comma rfl, lexChars_lineBreak,
        lexedFirst _ (separated_writeItems layout level items separated), lexedOthers _ separated]
      simp [Outline.itemTokens]

theorem exists_memberOutlines (layout : Layout) :
    ∀ (members : List (String × Json)) (level : Nat),
      ∃ outlines : List (Quoted × Outline), MembersPrinted outlines members ∧
        ∀ rest, Separated rest →
          lexChars .idle (writeMembers layout level members rest) =
            Outline.memberTokens outlines ++ lexChars .idle rest
  | [], _ => ⟨[], .nil, fun _ _ => by rw [writeMembers]; rfl⟩
  | (name, value) :: members, level => by
      obtain ⟨key, spelt, lexedKey⟩ := exists_literal name
      obtain ⟨first, printed, lexedFirst⟩ := exists_outline layout value (level + 1)
      obtain ⟨others, each, lexedOthers⟩ := exists_memberOutlines layout members level
      refine ⟨(key, first) :: others, .cons spelt printed each, fun rest separated => ?_⟩
      rw [writeMembers, lexChars_of_done .comma rfl, lexChars_lineBreak, lexedKey, lexChars_colon,
        lexedFirst _ (separated_writeMembers layout level members separated),
        lexedOthers _ separated]
      simp [Outline.memberTokens]

end

/-- The text of a value, in either layout, has an outline, and nothing follows it. -/
theorem scan_toText (layout : Layout) (value : Json) :
    ∃ outline : Outline, Printed outline value ∧
      Scan.ofSource (.ofText (value.toText layout)) = ⟨outline, []⟩ := by
  obtain ⟨outline, printed, lexed⟩ := exists_outline layout value 0
  refine ⟨outline, printed, ?_⟩
  have read : tokens (.ofText (value.toText layout)) = outline.tokens := by
    have whole := lexed [] separated_nil
    rw [tokens, Text.Source.ofText, toText, String.toList_ofList]
    simpa [lexChars, lex, Lexing.finish] using whole
  have scanned := scan_tokens .complete outline value printed [] []
  rw [Scan.ofSource, read]
  show scan .complete .value [] outline.tokens = ⟨outline, []⟩
  simpa [supply, resume] using scanned

/-! ## What a printed value is read as -/

mutual

theorem Printed.readAs : ∀ (outline : Outline) {value : Json}, Printed outline value →
    (∀ number ∈ value.numbers, Legible number) → ReadAs outline value
  | .absent _, _, printed, _ => by cases printed
  | .scalar _, _, printed, legible => by
      cases printed with
      | null => exact .scalar rfl .null
      | bool value => exact .scalar rfl (.bool value)
      | number prints =>
          obtain ⟨scalar, read, prints'⟩ := legible _ List.mem_cons_self
          cases prints.unique prints'
          exact .scalar read (.number _)
      | string spelt =>
          refine .scalar ?_ (.string _)
          rw [Scalar.read, spelt]
          rfl
  | .list items _, _, printed, legible => by
      cases printed with
      | list each => exact .list (Printed.itemsReadAs items each legible)
  | .object members _, _, printed, legible => by
      cases printed with
      | object each => exact .object (Printed.membersReadAs members each legible) (.refl _)

theorem Printed.itemsReadAs : ∀ (items : List Outline) {values : List Json},
    List.Forall₂ Printed items values → (∀ number ∈ listNumbers values, Legible number) →
      List.Forall₂ ReadAs items values
  | [], _, each, _ => by
      cases each
      exact .nil
  | item :: rest, _, each, legible => by
      cases each with
      | cons printed others =>
          obtain ⟨first, following⟩ := List.forall_mem_append.mp legible
          exact .cons (Printed.readAs item printed first)
            (Printed.itemsReadAs rest others following)

theorem Printed.membersReadAs : ∀ (members : List (Quoted × Outline))
    {values : List (String × Json)}, MembersPrinted members values →
      (∀ number ∈ memberNumbers values, Legible number) → MembersReadAs members values
  | [], _, each, _ => by
      cases each
      exact .nil
  | (_, outline) :: rest, _, each, legible => by
      cases each with
      | cons spelt printed others =>
          obtain ⟨first, following⟩ := List.forall_mem_append.mp legible
          exact .cons spelt (Printed.readAs outline printed first)
            (Printed.membersReadAs rest others following)

end

/-- A text is read as a value: it is nothing but the value, with the members of objects in any
order and numerals that are read as its numbers. -/
def WrittenAs (value : Json) (text : String) : Prop :=
  ∃ outline, Scan.ofSource (.ofText text) = ⟨outline, []⟩ ∧ ReadAs outline value

theorem WrittenAs.of_legible {value : Json} (layout : Layout)
    (legible : ∀ number ∈ value.numbers, Legible number) :
    value.WrittenAs (value.toText layout) := by
  obtain ⟨outline, printed, scanned⟩ := scan_toText layout value
  exact ⟨outline, scanned, printed.readAs outline legible⟩

/-! ## What a printed value denotes -/

mutual

theorem Printed.value?_eq : ∀ (outline : Outline) {value : Json}, Printed outline value →
    value.Distinct → outline.value? = some value.value
  | .absent _, _, printed, _ => by cases printed
  | .scalar _, _, printed, _ => by
      cases printed with
      | null => rfl
      | bool value => rfl
      | number prints => exact value?_of_prints prints
      | string spelt =>
          rw [Outline.value?, Scalar.value?, spelt]
          rfl
  | .list items _, _, printed, distinct => by
      cases printed with
      | list each =>
          rw [Outline.value?, Printed.itemValues?_eq items each (distinct_list_iff.mp distinct)]
          rfl
  | .object members _, _, printed, distinct => by
      cases printed with
      | object each =>
          obtain ⟨names, distinct⟩ := distinct_object_iff.mp distinct
          rw [Outline.value?, Printed.memberValues?_eq members each distinct]
          exact if_pos (map_fst_memberValues _ ▸ names)

theorem Printed.itemValues?_eq : ∀ (items : List Outline) {values : List Json},
    List.Forall₂ Printed items values → (∀ value ∈ values, value.Distinct) →
      itemValues? items = some (Json.values values)
  | [], _, each, _ => by
      cases each
      rfl
  | item :: rest, _, each, distinct => by
      cases each with
      | cons printed others =>
          obtain ⟨first, following⟩ := List.forall_mem_cons.mp distinct
          rw [itemValues?, Printed.value?_eq item printed first,
            Printed.itemValues?_eq rest others following]
          rfl

theorem Printed.memberValues?_eq : ∀ (members : List (Quoted × Outline))
    {values : List (String × Json)}, MembersPrinted members values →
      (∀ member ∈ values, member.2.Distinct) →
        memberValues? members = some (memberValues values)
  | [], _, each, _ => by
      cases each
      rfl
  | (_, outline) :: rest, _, each, distinct => by
      cases each with
      | cons spelt printed others =>
          obtain ⟨first, following⟩ := List.forall_mem_cons.mp distinct
          rw [memberValues?, spelt, Printed.value?_eq outline printed first,
            Printed.memberValues?_eq rest others following]
          rfl

end

/-- The text of a value, in either layout, denotes what is written for it. -/
theorem Value.ofText?_toText (layout : Layout) {value : Json} (distinct : value.Distinct) :
    Value.ofText? (value.toText layout) = some value.value := by
  obtain ⟨outline, printed, scanned⟩ := scan_toText layout value
  rw [Value.ofText?, scanned]
  exact printed.value?_eq outline distinct

end DocFilter.Json
