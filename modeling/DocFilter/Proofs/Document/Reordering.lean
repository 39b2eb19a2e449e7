import DocFilter.Proofs.Document.RoundTrip
import Mathlib.Data.List.Perm.Basic

/-!
# Members in another order

The members of an object may be written in any order: the tag of a node behind its
content, the parts of a document or of a citation, or the entries of metadata as they
come. Such a text is read as the value of the document all the same, wherever in it
the members of whichever objects have changed places.
-/

namespace DocFilter

namespace Json

mutual

/-- Two values are equal up to the order of the members of objects in them, at any depth. -/
inductive Reordered : Json → Json → Prop where
  | same (value : Json) : Reordered value value
  | list {items others : List Json} (each : List.Forall₂ Reordered items others) :
      Reordered (.list items) (.list others)
  | object {members between others : List (String × Json)}
      (each : List.Forall₂ MemberReordered members between) (order : between.Perm others) :
      Reordered (.object members) (.object others)

/-- Two members have one name, and values that are equal up to the order of members. -/
inductive MemberReordered : String × Json → String × Json → Prop where
  | intro (name : String) {value other : Json} (inside : Reordered value other) :
      MemberReordered (name, value) (name, other)

end

/-! ## Numbers -/

mutual

/-- There are no other numbers in a value whose members have changed places. -/
theorem Reordered.mem_numbers : ∀ (value other : Json), value.Reordered other →
    ∀ number ∈ other.numbers, number ∈ value.numbers
  | .list items, other, reordered => by
      cases reordered with
      | same => exact fun _ within => within
      | list each =>
          intro number within
          exact Reordered.mem_listNumbers items _ each number within
  | .object members, other, reordered => by
      cases reordered with
      | same => exact fun _ within => within
      | object each order =>
          intro number within
          obtain ⟨member, listed, inside⟩ := Json.mem_memberNumbers.mp within
          refine Reordered.mem_memberNumbers members _ each number ?_
          exact Json.mem_memberNumbers.mpr ⟨member, order.mem_iff.mpr listed, inside⟩
  | .null, _, reordered | .bool _, _, reordered | .number _, _, reordered
  | .string _, _, reordered => by
      cases reordered
      exact fun _ within => within

theorem Reordered.mem_listNumbers : ∀ items others : List Json,
    List.Forall₂ Reordered items others →
      ∀ number ∈ listNumbers others, number ∈ listNumbers items
  | [], _, each => by
      cases each
      exact fun _ within => within
  | item :: rest, _, each => by
      cases each with
      | cons first others =>
          intro number within
          rcases List.mem_append.mp within with here | later
          · exact List.mem_append_left _ (Reordered.mem_numbers item _ first number here)
          · exact List.mem_append_right _
              (Reordered.mem_listNumbers rest _ others number later)

theorem Reordered.mem_memberNumbers : ∀ members others : List (String × Json),
    List.Forall₂ MemberReordered members others →
      ∀ number ∈ memberNumbers others, number ∈ memberNumbers members
  | [], _, each => by
      cases each
      exact fun _ within => within
  | (name, value) :: rest, _, each => by
      cases each with
      | cons first others =>
          cases first with
          | intro _ inside =>
              intro number within
              rcases List.mem_append.mp within with here | later
              · exact List.mem_append_left _ (Reordered.mem_numbers value _ inside number here)
              · exact List.mem_append_right _
                  (Reordered.mem_memberNumbers rest _ others number later)

end

/-! ## Reading -/

mutual

/-- An outline of a value is one of every value that differs in the order of members. -/
theorem ReadAs.of_reordered : ∀ (outline : Outline) {value other : Json},
    value.Reordered other → ReadAs outline other → ReadAs outline value
  | .absent _, _, _, _, readAs => by cases readAs
  | .scalar _, value, other, reordered, readAs => by
      cases reordered with
      | same => exact readAs
      | list each =>
          cases readAs with
          | scalar read means => cases means
      | object each order =>
          cases readAs with
          | scalar read means => cases means
  | .list items close, value, other, reordered, readAs => by
      cases reordered with
      | same => exact readAs
      | list each =>
          cases readAs with
          | list asRead => exact .list (ReadAs.items_of_reordered items each asRead)
      | object each order => cases readAs
  | .object members close, value, other, reordered, readAs => by
      cases reordered with
      | same => exact readAs
      | list each => cases readAs
      | object each order =>
          cases readAs with
          | object asRead same =>
              -- What the members are read as is brought into the order of the first value.
              have swapped : (Relation.Comp (List.Forall₂ MemberReordered) List.Perm) _ _ :=
                ⟨_, each, order.trans same.symm⟩
              rw [List.forall₂_comp_perm_eq_perm_comp_forall₂] at swapped
              obtain ⟨ordered, first, second⟩ := swapped
              exact .object (ReadAs.members_of_reordered members second asRead) first.symm

theorem ReadAs.items_of_reordered : ∀ (items : List Outline) {values others : List Json},
    List.Forall₂ Reordered values others → List.Forall₂ ReadAs items others →
      List.Forall₂ ReadAs items values
  | [], _, _, each, asRead => by
      cases asRead
      cases each
      exact .nil
  | item :: rest, _, _, each, asRead => by
      cases asRead with
      | cons readAs asRead =>
          cases each with
          | cons first each =>
              exact .cons (ReadAs.of_reordered item first readAs)
                (ReadAs.items_of_reordered rest each asRead)

theorem ReadAs.members_of_reordered : ∀ (members : List (Quoted × Outline))
    {values others : List (String × Json)}, List.Forall₂ MemberReordered values others →
      MembersReadAs members others → MembersReadAs members values
  | [], _, _, each, asRead => by
      cases asRead
      cases each
      exact .nil
  | (key, outline) :: rest, _, _, each, asRead => by
      cases asRead with
      | cons named readAs asRead =>
          cases each with
          | cons first each =>
              cases first with
              | intro name inside =>
                  exact .cons named (ReadAs.of_reordered outline inside readAs)
                    (ReadAs.members_of_reordered rest each asRead)

end

/-- A text that is a value is every value that differs in the order of members. -/
theorem WrittenAs.of_reordered {value other : Json} {text : String}
    (reordered : value.Reordered other) (written : other.WrittenAs text) :
    value.WrittenAs text := by
  obtain ⟨outline, scanned, readAs⟩ := written
  exact ⟨outline, scanned, readAs.of_reordered outline reordered⟩

/-! ## Values put in another order -/

variable (order : List (String × Json) → List (String × Json))

mutual

/-- The value with the members of every object in it put in another order. -/
def rearranged : Json → Json
  | .list items => .list (rearrangedItems items)
  | .object members => .object (order (rearrangedMembers members))
  | value => value

def rearrangedItems : List Json → List Json
  | [] => []
  | item :: rest => rearranged item :: rearrangedItems rest

def rearrangedMembers : List (String × Json) → List (String × Json)
  | [] => []
  | (name, value) :: rest => (name, rearranged value) :: rearrangedMembers rest

end

variable {order}

mutual

/-- Putting the members of objects in another order changes nothing but that. -/
theorem reordered_rearranged (keeps : ∀ members, (order members).Perm members) :
    ∀ value : Json, value.Reordered (value.rearranged order)
  | .list items => .list (Json.reordered_items keeps items)
  | .object members => .object (Json.reordered_members keeps members) (keeps _).symm
  | .null => .same _
  | .bool _ => .same _
  | .number _ => .same _
  | .string _ => .same _

theorem reordered_items (keeps : ∀ members, (order members).Perm members) :
    ∀ items : List Json, List.Forall₂ Reordered items (rearrangedItems order items)
  | [] => .nil
  | item :: rest =>
      .cons (Json.reordered_rearranged keeps item) (Json.reordered_items keeps rest)

theorem reordered_members (keeps : ∀ members, (order members).Perm members) :
    ∀ members : List (String × Json),
      List.Forall₂ MemberReordered members (rearrangedMembers order members)
  | [] => .nil
  | (name, value) :: rest =>
      .cons (.intro name (Json.reordered_rearranged keeps value))
        (Json.reordered_members keeps rest)

end

end Json

/-! ## Documents -/

/-- A document is read from every value that differs from its own in the order of members,
at whatever depth, if it nests containers at most as deep as a text may, its metadata are
in order, and the decimal text of every width of a column is that width again: from the
text of such a value in either layout, and from every other text that is the value. -/
theorem Document.ofText_of_reordered {document : Document} (sorted : document.Sorted)
    (shallow : document.toJson.depth ≤ 127)
    (faithful : ∀ width, .real width ∈ document.toJson.numbers → Decimal.Faithful width)
    {value : Json} (reordered : document.toJson.Reordered value) :
    (∀ layout, ofText (value.toText layout) = .ok document) ∧
      ∀ text, value.WrittenAs text → ofText text = .ok document := by
  have reads (text : String) (written : value.WrittenAs text) : ofText text = .ok document :=
    ofText_of_writtenAs sorted shallow (written.of_reordered reordered)
  constructor
  · intro layout
    refine reads _ (.of_legible layout fun number within => ?_)
    exact document.legible faithful number (reordered.mem_numbers _ _ number within)
  · exact reads

/-- A document with a citation and two metadata. -/
def Document.cited : Document where
  version := currentVersion
  metadata := [("draft", .bool true), ("title", .inlines [.str "a", .space])]
  blocks := [.para [.cite [⟨"key", [.str "see"], [], .normal, 1, 0⟩] [.str "b"]]]

/-- The document is read from its value with the members of every object turned round: the
content before the tag, and the blocks before the version. -/
theorem Document.ofText_of_reordered_cited :
    cited.toJson.Reordered (cited.toJson.rearranged List.reverse) ∧
      ofText ((cited.toJson.rearranged List.reverse).toText .compact) = .ok cited := by
  have reordered : cited.toJson.Reordered (cited.toJson.rearranged List.reverse) :=
    Json.reordered_rearranged List.reverse_perm _
  have sorted : cited.Sorted := by
    constructor
    · have inOrder : "draft" < "title" := by decide
      exact List.pairwise_pair.mpr inOrder
    · intro entry member
      simp only [cited, List.mem_cons, List.not_mem_nil, or_false] at member
      rcases member with rfl | rfl
      · exact .bool true
      · exact .inlines _
  have faithful : ∀ width, .real width ∈ cited.toJson.numbers → Decimal.Faithful width := by
    intro width member
    have numbers : cited.toJson.numbers =
        [.whole 1, .whole 23, .whole 1, .whole 1, .whole 0] := rfl
    rw [numbers] at member
    simp only [List.mem_cons, List.not_mem_nil, reduceCtorEq, or_self] at member
  exact ⟨reordered, (ofText_of_reordered sorted (by decide) faithful reordered).1 .compact⟩

end DocFilter
