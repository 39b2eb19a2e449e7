import DocFilter.Json.Basic
import DocFilter.Json.Outline
import Mathlib.Data.List.Forall2

/-!
# What an outline is read as

An outline without malformed places is read as a value, in which numerals are the numbers
that they are rounded to. The members of an object may stand in any order. The outline is not
deeper than the value, so that it can be checked within the room that the value needs.
-/

namespace DocFilter.Json

/-! ## Depth and numbers of a value -/

mutual

/-- How many containers are open at a time while a value is written. -/
def depth : Json → Nat
  | .null => 0
  | .bool _ => 0
  | .number _ => 0
  | .string _ => 0
  | .list items => depths items + 1
  | .object members => memberDepths members + 1

def depths : List Json → Nat
  | [] => 0
  | value :: rest => max value.depth (depths rest)

def memberDepths : List (String × Json) → Nat
  | [] => 0
  | (_, value) :: rest => max value.depth (memberDepths rest)

end

mutual

/-- The numbers in a value, in the order in which they are written. -/
def numbers : Json → List Decimal.Number
  | .null => []
  | .bool _ => []
  | .number value => [value]
  | .string _ => []
  | .list items => listNumbers items
  | .object members => memberNumbers members

def listNumbers : List Json → List Decimal.Number
  | [] => []
  | value :: rest => value.numbers ++ listNumbers rest

def memberNumbers : List (String × Json) → List Decimal.Number
  | [] => []
  | (_, value) :: rest => value.numbers ++ memberNumbers rest

end

theorem depths_le_iff {values : List Json} {bound : Nat} :
    depths values ≤ bound ↔ ∀ value ∈ values, value.depth ≤ bound := by
  induction values with
  | nil => simp [depths]
  | cons value rest ih => rw [depths, Nat.max_le, ih, List.forall_mem_cons]

theorem memberDepths_le_iff {members : List (String × Json)} {bound : Nat} :
    memberDepths members ≤ bound ↔ ∀ member ∈ members, member.2.depth ≤ bound := by
  induction members with
  | nil => simp [memberDepths]
  | cons member rest ih =>
      obtain ⟨name, value⟩ := member
      rw [memberDepths, Nat.max_le, ih, List.forall_mem_cons]

theorem mem_listNumbers {values : List Json} {number : Decimal.Number} :
    number ∈ listNumbers values ↔ ∃ value ∈ values, number ∈ value.numbers := by
  induction values with
  | nil => simp [listNumbers]
  | cons value rest ih => simp [listNumbers, ih]

theorem mem_memberNumbers {members : List (String × Json)} {number : Decimal.Number} :
    number ∈ memberNumbers members ↔ ∃ member ∈ members, number ∈ member.2.numbers := by
  induction members with
  | nil => simp [memberNumbers]
  | cons member rest ih =>
      obtain ⟨name, value⟩ := member
      simp [memberNumbers, ih]

/-! ## Reading -/

/-- What is found in a place can be taken for a value. An integer can also be taken for the
floating point number that it is rounded to. -/
inductive Found.Means : Found → Json → Prop where
  | null : Found.Means .null .null
  | bool (value : Bool) : Found.Means (.bool value) (.bool value)
  | number (value : Decimal.Number) : Found.Means (.number value) (.number value)
  | rounded (value : Int) : Found.Means (.number (.whole value)) (.real (Float.ofInt value))
  | string (text : String) : Found.Means (.string text) (.string text)

mutual

/-- An outline has no malformed place and is read as a value, up to the order of members.
Different numerals may be read as one number. -/
inductive ReadAs : Outline → Json → Prop where
  | scalar {scalar : Scalar} {found : Found} {value : Json}
      (read : scalar.read = .ok found) (means : found.Means value) :
      ReadAs (.scalar scalar) value
  | list {items : List Outline} {values : List Json}
      (each : List.Forall₂ ReadAs items values) :
      ReadAs (.list items .closed) (.list values)
  | object {members : List (Quoted × Outline)} {ordered values : List (String × Json)}
      (each : MembersReadAs members ordered) (same : ordered.Perm values) :
      ReadAs (.object members .closed) (.object values)

/-- Members have the names of others, and are read as their values. -/
inductive MembersReadAs : List (Quoted × Outline) → List (String × Json) → Prop where
  | nil : MembersReadAs [] []
  | cons {key : Quoted} {name : String} {outline : Outline} {value : Json}
      {members : List (Quoted × Outline)} {values : List (String × Json)}
      (named : key.read = .ok name) (readAs : ReadAs outline value)
      (rest : MembersReadAs members values) :
      MembersReadAs ((key, outline) :: members) ((name, value) :: values)

end

/-- What a scalar is found to be when it is read. -/
inductive Scalar.ReadsAs : Scalar → Found → Prop where
  | null : ReadsAs .null .null
  | bool (value : Bool) : ReadsAs (.bool value) (.bool value)
  | numeral {value : Decimal.Numeral} {number : Decimal.Number}
      (read : value.number? = some number) : ReadsAs (.numeral value none) (.number number)
  | quoted {literal : Quoted} {text : String} (read : literal.read = .ok text) :
      ReadsAs (.quoted literal) (.string text)

theorem Scalar.readsAs_of_read {scalar : Scalar} {found : Found}
    (read : scalar.read = .ok found) : scalar.ReadsAs found := by
  cases scalar with
  | null =>
      cases read
      exact .null
  | bool value =>
      cases read
      exact .bool value
  | word fault => cases read
  | numeral value flaw =>
      unfold Scalar.read at read
      dsimp only at read
      split at read
      · cases read
      · split at read
        case h_4 =>
            split at read
            case h_1 number same =>
                cases read
                exact .numeral same
            case h_2 => cases read
        all_goals cases read
  | quoted literal =>
      rw [Scalar.read] at read
      cases spelt : literal.read with
      | error fault =>
          rw [spelt] at read
          cases read
      | ok text =>
          rw [spelt] at read
          cases read
          exact .quoted spelt

namespace ReadAs

theorem found_string {outline : Outline} {text : String}
    (readAs : ReadAs outline (.string text)) : outline.found = .ok (.string text) := by
  cases readAs with
  | scalar read means =>
      cases means
      exact read

theorem found_bool {outline : Outline} {value : Bool} (readAs : ReadAs outline (.bool value)) :
    outline.found = .ok (.bool value) := by
  cases readAs with
  | scalar read means =>
      cases means
      exact read

theorem found_int {outline : Outline} {value : Int} (readAs : ReadAs outline (.int value)) :
    outline.found = .ok (.number (.whole value)) := by
  cases readAs with
  | scalar read means =>
      cases means
      exact read

/-- A floating point number is found to be that, or an integer that is rounded to it. -/
theorem found_real {outline : Outline} {value : Float} (readAs : ReadAs outline (.real value)) :
    outline.found = .ok (.number (.real value)) ∨
      ∃ number, outline.found = .ok (.number (.whole number)) ∧ Float.ofInt number = value := by
  cases readAs with
  | scalar read means =>
      cases means with
      | number => exact .inl read
      | rounded number => exact .inr ⟨number, read, rfl⟩

theorem string_inv {outline : Outline} {text : String}
    (readAs : ReadAs outline (.string text)) :
    ∃ literal : Quoted, outline = .scalar (.quoted literal) ∧ literal.read = .ok text := by
  cases readAs with
  | scalar read means =>
      cases means
      cases Scalar.readsAs_of_read read with
      | quoted spelt => exact ⟨_, rfl, spelt⟩

theorem null_inv {outline : Outline} (readAs : ReadAs outline .null) :
    outline = .scalar .null := by
  cases readAs with
  | scalar read means =>
      cases means
      cases Scalar.readsAs_of_read read with
      | null => rfl

theorem list_inv {outline : Outline} {values : List Json}
    (readAs : ReadAs outline (.list values)) :
    ∃ items : List Outline, outline = .list items .closed ∧
      List.Forall₂ ReadAs items values := by
  cases readAs with
  | scalar read means => cases means
  | list each => exact ⟨_, rfl, each⟩

theorem object_inv {outline : Outline} {values : List (String × Json)}
    (readAs : ReadAs outline (.object values)) :
    ∃ (members : List (Quoted × Outline)) (ordered : List (String × Json)),
      outline = .object members .closed ∧ MembersReadAs members ordered ∧
        ordered.Perm values := by
  cases readAs with
  | scalar read means => cases means
  | object each same => exact ⟨_, _, rfl, each, same⟩

end ReadAs

mutual

/-- What is read as a value passes the check if there is room for the value. -/
theorem check_of_readAs : ∀ (outline : Outline) (value : Json) (room : Nat),
    ReadAs outline value → value.depth ≤ room → outline.check room = .ok ()
  | .absent _, _, _, readAs, _ => by cases readAs
  | .scalar scalar, value, room, readAs, _ => by
      cases readAs with
      | scalar read means =>
          rw [Outline.check, read]
          rfl
  | .list items close, value, room, readAs, fits => by
      cases readAs with
      | list each =>
          rw [depth] at fits
          obtain ⟨inner, rfl⟩ : ∃ inner, room = inner + 1 := ⟨room - 1, by omega⟩
          have passed := checkItems_of_readAs items _ inner each
            (depths_le_iff.mp (by omega))
          rw [Outline.check, passed]
          rfl
  | .object members close, value, room, readAs, fits => by
      cases readAs with
      | object each same =>
          rw [depth] at fits
          obtain ⟨inner, rfl⟩ : ∃ inner, room = inner + 1 := ⟨room - 1, by omega⟩
          have bounded := memberDepths_le_iff.mp (Nat.le_of_succ_le_succ fits)
          have passed := checkMembers_of_readAs members _ inner each
            (fun member listed => bounded member (same.mem_iff.mp listed))
          rw [Outline.check, passed]
          rfl

theorem checkItems_of_readAs : ∀ (items : List Outline) (values : List Json) (room : Nat),
    List.Forall₂ ReadAs items values → (∀ value ∈ values, value.depth ≤ room) →
      Outline.checkItems room items = .ok ()
  | [], _, _, _, _ => rfl
  | item :: items, values, room, each, bounded => by
      cases each with
      | cons readAs rest =>
          have first := check_of_readAs item _ room readAs (bounded _ List.mem_cons_self)
          have others := checkItems_of_readAs items _ room rest
            (fun value member => bounded value (List.mem_cons_of_mem _ member))
          rw [Outline.checkItems, first]
          exact others

theorem checkMembers_of_readAs : ∀ (members : List (Quoted × Outline))
    (values : List (String × Json)) (room : Nat),
    MembersReadAs members values → (∀ member ∈ values, member.2.depth ≤ room) →
      Outline.checkMembers room members = .ok ()
  | [], _, _, _, _ => rfl
  | (key, outline) :: members, values, room, each, bounded => by
      cases each with
      | cons named readAs rest =>
          have first := check_of_readAs outline _ room readAs (bounded _ List.mem_cons_self)
          have others := checkMembers_of_readAs members _ room rest
            (fun value member => bounded value (List.mem_cons_of_mem _ member))
          rw [Outline.checkMembers, named, first]
          exact others

end

end DocFilter.Json
