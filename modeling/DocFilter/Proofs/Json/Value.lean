import DocFilter.Json.Basic
import DocFilter.Json.Outline
import DocFilter.Proofs.Decimal.Exact
import Mathlib.Data.List.Nodup

/-!
# Values that texts denote

A text denotes a value, whoever reads it: a numeral is the exact number it is written for, and
the members of an object have no order. A text denotes nothing if it is malformed anywhere, and
if an object in it has two members of one name.
-/

namespace DocFilter.Json

/-- A value. An object is nothing but the values that there are under names. -/
inductive Value where
  | null
  | bool (value : Bool)
  | number (value : ℚ)
  | string (text : String)
  | list (items : List Value)
  | object (held : String → Option Value)

/-- The object with the members of a list, the first of each name. -/
def Value.ofMembers (members : List (String × Value)) : Value :=
  .object fun name => members.lookup name

theorem Value.lookup_eq_some_iff {members : List (String × Value)}
    (distinct : (members.map Prod.fst).Nodup) {name : String} {value : Value} :
    members.lookup name = some value ↔ (name, value) ∈ members := by
  induction members with
  | nil => simp
  | cons member rest ih =>
      obtain ⟨first, held⟩ := member
      obtain ⟨unused, distinct⟩ := List.nodup_cons.mp distinct
      rw [List.lookup_cons, List.mem_cons, Prod.mk.injEq]
      by_cases same : name = first
      · subst same
        have absent : (name, value) ∉ rest := fun listed =>
          unused (List.mem_map.mpr ⟨_, listed, rfl⟩)
        simp [absent, eq_comm]
      · simp [beq_false_of_ne same, same, ih distinct]

/-! ## What is denoted -/

def Scalar.value? : Scalar → Option Value
  | .null => some .null
  | .bool value => some (.bool value)
  | .numeral value none => some (.number value.exact)
  | .quoted literal => literal.read.toOption.map .string
  | _ => none

mutual

/-- The value that an outline denotes. -/
def Outline.value? : Outline → Option Value
  | .scalar scalar => scalar.value?
  | .list items .closed => (itemValues? items).map .list
  | .object members .closed => do
      let values ← memberValues? members
      if (values.map Prod.fst).Nodup then some (.ofMembers values) else none
  | _ => none

def itemValues? : List Outline → Option (List Value)
  | [] => some []
  | item :: rest => do return (← item.value?) :: (← itemValues? rest)

def memberValues? : List (Quoted × Outline) → Option (List (String × Value))
  | [] => some []
  | (key, outline) :: rest => do
      return (← key.read.toOption, ← outline.value?) :: (← memberValues? rest)

end

/-- The value that a text denotes, if it is nothing but a value. -/
def Value.ofText? (text : String) : Option Value :=
  match Scan.ofSource (.ofText text) with
  | ⟨outline, []⟩ => outline.value?
  | _ => none

/-! ## What is written -/

/-- The value that is written for a number: there is no numeral for one that is not finite. -/
def Value.ofNumber : Decimal.Number → Value
  | .whole value => .number value
  | .real value => ((Decimal.written? value).map .number).getD .null

mutual

/-- The value that the text of a value denotes. -/
def value : Json → Value
  | .null => .null
  | .bool value => .bool value
  | .number held => .ofNumber held
  | .string text => .string text
  | .list items => .list (values items)
  | .object members => .ofMembers (memberValues members)

def values : List Json → List Value
  | [] => []
  | item :: rest => item.value :: values rest

def memberValues : List (String × Json) → List (String × Value)
  | [] => []
  | (name, item) :: rest => (name, item.value) :: memberValues rest

end

theorem values_eq (items : List Json) : values items = items.map value := by
  induction items with
  | nil => rfl
  | cons item rest ih => rw [values, ih, List.map_cons]

theorem memberValues_eq (members : List (String × Json)) :
    memberValues members = members.map fun member => (member.1, member.2.value) := by
  induction members with
  | nil => rfl
  | cons member rest ih => rw [memberValues, ih, List.map_cons]

theorem map_fst_memberValues (members : List (String × Json)) :
    (memberValues members).map Prod.fst = members.map Prod.fst := by
  rw [memberValues_eq, List.map_map]
  rfl

/-- No object in a value has two members of one name. -/
inductive Distinct : Json → Prop where
  | null : Distinct .null
  | bool (value : Bool) : Distinct (.bool value)
  | number (held : Decimal.Number) : Distinct (.number held)
  | string (text : String) : Distinct (.string text)
  | list {items : List Json} (each : ∀ item ∈ items, Distinct item) : Distinct (.list items)
  | object {members : List (String × Json)} (names : (members.map Prod.fst).Nodup)
      (each : ∀ member ∈ members, Distinct member.2) : Distinct (.object members)

attribute [simp] Distinct.null Distinct.bool Distinct.number Distinct.string

@[simp] theorem distinct_list_iff {items : List Json} :
    (list items).Distinct ↔ ∀ item ∈ items, item.Distinct := by
  constructor
  · intro distinct
    cases distinct with
    | list each => exact each
  · exact .list

@[simp] theorem distinct_object_iff {members : List (String × Json)} :
    (object members).Distinct ↔
      (members.map Prod.fst).Nodup ∧ ∀ member ∈ members, member.2.Distinct := by
  constructor
  · intro distinct
    cases distinct with
    | object names each => exact ⟨names, each⟩
  · exact fun ⟨names, each⟩ => .object names each

end DocFilter.Json
