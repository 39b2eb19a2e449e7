import DocFilter.Proofs.Decode.Respelling

/-!
# Values that come back as they were

A value that comes back as it was had the form in which it is written, since no other form
denotes the same.
-/

namespace DocFilter

open Decode (Forms Grammar Member Mode)
open Json (Close Outline Quoted)

namespace Json

/-! ## Objects -/

namespace Outline

variable {members : List (Quoted × Outline)} {values : List (String × Value)}

/-- Where no two members have one name, the name tells the member. -/
theorem member_unique (each : memberValues? members = some values)
    (distinct : (values.map Prod.fst).Nodup) {name : String} {first second : Outline}
    (named : Member members name first) (named' : Member members name second) :
    first = second := by
  induction members generalizing values with
  | nil =>
      obtain ⟨key, ⟨⟩, -⟩ := named
  | cons member rest ih =>
      obtain ⟨key, outline⟩ := member
      obtain ⟨text, value, others, read, -, following, rfl⟩ := cons_of_memberValues? each
      obtain ⟨unused, distinct⟩ := List.nodup_cons.mp distinct
      have absent {inner : Outline} : ¬ Member rest text inner := by
        intro later
        obtain ⟨inner, listed, -⟩ := exists_value following later
        exact unused (List.mem_map.mpr ⟨_, listed, rfl⟩)
      rcases Decode.member_cons.mp named with ⟨rfl, here⟩ | later
      · cases read.symm.trans here
        rcases Decode.member_cons.mp named' with ⟨rfl, -⟩ | later'
        · rfl
        · exact absurd later' absent
      · rcases Decode.member_cons.mp named' with ⟨rfl, here⟩ | later'
        · cases read.symm.trans here
          exact absurd later absent
        · exact ih following distinct later later'

/-- Members whose values all are those of others are read as some of these, if they are under
each name. -/
theorem exists_chosen {kept : List (String × Json)} (each : memberValues? members = some values)
    (under : ∀ name outline, Member members name outline →
      ∃ part ∈ kept, part.1 = name ∧ ReadAs outline part.2) :
    ∃ chosen, MembersReadAs members chosen ∧ chosen ⊆ kept ∧
      chosen.map Prod.fst = values.map Prod.fst := by
  induction members generalizing values with
  | nil =>
      cases each
      exact ⟨[], .nil, List.nil_subset kept, rfl⟩
  | cons member rest ih =>
      obtain ⟨key, outline⟩ := member
      obtain ⟨text, value, others, read, -, following, rfl⟩ := cons_of_memberValues? each
      obtain ⟨chosen, asRead, within, same⟩ := ih following fun name inner named =>
        under name inner (Decode.member_cons.mpr (.inr named))
      obtain ⟨part, listed, rfl, readAs⟩ :=
        under text outline (Decode.member_cons.mpr (.inl ⟨rfl, read⟩))
      exact ⟨_, .cons read readAs asRead, List.cons_subset.mpr ⟨listed, within⟩,
        congrArg (List.cons _) same⟩

end Outline

/-- Members that are chosen among others under each of their names are all of them. -/
theorem perm_of_chosen {members chosen : List (String × Json)}
    (distinct : (members.map Prod.fst).Nodup) (nodup : (chosen.map Prod.fst).Nodup)
    (within : chosen ⊆ members)
    (all : ∀ member ∈ members, member.1 ∈ chosen.map Prod.fst) : members.Perm chosen := by
  refine (List.perm_ext_iff_of_nodup (.of_map _ distinct) (.of_map _ nodup)).mpr fun member => ?_
  refine ⟨fun listed => ?_, fun listed => within listed⟩
  obtain ⟨other, taken, same⟩ := List.mem_map.mp (all member listed)
  rw [← List.inj_on_of_nodup_map distinct (within taken) listed same]
  exact taken

/-! ## Forms that come back -/

/-- An outline that denotes what is written for the value that is kept is read as that value. -/
def Restores (_ : Mode) (outline : Outline) (kept : Json) : Prop :=
  outline.value? = some kept.value → ReadAs outline kept

variable {mode : Mode}

theorem restores_object {members : List (Quoted × Outline)} {close : Close}
    {kept : List (String × Json)} (distinct : (kept.map Prod.fst).Nodup)
    (each : ∀ part ∈ kept, ∃ outline, Member members part.1 outline ∧
      Restores mode outline part.2) : Restores mode (.object members close) (.object kept) := by
  intro denotes
  obtain ⟨rfl, values, denoted, nodup, same⟩ := Outline.object_inv denotes
  -- The members that are denoted are those that are kept, in some order.
  have listed_iff {name : String} {value : Value} :
      (name, value) ∈ values ↔ ∃ part ∈ kept, (part.1, part.2.value) = (name, value) := by
    have held := congrFun (Value.object.inj same) name
    rw [← Value.lookup_eq_some_iff nodup, ← held,
      Value.lookup_eq_some_iff (map_fst_memberValues kept ▸ distinct), memberValues_eq,
      List.mem_map]
  have under (name : String) (outline : Outline) (named : Member members name outline) :
      ∃ part ∈ kept, part.1 = name ∧ ReadAs outline part.2 := by
    obtain ⟨value, listed, denotes⟩ := Outline.exists_value denoted named
    obtain ⟨part, keeps, ⟨⟩⟩ := listed_iff.mp listed
    obtain ⟨other, named', restores⟩ := each part keeps
    cases Outline.member_unique denoted nodup named named'
    exact ⟨part, keeps, rfl, restores denotes⟩
  obtain ⟨chosen, asRead, within, names⟩ := Outline.exists_chosen denoted under
  refine .object asRead (perm_of_chosen distinct (names ▸ nodup) within fun part keeps => ?_).symm
  rw [names]
  exact List.mem_map_of_mem (listed_iff.mpr ⟨part, keeps, rfl⟩)

theorem restores_scalar {outline : Outline} {found : Found} {kept : Json}
    (read : outline.found = .ok found) (means : found.Means kept) :
    Restores mode outline kept := by
  intro denotes
  cases outline with
  | scalar scalar => exact .scalar read means
  | absent fault => cases denotes
  | list items close =>
      cases read
      cases means
  | object members close =>
      cases read
      cases means

theorem restores_string {outline : Outline} {text : String} :
    Restores mode outline (.string text) := by
  intro denotes
  cases outline with
  | scalar scalar =>
      cases scalar with
      | quoted literal =>
          rw [Outline.value?, Scalar.value?] at denotes
          cases spelt : literal.read with
          | error fault =>
              rw [spelt] at denotes
              cases denotes
          | ok word =>
              rw [spelt] at denotes
              cases denotes
              refine .scalar ?_ (.string _)
              rw [Scalar.read, spelt]
              rfl
      | numeral value flaw => cases flaw <;> cases denotes
      | _ => cases denotes
  | absent fault => cases denotes
  | list items close =>
      obtain ⟨-, values, same, -⟩ := Outline.list_inv denotes
      cases same
  | object members close =>
      obtain ⟨-, values, -, -, same⟩ := Outline.object_inv denotes
      cases same

/-- A list is no object. -/
theorem restores_list_object {items : List Outline} {close : Close}
    {kept : List (String × Json)} : Restores mode (.list items close) (.object kept) := by
  intro denotes
  obtain ⟨-, values, same, -⟩ := Outline.list_inv denotes
  cases same

theorem restores_items {outlines : List Outline} {kept : List Json}
    (each : List.Forall₂ (Restores mode) outlines kept)
    (denotes : List.Forall₂ (fun outline value => outline.value? = some value) outlines
      (kept.map value)) : List.Forall₂ ReadAs outlines kept := by
  induction each with
  | nil => exact .nil
  | cons first _ ih =>
      cases denotes with
      | cons denoted rest => exact .cons (first denoted) (ih rest)

/-- No form but that in which a value is written denotes the same. -/
theorem restores_forms {grammar : Grammar} (distinct : ∀ names ∈ grammar.records, names.Nodup) :
    Forms grammar Restores where
  scalar read means := restores_scalar read means
  items entered each denotes := by
    obtain ⟨rfl, values, same, denoted⟩ := Outline.list_inv denotes
    cases same
    rw [values_eq] at denoted
    exact .list (restores_items each denoted)
  nodeObject entered known member form filled inside := by
    have different : ["t", "c"].Nodup := by decide
    refine restores_object different ?_
    refine List.forall_mem_cons.mpr ⟨⟨_, member, restores_string⟩, ?_⟩
    refine List.forall_mem_singleton.mpr ⟨_, filled, ?_⟩
    rcases inside with direct | ⟨-, later⟩
    · exact direct
    · exact later
  bareObject entered known member form empty :=
    restores_object (List.nodup_singleton _)
      (List.forall_mem_singleton.mpr ⟨_, member, restores_string⟩)
  nodeItems entered known form inside := restores_list_object
  bareItems entered known form := restores_list_object
  choiceObject entered known member form :=
    restores_object (List.nodup_singleton _)
      (List.forall_mem_singleton.mpr ⟨_, member, restores_string⟩)
  choiceItems entered known form := restores_list_object
  recordObject entered known sources := restores_object (distinct _ known) sources
  recordItems entered known each := restores_list_object
  mapObject entered sorted sources all := restores_object sorted.nodup sources

/-! ## Names in what is kept -/

theorem distinct_items {outlines : List Outline} {kept : List Json}
    (each : List.Forall₂ (fun _ item => item.Distinct) outlines kept) :
    ∀ item ∈ kept, item.Distinct :=
  forall_of_forall₂ (fun (_ : Outline) (item : Json) (distinct : item.Distinct) => distinct) each

theorem distinct_tagged {tag : String} : (tagged tag).Distinct := by
  simp [tagged]

theorem distinct_node {tag : String} {content : Json} (inside : content.Distinct) :
    (node tag content).Distinct := by
  simp [node, inside]

/-- No object that is kept has two members of one name. -/
theorem distinct_forms {grammar : Grammar} (distinct : ∀ names ∈ grammar.records, names.Nodup) :
    Forms grammar fun _ _ kept => kept.Distinct where
  scalar read means := by
    cases means with
    | null => exact .null
    | bool value => exact .bool value
    | number held => exact .number held
    | rounded held => exact .number _
    | string text => exact .string text
  items entered each := .list (distinct_items each)
  nodeObject entered known member form filled inside := distinct_node (inside.elim id And.right)
  bareObject entered known member form empty := distinct_tagged
  nodeItems entered known form inside := distinct_node inside
  bareItems entered known form := distinct_tagged
  choiceObject entered known member form := distinct_tagged
  choiceItems entered known form := distinct_tagged
  recordObject entered known sources := .object (distinct _ known) fun part listed => by
    obtain ⟨outline, -, inside⟩ := sources part listed
    exact inside
  recordItems entered known each :=
    .object (distinct _ known) (List.forall_mem_map.mp (distinct_items each))
  mapObject entered sorted sources all := .object sorted.nodup fun entry listed => by
    obtain ⟨outline, -, inside⟩ := sources entry listed
    exact inside

end Json

end DocFilter
