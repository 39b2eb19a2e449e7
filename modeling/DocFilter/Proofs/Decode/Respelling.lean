import DocFilter.Proofs.Decode.Members
import DocFilter.Proofs.Json.Value

/-!
# What is kept of a value

A value that is decoded and written again may come back in another form. There are a few
such forms, for tags, nodes, choices and records, and members that have no part in these
are dropped. The width of a column is rounded. Everything else is kept: all other scalars, all
items of lists, and all members of maps.
-/

namespace DocFilter

open Decode (Forms Grammar Member Mode TagForm)
open Json (Close Found Outline Quoted Scalar Value)

/-- Keys that increase are different. -/
theorem Entries.Sorted.nodup {α : Type} {entries : List (String × α)} (sorted : Sorted entries) :
    (entries.map Prod.fst).Nodup :=
  List.pairwise_map.mpr (List.Pairwise.imp (fun less => String.ne_of_lt less) sorted)

namespace Json

/-! ## Forms of values -/

namespace Value

def node (tag : String) (content : Value) : Value := .ofMembers [("t", .string tag), ("c", content)]

def tagged (tag : String) : Value := .ofMembers [("t", .string tag)]

/-- What stands for a tag: the tag itself, an object with the tag as its only name and
nothing under it, or the place of the tag among all tags. -/
inductive TagSpelt (tags : List String) : Value → String → Prop where
  | word {tag : String} (listed : tag ∈ tags) : TagSpelt tags (.string tag) tag
  | entry {tag : String} {inner : Value} (listed : tag ∈ tags)
      (empty : inner = .null ∨ inner = .ofMembers []) :
      TagSpelt tags (.ofMembers [(tag, inner)]) tag
  | index {place : Nat} {tag : String} (listed : tags[place]? = some tag) :
      TagSpelt tags (.number place) tag

/-- What a value is when it comes back. Members of nodes, choices and records with names that
are not looked for are dropped, and so is a null that is the content of a node without any;
lists that stand for nodes, choices and records come back as objects. The width of a column
comes back as what is written for the floating point number that it is read as. -/
inductive Respelt (grammar : Grammar) : Value → Value → Prop where
  | null : Respelt grammar .null .null
  | bool (value : Bool) : Respelt grammar (.bool value) (.bool value)
  | string (text : String) : Respelt grammar (.string text) (.string text)
  | integer (value : Int) : Respelt grammar (.number value) (.number value)
  | width {numeral : Decimal.Numeral} {found : Found} {width : Float}
      (read : (Scalar.numeral numeral none).read = .ok found) (means : found.Means (.real width)) :
      Respelt grammar (.number numeral.exact) (.ofNumber (.real width))
  | items {values kept : List Value} (each : List.Forall₂ (Respelt grammar) values kept) :
      Respelt grammar (.list values) (.list kept)
  | nodeObject {tags : List String} {held : String → Option Value} {word inner : Value}
      {tag : String} {content : Value} (known : tags ∈ grammar.nodes)
      (named : held "t" = some word) (form : TagSpelt tags word tag)
      (filled : held "c" = some inner) (inside : Respelt grammar inner content) :
      Respelt grammar (.object held) (.node tag content)
  | bareObject {tags : List String} {held : String → Option Value} {word : Value}
      {tag : String} (known : tags ∈ grammar.nodes) (named : held "t" = some word)
      (form : TagSpelt tags word tag) (empty : ∀ inner, held "c" = some inner → inner = .null) :
      Respelt grammar (.object held) (.tagged tag)
  | nodeItems {tags : List String} {word inner : Value} {tag : String} {content : Value}
      (known : tags ∈ grammar.nodes) (form : TagSpelt tags word tag)
      (inside : Respelt grammar inner content) :
      Respelt grammar (.list [word, inner]) (.node tag content)
  | bareItems {tags : List String} {word : Value} {tag : String} (known : tags ∈ grammar.nodes)
      (form : TagSpelt tags word tag) : Respelt grammar (.list [word, .null]) (.tagged tag)
  | choiceObject {tags : List String} {held : String → Option Value} {word : Value}
      {tag : String} (known : tags ∈ grammar.choices) (named : held "t" = some word)
      (form : TagSpelt tags word tag) : Respelt grammar (.object held) (.tagged tag)
  | choiceItems {tags : List String} {word : Value} {tag : String}
      (known : tags ∈ grammar.choices) (form : TagSpelt tags word tag) :
      Respelt grammar (.list [word]) (.tagged tag)
  | recordObject {held : String → Option Value} {parts : List (String × Value)}
      {values : List Value} (known : parts.map Prod.fst ∈ grammar.records)
      (found : parts.map (fun part => held part.1) = values.map some)
      (each : List.Forall₂ (Respelt grammar) values (parts.map Prod.snd)) :
      Respelt grammar (.object held) (.ofMembers parts)
  | recordItems {items : List Value} {parts : List (String × Value)}
      (known : parts.map Prod.fst ∈ grammar.records)
      (each : List.Forall₂ (Respelt grammar) items (parts.map Prod.snd)) :
      Respelt grammar (.list items) (.ofMembers parts)
  | mapObject {held kept : String → Option Value}
      (each : ∀ name, Option.Rel (Respelt grammar) (held name) (kept name)) :
      Respelt grammar (.object held) (.object kept)

end Value

/-! ## What outlines denote -/

/-- The value that is found in a place. Nothing but an integer tells the number that was
written. -/
def Found.value? : Found → Option Value
  | .null => some .null
  | .bool value => some (.bool value)
  | .number (.whole value) => some (.number value)
  | .string text => some (.string text)
  | _ => none

namespace Outline

variable {outline : Outline} {value : Value}

/-- An outline that is found to be something denotes it, unless that is a rounded number. -/
theorem eq_of_found (denotes : outline.value? = some value) {found : Found}
    (read : outline.found = .ok found) {kept : Value} (same : found.value? = some kept) :
    value = kept := by
  cases outline with
  | scalar scalar =>
      cases Scalar.readsAs_of_read read with
      | null | bool =>
          cases denotes
          cases same
          rfl
      | @numeral numeral number taken =>
          cases denotes
          cases number with
          | whole held =>
              cases same
              rw [Decimal.Numeral.exact_of_whole taken]
          | real => cases same
      | quoted spelt =>
          rw [Outline.value?, Scalar.value?, spelt] at denotes
          cases denotes
          cases same
          rfl
  | absent fault => cases read
  | list | object =>
      cases read
      cases same

theorem numeral_of_found {number : Decimal.Number} (read : outline.found = .ok (.number number)) :
    ∃ numeral, outline = .scalar (.numeral numeral none) := by
  cases outline with
  | scalar scalar =>
      cases Scalar.readsAs_of_read read with
      | numeral => exact ⟨_, rfl⟩
  | _ => cases read

theorem forall₂_of_itemValues? {items : List Outline} {values : List Value}
    (each : itemValues? items = some values) :
    List.Forall₂ (fun item value => item.value? = some value) items values := by
  induction items generalizing values with
  | nil =>
      cases each
      exact .nil
  | cons item rest ih =>
      obtain ⟨first, denotes, each⟩ := Option.bind_eq_some_iff.mp each
      obtain ⟨others, following, same⟩ := Option.bind_eq_some_iff.mp each
      cases same
      exact .cons denotes (ih following)

theorem list_inv {items : List Outline} {close : Close}
    (denotes : (list items close).value? = some value) :
    close = .closed ∧ ∃ values, value = .list values ∧
      List.Forall₂ (fun item value => item.value? = some value) items values := by
  cases close with
  | closed =>
      obtain ⟨values, each, rfl⟩ := Option.map_eq_some_iff.mp denotes
      exact ⟨rfl, values, rfl, forall₂_of_itemValues? each⟩
  | _ => cases denotes

theorem object_inv {members : List (Quoted × Outline)} {close : Close}
    (denotes : (object members close).value? = some value) :
    close = .closed ∧ ∃ values, memberValues? members = some values ∧
      (values.map Prod.fst).Nodup ∧ value = .ofMembers values := by
  cases close with
  | closed =>
      obtain ⟨values, each, same⟩ := Option.bind_eq_some_iff.mp denotes
      split at same
      case isTrue distinct =>
          cases same
          exact ⟨rfl, values, each, distinct, rfl⟩
      case isFalse => cases same
  | _ => cases denotes

/-- A member has its name among others, and its value. -/
theorem cons_of_memberValues? {key : Quoted} {rest : List (Quoted × Outline)}
    {values : List (String × Value)}
    (each : memberValues? ((key, outline) :: rest) = some values) :
    ∃ name value others, key.read = .ok name ∧ outline.value? = some value ∧
      memberValues? rest = some others ∧ values = (name, value) :: others := by
  obtain ⟨name, read, each⟩ := Option.bind_eq_some_iff.mp each
  obtain ⟨value, denotes, each⟩ := Option.bind_eq_some_iff.mp each
  obtain ⟨others, following, same⟩ := Option.bind_eq_some_iff.mp each
  cases same
  cases spelt : key.read with
  | error fault =>
      rw [spelt] at read
      cases read
  | ok text =>
      rw [spelt] at read
      cases read
      exact ⟨name, value, others, rfl, denotes, following, rfl⟩

section

variable {members : List (Quoted × Outline)} {values : List (String × Value)}

theorem exists_value (each : memberValues? members = some values) {name : String}
    (named : Member members name outline) :
    ∃ value, (name, value) ∈ values ∧ outline.value? = some value := by
  induction members generalizing values with
  | nil =>
      obtain ⟨key, ⟨⟩, -⟩ := named
  | cons member rest ih =>
      obtain ⟨key, other⟩ := member
      obtain ⟨text, value, others, read, denotes, following, rfl⟩ := cons_of_memberValues? each
      rcases Decode.member_cons.mp named with ⟨rfl, same⟩ | later
      · cases read.symm.trans same
        exact ⟨value, List.mem_cons_self, denotes⟩
      · obtain ⟨value, listed, denotes⟩ := ih following later
        exact ⟨value, List.mem_cons_of_mem _ listed, denotes⟩

theorem exists_member (each : memberValues? members = some values) {name : String}
    (listed : (name, value) ∈ values) :
    ∃ outline, Member members name outline ∧ outline.value? = some value := by
  induction members generalizing values with
  | nil =>
      cases each
      cases listed
  | cons member rest ih =>
      obtain ⟨key, outline⟩ := member
      obtain ⟨text, inner, others, read, denotes, following, rfl⟩ := cons_of_memberValues? each
      rcases List.mem_cons.mp listed with same | later
      · cases same
        exact ⟨outline, Decode.member_cons.mpr (.inl ⟨rfl, read⟩), denotes⟩
      · obtain ⟨outline, named, denotes⟩ := ih following later
        exact ⟨outline, Decode.member_cons.mpr (.inr named), denotes⟩

end

/-- What an object denotes has a value for each of its members, and no others. -/
theorem members_inv {members : List (Quoted × Outline)} {close : Close}
    (denotes : (object members close).value? = some value) :
    ∃ held, value = .object held ∧
      (∀ name outline, Member members name outline →
        ∃ inner, held name = some inner ∧ outline.value? = some inner) ∧
      ∀ name inner, held name = some inner →
        ∃ outline, Member members name outline ∧ outline.value? = some inner := by
  obtain ⟨-, values, each, distinct, rfl⟩ := object_inv denotes
  refine ⟨_, rfl, fun name outline named => ?_, fun name inner found => ?_⟩
  · obtain ⟨inner, listed, denotes⟩ := exists_value each named
    exact ⟨inner, (Value.lookup_eq_some_iff distinct).mpr listed, denotes⟩
  · exact exists_member each ((Value.lookup_eq_some_iff distinct).mp found)

end Outline

/-! ## Outlines of such values -/

open Value (TagSpelt Respelt)

theorem TagForm.spelt {tags : List String} {mode : Mode} {outline : Outline} {tag : String}
    (form : TagForm tags mode outline tag) {value : Value} (denotes : outline.value? = some value) :
    TagSpelt tags value tag := by
  cases form with
  | word found listed =>
      rw [Outline.eq_of_found denotes found rfl]
      exact .word listed
  | @entry _ key inner _ _ read listed empty =>
      obtain ⟨-, values, each, -, rfl⟩ := Outline.object_inv denotes
      obtain ⟨name, value, others, read', under, none, rfl⟩ := Outline.cons_of_memberValues? each
      cases none
      cases read.symm.trans read'
      refine .entry listed ?_
      rcases empty with found | ⟨close, rfl⟩
      · exact .inl (Outline.eq_of_found under found rfl)
      · obtain ⟨-, values, none, -, same⟩ := Outline.object_inv under
        cases none
        exact .inr same
  | index found listed =>
      rw [Outline.eq_of_found denotes found rfl]
      exact .index listed

variable {grammar : Grammar}

/-- What is kept of the value that an outline denotes. -/
def Respells (grammar : Grammar) (_ : Mode) (outline : Outline) (kept : Json) : Prop :=
  ∀ value, outline.value? = some value → Respelt grammar value kept.value

theorem respells_scalar {mode : Mode} {outline : Outline} {found : Found} {kept : Json}
    (read : outline.found = .ok found) (means : found.Means kept) :
    Respells grammar mode outline kept := by
  intro value denotes
  cases means with
  | null =>
      rw [Outline.eq_of_found denotes read rfl]
      exact .null
  | bool held =>
      rw [Outline.eq_of_found denotes read rfl]
      exact .bool held
  | string text =>
      rw [Outline.eq_of_found denotes read rfl]
      exact .string text
  | number number =>
      cases number with
      | whole held =>
          rw [Outline.eq_of_found denotes read rfl]
          exact .integer held
      | real width =>
          obtain ⟨numeral, rfl⟩ := Outline.numeral_of_found read
          cases denotes
          exact .width read (.number _)
  | rounded held =>
      obtain ⟨numeral, rfl⟩ := Outline.numeral_of_found read
      cases denotes
      exact .width read (.rounded held)

theorem respelt_items {mode : Mode} {outlines : List Outline} {kept : List Json}
    {values : List Value} (each : List.Forall₂ (Respells grammar mode) outlines kept)
    (denotes : List.Forall₂ (fun outline value => outline.value? = some value) outlines values) :
    List.Forall₂ (Respelt grammar) values (kept.map value) := by
  induction each generalizing values with
  | nil =>
      cases denotes
      exact .nil
  | cons first _ ih =>
      cases denotes with
      | cons denotes rest => exact .cons (first _ denotes) (ih rest)

theorem exists_found {held : String → Option Value} {parts : List (String × Json)}
    (each : ∀ part ∈ parts, ∃ value, held part.1 = some value ∧
      Respelt grammar value part.2.value) :
    ∃ values, parts.map (fun part => held part.1) = values.map some ∧
      List.Forall₂ (Respelt grammar) values (parts.map fun part => part.2.value) := by
  induction parts with
  | nil => exact ⟨[], rfl, .nil⟩
  | cons part rest ih =>
      obtain ⟨⟨value, found, first⟩, others⟩ := List.forall_mem_cons.mp each
      obtain ⟨values, same, following⟩ := ih others
      refine ⟨value :: values, ?_, .cons first following⟩
      rw [List.map_cons, List.map_cons, found, same]

theorem respells_record {mode inside : Mode} {members : List (Quoted × Outline)} {close : Close}
    {parts : List (String × Json)} (known : parts.map Prod.fst ∈ grammar.records)
    (sources : ∀ part ∈ parts, ∃ outline, Member members part.1 outline ∧
      Respells grammar inside outline part.2) :
    Respells grammar mode (.object members close) (.object parts) := by
  intro value denotes
  obtain ⟨held, rfl, held_of, -⟩ := Outline.members_inv denotes
  obtain ⟨values, found, each⟩ := exists_found fun part listed => by
    obtain ⟨outline, named, respells⟩ := sources part listed
    obtain ⟨inner, found, denoted⟩ := held_of _ _ named
    exact ⟨inner, found, respells inner denoted⟩
  have known : (memberValues parts).map Prod.fst ∈ grammar.records := by
    rwa [map_fst_memberValues]
  have found : (memberValues parts).map (fun part => held part.1) = values.map some := by
    rwa [memberValues_eq, List.map_map]
  have each : List.Forall₂ (Respelt grammar) values ((memberValues parts).map Prod.snd) := by
    rwa [memberValues_eq, List.map_map]
  exact .recordObject known found each

theorem respells_map {mode inside : Mode} {members : List (Quoted × Outline)} {close : Close}
    {entries : List (String × Json)} (sorted : Entries.Sorted entries)
    (sources : ∀ entry ∈ entries, ∃ outline, Member members entry.1 outline ∧
      Respells grammar inside outline entry.2)
    (all : ∀ name outline, Member members name outline → name ∈ entries.map Prod.fst) :
    Respells grammar mode (.object members close) (.object entries) := by
  intro value denotes
  obtain ⟨held, rfl, held_of, back⟩ := Outline.members_inv denotes
  have kept {name : String} {value : Value} :
      (memberValues entries).lookup name = some value ↔
        ∃ entry ∈ entries, (entry.1, entry.2.value) = (name, value) := by
    rw [Value.lookup_eq_some_iff (map_fst_memberValues entries ▸ sorted.nodup), memberValues_eq,
      List.mem_map]
  refine .mapObject fun name => ?_
  cases found : held name with
  | none =>
      cases came : (memberValues entries).lookup name with
      | none => exact .none
      | some value =>
          obtain ⟨entry, listed, ⟨⟩⟩ := kept.mp came
          obtain ⟨outline, named, -⟩ := sources entry listed
          obtain ⟨inner, found', -⟩ := held_of _ _ named
          cases found.symm.trans found'
  | some inner =>
      obtain ⟨outline, named, -⟩ := back _ _ found
      obtain ⟨entry, listed, rfl⟩ := List.mem_map.mp (all name outline named)
      obtain ⟨source, member, respells⟩ := sources entry listed
      obtain ⟨_, found', denoted⟩ := held_of _ _ member
      cases found.symm.trans found'
      rw [kept.mpr ⟨entry, listed, rfl⟩]
      exact .some (respells inner denoted)

/-- The form in which a value is accepted is one of those in which it comes back. -/
theorem respelt_forms (grammar : Grammar) : Forms grammar (Respells grammar) where
  scalar read means := respells_scalar read means
  items entered each value denotes := by
    obtain ⟨-, values, rfl, denoted⟩ := Outline.list_inv denotes
    rw [Json.value, values_eq]
    exact .items (respelt_items each denoted)
  nodeObject entered known member form filled inside value denotes := by
    obtain ⟨held, rfl, held_of, -⟩ := Outline.members_inv denotes
    obtain ⟨word, named, spelt⟩ := held_of _ _ member
    obtain ⟨inner, content, denoted⟩ := held_of _ _ filled
    refine .nodeObject known named (TagForm.spelt form spelt) content ?_
    rcases inside with direct | ⟨-, later⟩
    · exact direct inner denoted
    · exact later inner denoted
  bareObject entered known member form empty value denotes := by
    obtain ⟨held, rfl, held_of, back⟩ := Outline.members_inv denotes
    obtain ⟨word, named, spelt⟩ := held_of _ _ member
    refine .bareObject known named (TagForm.spelt form spelt) fun inner found => ?_
    obtain ⟨outline, filled, denoted⟩ := back _ _ found
    rw [empty outline filled] at denoted
    exact Outline.eq_of_found denoted rfl rfl
  nodeItems entered known form inside value denotes := by
    obtain ⟨-, values, rfl, denoted⟩ := Outline.list_inv denotes
    rcases denoted with _ | ⟨spelt, _ | ⟨content, ⟨⟩⟩⟩
    exact .nodeItems known (TagForm.spelt form spelt) (inside _ content)
  bareItems entered known form value denotes := by
    obtain ⟨-, values, rfl, denoted⟩ := Outline.list_inv denotes
    rcases denoted with _ | ⟨spelt, _ | ⟨content, ⟨⟩⟩⟩
    rw [Outline.eq_of_found content rfl rfl]
    exact .bareItems known (TagForm.spelt form spelt)
  choiceObject entered known member form value denotes := by
    obtain ⟨held, rfl, held_of, -⟩ := Outline.members_inv denotes
    obtain ⟨word, named, spelt⟩ := held_of _ _ member
    exact .choiceObject known named (TagForm.spelt form spelt)
  choiceItems entered known form value denotes := by
    obtain ⟨-, values, rfl, denoted⟩ := Outline.list_inv denotes
    rcases denoted with _ | ⟨spelt, ⟨⟩⟩
    exact .choiceItems known (TagForm.spelt form spelt)
  recordObject entered known sources := respells_record known sources
  recordItems entered known each value denotes := by
    obtain ⟨-, values, rfl, denoted⟩ := Outline.list_inv denotes
    have kept := respelt_items each denoted
    rw [List.map_map] at kept
    refine .recordItems ?_ ?_
    · rwa [map_fst_memberValues]
    · rwa [memberValues_eq, List.map_map]
  mapObject entered sorted sources all := respells_map sorted sources all

end Json

end DocFilter
