import DocFilter.Decode.Tagged
import DocFilter.Document.Encode
import DocFilter.Proofs.Json.ReadAs
import DocFilter.Proofs.Success

/-!
# What decoders accept

What a decoder turns into a result need not be written as that result is. There are a few
forms in which a value is accepted, and every way of building decoders adds nothing to
them: a relation of outlines and the values written for them that covers all forms covers
every decoder.
-/

namespace DocFilter.Decode

open Json (Outline Close Quoted Found)

/-! ## Forms -/

/-- The names that decoders look for: the tags of nodes and those of choices, type by type,
and the parts of records. -/
structure Grammar where
  nodes : List (List String)
  choices : List (List String)
  records : List (List String)

/-- Some member of an object has the name. -/
def Member (members : List (Quoted × Outline)) (name : String) (outline : Outline) : Prop :=
  ∃ key : Quoted, (key, outline) ∈ members ∧ key.read = .ok name

/-- What stands for a tag: the tag itself, an object with the tag as its only name and
nothing under it, or from a buffer the place of the tag among all tags. -/
inductive TagForm (tags : List String) : Mode → Outline → String → Prop where
  | word {mode : Mode} {outline : Outline} {tag : String}
      (found : outline.found = .ok (.string tag)) (listed : tag ∈ tags) :
      TagForm tags mode outline tag
  | entry {mode : Mode} {key : Quoted} {inner : Outline} {close : Close} {tag : String}
      (read : key.read = .ok tag) (listed : tag ∈ tags)
      (empty : inner.found = .ok .null ∨ ∃ close, inner = .object [] close) :
      TagForm tags mode (.object [(key, inner)] close) tag
  | index {outline : Outline} {place : Nat} {tag : String}
      (found : outline.found = .ok (.number (.whole place))) (listed : tags[place]? = some tag) :
      TagForm tags .buffered outline tag

/-- A relation of what stands in a text, or in a buffer, to the value that is written for it
covers all forms in which values are accepted. -/
structure Forms (grammar : Grammar) (Spells : Mode → Outline → Json → Prop) : Prop where
  scalar {mode : Mode} {outline : Outline} {found : Found} {value : Json} :
    outline.found = .ok found → found.Means value → Spells mode outline value
  items {mode inside : Mode} {items : List Outline} {close : Close} {values : List Json} :
    mode.enter = .ok inside → List.Forall₂ (Spells inside) items values →
      Spells mode (.list items close) (.list values)
  /-- A content that comes before its tag is taken into a buffer. -/
  nodeObject {mode inside : Mode} {members : List (Quoted × Outline)} {close : Close}
    {tags : List String} {word inner : Outline} {tag : String} {content : Json} :
    mode.enter = .ok inside → tags ∈ grammar.nodes →
      Member members "t" word → TagForm tags inside word tag → Member members "c" inner →
      Spells inside inner content ∨
        inside.buffer inner = .ok () ∧ Spells .buffered inner content →
      Spells mode (.object members close) (.node tag content)
  bareObject {mode inside : Mode} {members : List (Quoted × Outline)} {close : Close}
    {tags : List String} {word : Outline} {tag : String} :
    mode.enter = .ok inside → tags ∈ grammar.nodes →
      Member members "t" word → TagForm tags inside word tag →
      (∀ inner, Member members "c" inner → inner = .scalar .null) →
      Spells mode (.object members close) (.tagged tag)
  nodeItems {mode inside : Mode} {close : Close} {tags : List String} {word inner : Outline}
    {tag : String} {content : Json} :
    mode.enter = .ok inside → tags ∈ grammar.nodes → TagForm tags inside word tag →
      Spells inside inner content → Spells mode (.list [word, inner] close) (.node tag content)
  bareItems {mode inside : Mode} {close : Close} {tags : List String} {word : Outline}
    {tag : String} :
    mode.enter = .ok inside → tags ∈ grammar.nodes → TagForm tags inside word tag →
      Spells mode (.list [word, .scalar .null] close) (.tagged tag)
  choiceObject {mode inside : Mode} {members : List (Quoted × Outline)} {close : Close}
    {tags : List String} {word : Outline} {tag : String} :
    mode.enter = .ok inside → tags ∈ grammar.choices →
      Member members "t" word → TagForm tags inside word tag →
      Spells mode (.object members close) (.tagged tag)
  choiceItems {mode inside : Mode} {close : Close} {tags : List String} {word : Outline}
    {tag : String} :
    mode.enter = .ok inside → tags ∈ grammar.choices → TagForm tags inside word tag →
      Spells mode (.list [word] close) (.tagged tag)
  recordObject {mode inside : Mode} {members : List (Quoted × Outline)} {close : Close}
    {parts : List (String × Json)} :
    mode.enter = .ok inside → parts.map Prod.fst ∈ grammar.records →
      (∀ part ∈ parts, ∃ outline, Member members part.1 outline ∧
        Spells inside outline part.2) →
      Spells mode (.object members close) (.object parts)
  recordItems {mode inside : Mode} {items : List Outline} {close : Close}
    {parts : List (String × Json)} :
    mode.enter = .ok inside → parts.map Prod.fst ∈ grammar.records →
      List.Forall₂ (Spells inside) items (parts.map Prod.snd) →
      Spells mode (.list items close) (.object parts)
  mapObject {mode inside : Mode} {members : List (Quoted × Outline)} {close : Close}
    {entries : List (String × Json)} :
    mode.enter = .ok inside → Entries.Sorted entries →
      (∀ entry ∈ entries, ∃ outline, Member members entry.1 outline ∧
        Spells inside outline entry.2) →
      (∀ name outline, Member members name outline → name ∈ entries.map Prod.fst) →
      Spells mode (.object members close) (.object entries)

/-- Whatever a decoder turns into a result is related to what is written for the result. -/
def Takes {α : Type} (Spells : Mode → Outline → Json → Prop) (decoder : Decoder α)
    (encode : α → Json) : Prop :=
  ∀ (mode : Mode) (outline : Outline) (result : α), decoder mode outline = .ok result →
    Spells mode outline (encode result)

variable {α β : Type} {grammar : Grammar} {Spells : Mode → Outline → Json → Prop}

theorem eq_ok_of_ofFault {x : Except Json.Fault α} {result : α} (read : ofFault x = .ok result) :
    x = .ok result := by
  cases x with
  | error fault => cases read
  | ok value =>
      cases read
      rfl

theorem reject_ne_ok {wanted : Wanted} {outline : Outline} {result : α} :
    (reject wanted outline : Result α) ≠ .ok result := by
  intro accepted
  obtain ⟨found, -, accepted⟩ := exists_of_bind_eq_ok accepted
  cases accepted

theorem rejectInside_ne_ok {wanted : Wanted} {mode : Mode} {outline : Outline} {result : α} :
    (rejectInside wanted mode outline : Result α) ≠ .ok result := by
  intro accepted
  unfold rejectInside at accepted
  dsimp only at accepted
  split at accepted
  case h_1 | h_2 =>
      obtain ⟨_, _, rejected⟩ := exists_of_bind_eq_ok accepted
      exact reject_ne_ok rejected
  case h_3 => exact reject_ne_ok accepted

namespace Forms

/-! ## Values without parts -/

theorem string (forms : Forms grammar Spells) : Takes Spells Decode.string .string := by
  intro mode outline result decoded
  obtain ⟨found, read, decoded⟩ := exists_of_bind_eq_ok decoded
  cases found <;> cases decoded
  exact forms.scalar (eq_ok_of_ofFault read) (.string result)

theorem bool (forms : Forms grammar Spells) : Takes Spells Decode.bool .bool := by
  intro mode outline result decoded
  obtain ⟨found, read, decoded⟩ := exists_of_bind_eq_ok decoded
  cases found <;> cases decoded
  exact forms.scalar (eq_ok_of_ofFault read) (.bool result)

/-- An integer is between the bounds, and is written as it was. -/
theorem int_cases {least greatest : Int} {wanted : Wanted} {mode : Mode} {outline : Outline}
    {result : Int} (decoded : Decode.int least greatest wanted mode outline = .ok result) :
    outline.found = .ok (.number (.whole result)) ∧ least ≤ result ∧ result ≤ greatest := by
  obtain ⟨found, read, decoded⟩ := exists_of_bind_eq_ok decoded
  cases found with
  | number value =>
      cases value with
      | whole number =>
          change (if least ≤ number && number ≤ greatest then _ else _) = _ at decoded
          split at decoded
          case isTrue within =>
              cases decoded
              rw [Bool.and_eq_true, decide_eq_true_iff, decide_eq_true_iff] at within
              exact ⟨eq_ok_of_ofFault read, within⟩
          case isFalse => cases decoded
      | real number => cases decoded
  | _ => cases decoded

theorem int32 (forms : Forms grammar Spells) :
    Takes Spells Decode.int32 fun number => .int number.toInt := by
  intro mode outline result decoded
  obtain ⟨number, read, same⟩ := exists_of_bind_eq_ok decoded
  cases same
  obtain ⟨found, least, greatest⟩ := int_cases read
  show Spells mode outline (.int (Int32.ofInt number).toInt)
  rw [Int32.toInt_ofInt_of_le least (by omega)]
  exact forms.scalar found (.number _)

theorem nat32 (forms : Forms grammar Spells) :
    Takes Spells Decode.nat32 fun number => .int number.toNat := by
  intro mode outline result decoded
  obtain ⟨number, read, same⟩ := exists_of_bind_eq_ok decoded
  cases same
  obtain ⟨found, least, greatest⟩ := int_cases read
  have fits : number.toNat < 2 ^ 32 := by omega
  have kept : (number.toNat.toUInt32.toNat : Int) = number := by
    rw [Nat.toUInt32, UInt32.toNat_ofNat_of_lt' fits]
    omega
  show Spells mode outline (.int number.toNat.toUInt32.toNat)
  rw [kept]
  exact forms.scalar found (.number _)

theorem float64 (forms : Forms grammar Spells) : Takes Spells Decode.float64 .real := by
  intro mode outline result decoded
  obtain ⟨found, read, decoded⟩ := exists_of_bind_eq_ok decoded
  cases found with
  | number value =>
      cases value with
      | whole number =>
          cases decoded
          exact forms.scalar (eq_ok_of_ofFault read) (.rounded number)
      | real number =>
          cases decoded
          exact forms.scalar (eq_ok_of_ofFault read) (.number _)
  | _ => cases decoded

/-! ## Lists -/

theorem optional (forms : Forms grammar Spells) {decoder : Decoder α} {encode : α → Json}
    (takes : Takes Spells decoder encode) :
    Takes Spells (Decode.optional decoder) fun part => (part.map encode).getD .null := by
  intro mode outline result decoded
  unfold Decode.optional at decoded
  split at decoded
  case h_1 =>
      cases decoded
      exact forms.scalar rfl .null
  case h_2 =>
      obtain ⟨part, read, same⟩ := exists_of_bind_eq_ok decoded
      cases same
      exact takes _ _ _ read

theorem list (forms : Forms grammar Spells) {item : Decoder α} {encode : α → Json}
    (takes : Takes Spells item encode) :
    Takes Spells (Decode.list item) fun items => .list (items.map encode) := by
  intro mode outline result decoded
  unfold Decode.list at decoded
  split at decoded
  case h_1 items close =>
      obtain ⟨inside, entered, decoded⟩ := exists_of_bind_eq_ok decoded
      obtain ⟨values, each, decoded⟩ := exists_of_bind_eq_ok decoded
      obtain ⟨_, _, decoded⟩ := exists_of_bind_eq_ok decoded
      cases decoded
      refine forms.items entered ?_
      rw [List.forall₂_map_right_iff]
      exact (forall₂_of_mapM each).imp fun _ _ decoded => takes _ _ _ decoded
  case h_2 => exact absurd decoded reject_ne_ok

end Forms

/-- Whatever is turned into a result while the items of a list are decoded, one after the
other, is related to the values that are written for the result. -/
def TakesItems (Spells : Mode → Outline → Json → Prop) (parts : ItemsM α)
    (encodes : α → List Json → Prop) : Prop :=
  ∀ (mode : Mode) (wanted : Wanted) (state after : Items) (result : α),
    parts mode wanted state = .ok (result, after) →
      ∃ (taken : List Outline) (values : List Json), state.rest = taken ++ after.rest ∧
        List.Forall₂ (Spells mode) taken values ∧ encodes result values

/-- An item is decoded from the first outline that is left. -/
theorem item_cases {decoder : Decoder α} {mode : Mode} {wanted : Wanted} {state after : Items}
    {part : α} (decoded : item decoder mode wanted state = .ok (part, after)) :
    ∃ outline, state.rest = outline :: after.rest ∧ decoder mode outline = .ok part := by
  unfold item at decoded
  split at decoded
  case h_1 => split at decoded <;> cases decoded
  case h_2 outline remaining waiting =>
      obtain ⟨value, read, same⟩ := exists_of_bind_eq_ok decoded
      cases same
      exact ⟨outline, waiting, read⟩

namespace TakesItems

variable {encodes : β → List Json → Prop}

theorem pure {result : β} (written : encodes result []) :
    TakesItems Spells (Pure.pure result) encodes := by
  intro mode wanted state after result decoded
  cases decoded
  exact ⟨[], [], rfl, .nil, written⟩

theorem item {decoder : Decoder α} {encode : α → Json} {next : α → ItemsM β}
    (takes : Takes Spells decoder encode)
    (others : ∀ part, TakesItems Spells (next part) fun result values =>
      encodes result (encode part :: values)) :
    TakesItems Spells (Decode.item decoder >>= next) encodes := by
  intro mode wanted state after result decoded
  obtain ⟨⟨part, between⟩, first, decoded⟩ := exists_of_bind_eq_ok decoded
  obtain ⟨taken, values, rest, each, written⟩ := others part _ _ _ _ _ decoded
  obtain ⟨outline, waiting, read⟩ := item_cases first
  refine ⟨outline :: taken, encode part :: values, ?_, .cons (takes _ _ _ read) each, written⟩
  rw [waiting, rest, List.cons_append]

end TakesItems

theorem Items.rest_of_finish {mode : Mode} {state : Items} (finished : state.finish mode = .ok ()) :
    state.rest = [] := by
  unfold finish at finished
  split at finished
  case h_1 =>
      split at finished
      case h_1 => cases finished
      case h_2 nothing => exact nothing
  case h_2 =>
      split at finished
      case h_1 nothing => exact nothing
      case h_2 => cases finished

namespace Forms

/-- A list that stands for a record has an item for each part, and no others. -/
theorem decodeItems_cases {length : Wanted} {parts : ItemsM α} {encodes : α → List Json → Prop}
    (takes : TakesItems Spells parts encodes) {mode : Mode} {items : List Outline}
    {close : Close} {result : α}
    (decoded : decodeItems length parts mode items close = .ok result) :
    ∃ inside values, mode.enter = .ok inside ∧ List.Forall₂ (Spells inside) items values ∧
      encodes result values := by
  obtain ⟨inside, entered, decoded⟩ := exists_of_bind_eq_ok decoded
  obtain ⟨⟨value, after⟩, read, decoded⟩ := exists_of_bind_eq_ok decoded
  obtain ⟨_, finished, same⟩ := exists_of_bind_eq_ok decoded
  cases same
  obtain ⟨taken, values, whole, each, written⟩ := takes _ _ _ _ _ read
  have same : items = taken := by
    rw [← List.append_nil taken, ← Items.rest_of_finish finished]
    exact whole
  rw [same]
  exact ⟨inside, values, entered, each, written⟩

theorem positional (forms : Forms grammar Spells) {wanted length : Wanted} {parts : ItemsM α}
    {encode : α → Json}
    (takes : TakesItems Spells parts fun result values => encode result = .list values) :
    Takes Spells (Decode.positional wanted length parts) encode := by
  intro mode outline result decoded
  unfold Decode.positional at decoded
  split at decoded
  case h_1 items close =>
      obtain ⟨inside, values, entered, each, written⟩ := decodeItems_cases takes decoded
      rw [written]
      exact forms.items entered each
  case h_2 => exact absurd decoded reject_ne_ok

theorem tuple (forms : Forms grammar Spells) {size : Nat} {parts : ItemsM α} {encode : α → Json}
    (takes : TakesItems Spells parts fun result values => encode result = .list values) :
    Takes Spells (Decode.tuple size parts) encode :=
  forms.positional takes

theorem pair (forms : Forms grammar Spells) {left : Decoder α} {right : Decoder β}
    {encode : α → Json} {encode' : β → Json} (first : Takes Spells left encode)
    (second : Takes Spells right encode') :
    Takes Spells (Decode.pair left right) fun (a, b) => .list [encode a, encode' b] :=
  forms.tuple (.item first fun _ => .item second fun _ => .pure rfl)

end Forms

end DocFilter.Decode
