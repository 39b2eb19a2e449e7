import DocFilter.Proofs.Document.Forms
import DocFilter.Document.Text

/-!
# Documents that were read

A text is read within a limit of containers that are open at a time. No form in which a
value is accepted opens fewer of them than the value that is written for it, so a document
that was read is never written deeper than the limit. Its metadata are in order.
-/

namespace DocFilter

open Decode (Decoder Forms Grammar Member Mode Payload Takes)
open Json (Close Outline Quoted)

/-! ## Depth -/

/-- What is met in a mode has room for so many containers: those that may be opened directly
from the text, or any number that it was checked for. -/
def Decode.Mode.Bounds : Mode → Outline → Nat → Prop
  | .direct room, _, bound => bound = room
  | .buffered, outline, bound => outline.check bound = .ok ()

namespace Decode.Mode.Bounds

variable {mode inside : Mode} {bound : Nat}

theorem checkItems_forall {items : List Outline}
    (checked : Outline.checkItems bound items = .ok ()) :
    ∀ item ∈ items, item.check bound = .ok () := by
  induction items with
  | nil => exact List.forall_mem_nil _
  | cons item rest ih =>
      obtain ⟨_, first, others⟩ := exists_of_bind_eq_ok checked
      exact List.forall_mem_cons.mpr ⟨first, ih others⟩

theorem checkMembers_forall {members : List (Quoted × Outline)}
    (checked : Outline.checkMembers bound members = .ok ()) :
    ∀ member ∈ members, member.2.check bound = .ok () := by
  induction members with
  | nil => exact List.forall_mem_nil _
  | cons member rest ih =>
      obtain ⟨_, _, checked⟩ := exists_of_bind_eq_ok checked
      obtain ⟨_, first, others⟩ := exists_of_bind_eq_ok checked
      exact List.forall_mem_cons.mpr ⟨first, ih others⟩

/-- A list that is opened takes one container, and leaves room for its items. -/
theorem items {items : List Outline} {close : Close} (entered : mode.enter = .ok inside)
    (bounds : mode.Bounds (.list items close) bound) :
    ∃ inner, bound = inner + 1 ∧ ∀ item ∈ items, inside.Bounds item inner := by
  cases mode with
  | direct room =>
      cases room with
      | zero => cases entered
      | succ inner =>
          cases entered
          exact ⟨inner, bounds, fun _ _ => rfl⟩
  | buffered =>
      cases entered
      cases bound with
      | zero => cases bounds
      | succ inner =>
          obtain ⟨_, checked, -⟩ := exists_of_bind_eq_ok bounds
          exact ⟨inner, rfl, checkItems_forall checked⟩

/-- An object that is opened takes one container, and leaves room for its members. -/
theorem members {members : List (Quoted × Outline)} {close : Close}
    (entered : mode.enter = .ok inside) (bounds : mode.Bounds (.object members close) bound) :
    ∃ inner, bound = inner + 1 ∧
      ∀ name outline, Member members name outline → inside.Bounds outline inner := by
  cases mode with
  | direct room =>
      cases room with
      | zero => cases entered
      | succ inner =>
          cases entered
          exact ⟨inner, bounds, fun _ _ _ => rfl⟩
  | buffered =>
      cases entered
      cases bound with
      | zero => cases bounds
      | succ inner =>
          obtain ⟨_, checked, -⟩ := exists_of_bind_eq_ok bounds
          refine ⟨inner, rfl, ?_⟩
          rintro name outline ⟨key, member, -⟩
          exact checkMembers_forall checked (key, outline) member

/-- What is taken into a buffer was checked for the room there was. -/
theorem buffered {outline : Outline} (bounds : mode.Bounds outline bound)
    (taken : mode.buffer outline = .ok ()) : Mode.buffered.Bounds outline bound := by
  cases mode with
  | direct room =>
      obtain rfl : bound = room := bounds
      exact eq_ok_of_ofFault taken
  | buffered => exact bounds

end Decode.Mode.Bounds

/-- The value that is written is no deeper than what is met. -/
def Json.NoDeeper (mode : Mode) (outline : Outline) (value : Json) : Prop :=
  ∀ bound, mode.Bounds outline bound → value.depth ≤ bound

namespace Json

theorem depth_of_means {found : Found} {value : Json} (means : found.Means value) :
    value.depth = 0 := by
  cases means <;> rfl

theorem depth_node (tag : String) (content : Json) :
    (node tag content).depth = content.depth + 1 := by
  simp only [node, depth, memberDepths, Nat.zero_max, Nat.max_zero]

theorem depth_list_le {items : List Json} {bound : Nat}
    (each : ∀ item ∈ items, item.depth ≤ bound) : (list items).depth ≤ bound + 1 :=
  Nat.succ_le_succ (depths_le_iff.mpr each)

theorem depth_object_le {members : List (String × Json)} {bound : Nat}
    (each : ∀ member ∈ members, member.2.depth ≤ bound) : (object members).depth ≤ bound + 1 :=
  Nat.succ_le_succ (memberDepths_le_iff.mpr each)

theorem depth_le_of_items {mode : Mode} {items : List Outline} {values : List Json} {bound : Nat}
    (each : List.Forall₂ (NoDeeper mode) items values)
    (room : ∀ item ∈ items, mode.Bounds item bound) : ∀ value ∈ values, value.depth ≤ bound := by
  induction each with
  | nil => exact List.forall_mem_nil _
  | cons spells _ ih =>
      obtain ⟨first, others⟩ := List.forall_mem_cons.mp room
      exact List.forall_mem_cons.mpr ⟨spells bound first, ih others⟩

/-- No form in which a value is accepted is shallower than the value. -/
theorem noDeeper_forms (grammar : Grammar) : Forms grammar NoDeeper where
  scalar _ means bound _ := by
    rw [depth_of_means means]
    exact Nat.zero_le bound
  items entered each bound bounds := by
    obtain ⟨inner, rfl, room⟩ := bounds.items entered
    exact depth_list_le (depth_le_of_items each room)
  nodeObject entered _ _ _ member filled bound bounds := by
    obtain ⟨inner, rfl, room⟩ := bounds.members entered
    have inside := room _ _ member
    rw [depth_node]
    refine Nat.succ_le_succ ?_
    rcases filled with direct | ⟨taken, later⟩
    · exact direct inner inside
    · exact later inner (inside.buffered taken)
  bareObject entered _ _ _ _ bound bounds := by
    obtain ⟨inner, rfl, -⟩ := bounds.members entered
    exact Nat.succ_le_succ (Nat.zero_le inner)
  nodeItems entered _ _ filled bound bounds := by
    obtain ⟨inner, rfl, room⟩ := bounds.items entered
    rw [depth_node]
    exact Nat.succ_le_succ (filled inner (room _ (by simp)))
  bareItems entered _ _ bound bounds := by
    obtain ⟨inner, rfl, -⟩ := bounds.items entered
    exact Nat.succ_le_succ (Nat.zero_le inner)
  choiceObject entered _ _ _ bound bounds := by
    obtain ⟨inner, rfl, -⟩ := bounds.members entered
    exact Nat.succ_le_succ (Nat.zero_le inner)
  choiceItems entered _ _ bound bounds := by
    obtain ⟨inner, rfl, -⟩ := bounds.items entered
    exact Nat.succ_le_succ (Nat.zero_le inner)
  recordObject entered _ sources bound bounds := by
    obtain ⟨inner, rfl, room⟩ := bounds.members entered
    refine depth_object_le fun part member => ?_
    obtain ⟨outline, named, spells⟩ := sources part member
    exact spells inner (room _ _ named)
  recordItems entered _ each bound bounds := by
    obtain ⟨inner, rfl, room⟩ := bounds.items entered
    exact depth_object_le (List.forall_mem_map.mp (depth_le_of_items each room))
  mapObject entered _ sources _ bound bounds := by
    obtain ⟨inner, rfl, room⟩ := bounds.members entered
    refine depth_object_le fun entry member => ?_
    obtain ⟨outline, named, spells⟩ := sources entry member
    exact spells inner (room _ _ named)

end Json

/-! ## Order -/

theorem Decode.forall_of_list {α : Type} {item : Decoder α} {holds : α → Prop}
    (each : ∀ mode outline result, item mode outline = .ok result → holds result) {mode : Mode}
    {outline : Outline} {results : List α} (decoded : list item mode outline = .ok results) :
    ∀ result ∈ results, holds result := by
  unfold list at decoded
  split at decoded
  case h_1 items close =>
      obtain ⟨inside, _, decoded⟩ := exists_of_bind_eq_ok decoded
      obtain ⟨read, mapped, decoded⟩ := exists_of_bind_eq_ok decoded
      obtain ⟨_, _, same⟩ := exists_of_bind_eq_ok decoded
      cases same
      exact forall_of_forall₂ (each inside) (forall₂_of_mapM mapped)
  case h_2 => exact absurd decoded reject_ne_ok

theorem Decode.forall_of_map {α : Type} {entry : Decoder α} {holds : α → Prop}
    (each : ∀ mode outline result, entry mode outline = .ok result → holds result) {mode : Mode}
    {outline : Outline} {results : List (String × α)}
    (decoded : map entry mode outline = .ok results) :
    Entries.Sorted results ∧ ∀ pair ∈ results, holds pair.2 := by
  obtain ⟨inside, members, close, -, -, sorted, sources, -⟩ := map_cases decoded
  refine ⟨sorted, fun pair member => ?_⟩
  obtain ⟨outline, -, read⟩ := sources pair member
  exact each inside outline pair.2 read

/-- A metadata value of each kind is in order if the values inside of it are. -/
theorem MetaKind.sorted_of_decode {value : Decoder MetaValue}
    (values : ∀ mode outline result, value mode outline = .ok result → result.Sorted)
    (kind : MetaKind) {type : String} {mode : Mode} {outline : Outline} {result : MetaValue}
    (decoded : (kind.payload value).decode type mode outline = .ok result) : result.Sorted := by
  cases kind with
  | map =>
      obtain ⟨entries, read, rfl⟩ := exists_of_map_eq_ok decoded
      obtain ⟨increasing, each⟩ := Decode.forall_of_map values read
      exact .map increasing each
  | list =>
      obtain ⟨items, read, rfl⟩ := exists_of_map_eq_ok decoded
      exact .list (Decode.forall_of_list values read)
  | bool =>
      obtain ⟨truth, -, rfl⟩ := exists_of_map_eq_ok decoded
      exact .bool truth
  | string =>
      obtain ⟨text, -, rfl⟩ := exists_of_map_eq_ok decoded
      exact .string text
  | inlines =>
      obtain ⟨content, -, rfl⟩ := exists_of_map_eq_ok decoded
      exact .inlines content
  | blocks =>
      obtain ⟨content, -, rfl⟩ := exists_of_map_eq_ok decoded
      exact .blocks content

theorem MetaValue.sorted_of_decoderAt (level : Nat) :
    ∀ mode outline result, decoderAt level mode outline = .ok result → result.Sorted := by
  induction level with
  | zero => rintro mode outline result ⟨⟩
  | succ level ih =>
      intro mode outline result decoded
      obtain ⟨inside, -, form⟩ := Decode.node_cases decoded
      cases form with
      | object _ _ _ _ decoded =>
          rcases decoded with direct | ⟨-, later⟩
          · exact MetaKind.sorted_of_decode ih _ direct
          · exact MetaKind.sorted_of_decode ih _ later
      | @alone _ _ _ kind _ _ _ _ absent => cases kind <;> cases absent
      | items _ decoded => exact MetaKind.sorted_of_decode ih _ decoded

/-- What is read as metadata is in order. -/
def Metadata.Read (entries : Metadata) : Prop :=
  Entries.Sorted entries ∧ ∀ entry ∈ entries, entry.2.Sorted

theorem Metadata.read_of_decoder {mode : Mode} {outline : Outline} {entries : Metadata}
    (decoded : decoder mode outline = .ok entries) : entries.Read :=
  Decode.forall_of_map (MetaValue.sorted_of_decoderAt nodeLevels) decoded

def DocumentDraft.Sorted (draft : DocumentDraft) : Prop :=
  ∀ entries, draft.metadata = some entries → entries.Read

theorem DocumentDraft.sorted_of_accept {mode : Mode} {draft next : DocumentDraft} {name : String}
    {value : Outline} (sorted : draft.Sorted) (accepted : draft.accept mode name value = .ok next) :
    next.Sorted := by
  unfold accept at accepted
  split at accepted
  case h_2 =>
      obtain ⟨set, once, same⟩ := exists_of_bind_eq_ok accepted
      obtain ⟨-, entries, decoded, rfl⟩ := Decode.setOnce_cases once
      cases same
      intro held same
      cases same
      exact Metadata.read_of_decoder decoded
  case h_1 | h_3 =>
      obtain ⟨set, once, same⟩ := exists_of_bind_eq_ok accepted
      cases same
      exact sorted

/-- The metadata of a document that was read are in order. -/
theorem Document.sorted_of_decoder {mode : Mode} {outline : Outline} {document : Document}
    (decoded : decoder mode outline = .ok document) : document.Sorted := by
  suffices read : document.metadata.Read from ⟨read.1, read.2⟩
  have fresh : DocumentDraft.Sorted {} := by
    rintro entries ⟨⟩
  rcases Decode.record_cases DocumentDraft.Sorted fresh
    (fun _ _ _ _ _ sorted _ => DocumentDraft.sorted_of_accept sorted) decoded with
    ⟨inside, length, state, after, read⟩ | ⟨draft, sorted, finished⟩
  · obtain ⟨_, -, read⟩ := exists_of_bind_eq_ok read
    obtain ⟨⟨entries, between⟩, metadata, read⟩ := exists_of_bind_eq_ok read
    obtain ⟨_, -, same⟩ := exists_of_bind_eq_ok read
    cases same
    obtain ⟨outline, -, decoded⟩ := Decode.item_cases metadata
    exact Metadata.read_of_decoder decoded
  · obtain ⟨_, -, finished⟩ := exists_of_bind_eq_ok finished
    obtain ⟨entries, metadata, finished⟩ := exists_of_bind_eq_ok finished
    obtain ⟨_, -, same⟩ := exists_of_bind_eq_ok finished
    cases same
    exact sorted entries (Decode.required_cases metadata)

/-! ## Whole texts -/

/-- What is read is all of a text that was not interrupted. -/
theorem Decode.run_cases {α : Type} {decoder : Decoder α} {source : Text.Source} {result : α}
    (read : run decoder source = .ok result) :
    ∃ outline, Json.Scan.ofSource source = ⟨outline, []⟩ ∧ source.ending = .complete ∧
      decoder (.direct 127) outline = .ok result := by
  obtain ⟨value, decoded, finished⟩ := exists_of_bind_eq_ok read
  generalize scanned : Json.Scan.ofSource source = scan at *
  obtain ⟨outline, rest⟩ := scan
  split at finished
  case h_1 nothing whole =>
      cases finished
      exact ⟨outline, congrArg (Json.Scan.mk outline) nothing, whole, decoded⟩
  case h_2 => cases finished
  case h_3 => cases finished

theorem Document.decoder_of_ofSource {source : Text.Source} {document : Document}
    (read : ofSource source = .ok document) :
    ∃ outline, Json.Scan.ofSource source = ⟨outline, []⟩ ∧
      decoder (.direct 127) outline = .ok document := by
  obtain ⟨outline, scanned, -, decoded⟩ := Decode.run_cases (eq_ok_of_mapError_eq_ok read)
  exact ⟨outline, scanned, decoded⟩

theorem Document.sorted_of_ofSource {source : Text.Source} {document : Document}
    (read : ofSource source = .ok document) : document.Sorted := by
  obtain ⟨outline, -, decoded⟩ := decoder_of_ofSource read
  exact sorted_of_decoder decoded

/-- A document that was read is written with no more containers open at a time than a text
may open. -/
theorem Document.depth_le_of_ofSource {source : Text.Source} {document : Document}
    (read : ofSource source = .ok document) : document.toJson.depth ≤ 127 := by
  obtain ⟨outline, -, decoded⟩ := decoder_of_ofSource read
  exact Document.takes (Json.noDeeper_forms grammar) _ _ _ decoded 127 rfl

end DocFilter
