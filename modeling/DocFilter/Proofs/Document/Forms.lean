import DocFilter.Proofs.Decode.Members
import DocFilter.Proofs.Document.Codec

/-!
# What decoders of documents accept

Documents are accepted in the forms that there are for values, nodes and records, and in no
others. Inlines and blocks are treated by induction on the level at which their decoders
are cut off.
-/

namespace DocFilter

open Decode (Decoder Forms Grammar ItemsM Mode Payload Takes TakesItems Vocabulary)
open Json (Outline)

/-- The names of the types that documents are made of. -/
def Document.grammar : Grammar where
  nodes := [InlineKind.all.map InlineKind.tag, BlockKind.all.map BlockKind.tag,
    MetaKind.all.map MetaKind.tag, ["ColWidth", "ColWidthDefault"]]
  choices := [QuoteType.all.map QuoteType.tag, MathType.all.map MathType.tag,
    CitationMode.all.map CitationMode.tag, ListStyle.all.map ListStyle.tag,
    ListDelimiter.all.map ListDelimiter.tag, Alignment.all.map Alignment.tag]
  records := [["citationId", "citationPrefix", "citationSuffix", "citationMode",
      "citationNoteNum", "citationHash"], ["pandoc-api-version", "meta", "blocks"]]

section

variable {α β κ : Type} {grammar : Grammar} {Spells : Mode → Outline → Json → Prop}

/-! ## Vocabularies and payloads -/

theorem names_vocabularyOf (type : String) (all : List κ) (tag : κ → String) :
    (vocabularyOf type all tag).names = all.map tag :=
  List.map_map

theorem tag_of_mem_vocabularyOf {type : String} {all : List κ} {tag : κ → String} :
    ∀ entry ∈ (vocabularyOf type all tag).entries, tag entry.2 = entry.1 := by
  intro entry member
  obtain ⟨kind, -, rfl⟩ := List.mem_map.mp member
  rfl

namespace Decode

theorem Forms.choiceOf (forms : Forms grammar Spells) {type : String} {all : List κ}
    {tag : κ → String} (listed : all.map tag ∈ grammar.choices) :
    Takes Spells (Decode.choice (vocabularyOf type all tag)) fun kind => .tagged (tag kind) :=
  forms.choice (names_vocabularyOf type all tag ▸ listed) tag_of_mem_vocabularyOf

theorem Forms.nodeOf (forms : Forms grammar Spells) {type : String} {all : List κ}
    {tag : κ → String} {payload : κ → Payload α} {encode : α → Json}
    (listed : all.map tag ∈ grammar.nodes)
    (takes : ∀ kind, (payload kind).Takes Spells (tag kind) encode) :
    Takes Spells (Decode.node (vocabularyOf type all tag) payload) encode := by
  refine forms.node (names_vocabularyOf type all tag ▸ listed) fun entry member => ?_
  rw [← tag_of_mem_vocabularyOf entry member]
  exact takes entry.2

theorem Payload.Takes.onePart {decoder : Decoder α} {encode : α → Json} {tag : String}
    {build : α → β} {written : β → Json} (takes : Decode.Takes Spells decoder encode)
    (same : ∀ part, written (build part) = .node tag (encode part)) :
    (onePart build decoder).Takes Spells tag written := by
  intro mode outline result decoded
  obtain ⟨part, read, rfl⟩ := exists_of_map_eq_ok decoded
  exact ⟨encode part, same part, takes _ _ _ read⟩

/-- The content of a kind with several parts is the list of its parts. -/
theorem Forms.parts (forms : Forms grammar Spells) {type kind tag : String} {size : Nat}
    {items : ItemsM α} {written : α → Json}
    (takes : TakesItems Spells items fun result values =>
      written result = .node tag (.list values)) :
    (Decode.parts type kind size items).Takes Spells tag written := by
  intro mode outline result decoded
  unfold Decode.positional at decoded
  split at decoded
  case h_1 waiting close =>
      obtain ⟨inside, values, entered, each, same⟩ := decodeItems_cases takes decoded
      exact ⟨.list values, same, forms.items entered each⟩
  case h_2 => exact absurd decoded reject_ne_ok

end Decode

end

/-! ## Records without nodes -/

section

variable {Spells : Mode → Outline → Json → Prop} (forms : Forms Document.grammar Spells)

include forms

theorem QuoteType.takes : Takes Spells decoder fun type => .tagged type.tag :=
  forms.choiceOf (by simp [Document.grammar])

theorem MathType.takes : Takes Spells decoder fun type => .tagged type.tag :=
  forms.choiceOf (by simp [Document.grammar])

theorem CitationMode.takes : Takes Spells decoder fun mode => .tagged mode.tag :=
  forms.choiceOf (by simp [Document.grammar])

theorem ListStyle.takes : Takes Spells decoder fun style => .tagged style.tag :=
  forms.choiceOf (by simp [Document.grammar])

theorem ListDelimiter.takes : Takes Spells decoder fun delimiter => .tagged delimiter.tag :=
  forms.choiceOf (by simp [Document.grammar])

theorem Alignment.takes : Takes Spells decoder fun alignment => .tagged alignment.tag :=
  forms.choiceOf (by simp [Document.grammar])

theorem Attr.takes : Takes Spells decoder toJson :=
  forms.tuple (.item forms.string fun _ => .item (forms.list forms.string) fun _ =>
    .item (forms.list (forms.pair forms.string forms.string)) fun _ => .pure rfl)

theorem Target.takes : Takes Spells decoder toJson :=
  forms.tuple (.item forms.string fun _ => .item forms.string fun _ => .pure rfl)

theorem ListAttributes.takes : Takes Spells decoder toJson :=
  forms.tuple (.item forms.int32 fun _ => .item (ListStyle.takes forms) fun _ =>
    .item (ListDelimiter.takes forms) fun _ => .pure rfl)

theorem ColWidth.takes : Takes Spells decoder toJson := by
  refine forms.node (by simp [Document.grammar, Vocabulary.names]) ?_
  intro entry member
  simp only [List.mem_cons, List.not_mem_nil, or_false] at member
  rcases member with rfl | rfl
  · intro mode outline result decoded
    obtain ⟨fraction, read, same⟩ := exists_of_bind_eq_ok decoded
    cases same
    exact ⟨.real fraction, rfl, forms.float64 _ _ _ read⟩
  · rfl

theorem ColSpec.takes : Takes Spells decoder toJson :=
  forms.tuple (.item (Alignment.takes forms) fun _ => .item (ColWidth.takes forms) fun _ =>
    .pure rfl)

end

/-! ## Records around inlines and blocks -/

section

variable {Spells : Mode → Outline → Json → Prop} (forms : Forms Document.grammar Spells)
  {inline : Decoder Inline} {block : Decoder Block}
  (inlines : Takes Spells inline Inline.toJson) (blocks : Takes Spells block Block.toJson)

include forms

section

include inlines

theorem Inline.takes_list :
    Takes Spells (Decode.list inline) fun content => .list (toJsons content) := by
  simp only [toJsons_eq]
  exact forms.list inlines

theorem Inline.takes_lines :
    Takes Spells (Decode.list (Decode.list inline)) fun lines => .list (linesToJson lines) := by
  simp only [linesToJson_eq]
  exact forms.list (takes_list forms inlines)

/-- The parts of a citation that have been met, as members. -/
def CitationDraft.slots (draft : CitationDraft) : List (Option (String × Json)) := [
  draft.key.map fun key => ("citationId", .string key),
  draft.before.map fun before => ("citationPrefix", .list (Inline.toJsons before)),
  draft.after.map fun after => ("citationSuffix", .list (Inline.toJsons after)),
  draft.mode.map fun mode => ("citationMode", .tagged mode.tag),
  draft.noteNumber.map fun number => ("citationNoteNum", .int number.toInt),
  draft.hash.map fun hash => ("citationHash", .int hash.toInt)]

def Citation.members (citation : Citation) : List (String × Json) := [
  ("citationId", .string citation.key),
  ("citationPrefix", .list (Inline.toJsons citation.before)),
  ("citationSuffix", .list (Inline.toJsons citation.after)),
  ("citationMode", .tagged citation.mode.tag),
  ("citationNoteNum", .int citation.noteNumber.toInt),
  ("citationHash", .int citation.hash.toInt)]

omit forms inlines in
theorem Citation.toJson_eq (citation : Citation) : citation.toJson = .object citation.members := by
  cases citation
  rfl

theorem CitationDraft.accept_cases {mode : Mode} {draft next : CitationDraft} {name : String}
    {value : Outline} (listed : name ∈ ["citationId", "citationPrefix", "citationSuffix",
      "citationMode", "citationNoteNum", "citationHash"])
    (accepted : draft.accept inline mode name value = .ok next) :
    ∃ place content, next.slots = draft.slots.set place (some (name, content)) ∧
      Spells mode value content := by
  simp only [List.mem_cons, List.not_mem_nil, or_false] at listed
  unfold accept at accepted
  rcases listed with rfl | rfl | rfl | rfl | rfl | rfl
  all_goals
    obtain ⟨set, once, same⟩ := exists_of_bind_eq_ok accepted
    obtain ⟨-, part, decoded, rfl⟩ := Decode.setOnce_cases once
    cases same
  · exact ⟨0, _, rfl, forms.string _ _ _ decoded⟩
  · exact ⟨1, _, rfl, Inline.takes_list forms inlines _ _ _ decoded⟩
  · exact ⟨2, _, rfl, Inline.takes_list forms inlines _ _ _ decoded⟩
  · exact ⟨3, _, rfl, CitationMode.takes forms _ _ _ decoded⟩
  · exact ⟨4, _, rfl, forms.int32 _ _ _ decoded⟩
  · exact ⟨5, _, rfl, forms.int32 _ _ _ decoded⟩

omit forms inlines in
theorem CitationDraft.finish_cases {draft : CitationDraft} {citation : Citation}
    (finished : draft.finish = .ok citation) : draft.slots = citation.members.map some := by
  obtain ⟨_, key, finished⟩ := exists_of_bind_eq_ok finished
  obtain ⟨_, before, finished⟩ := exists_of_bind_eq_ok finished
  obtain ⟨_, after, finished⟩ := exists_of_bind_eq_ok finished
  obtain ⟨_, mode, finished⟩ := exists_of_bind_eq_ok finished
  obtain ⟨_, noteNumber, finished⟩ := exists_of_bind_eq_ok finished
  obtain ⟨_, hash, finished⟩ := exists_of_bind_eq_ok finished
  cases finished
  rw [slots, Decode.required_cases key, Decode.required_cases before,
    Decode.required_cases after, Decode.required_cases mode, Decode.required_cases noteNumber,
    Decode.required_cases hash]
  rfl

theorem Citation.takes : Takes Spells (decoder inline) toJson := by
  rw [show toJson = fun citation => .object citation.members from funext toJson_eq]
  refine forms.record (by simp [Document.grammar]) (fun _ => rfl) CitationDraft.slots (by decide)
    (fun _ _ _ _ _ => CitationDraft.accept_cases forms inlines)
    (fun _ _ => CitationDraft.finish_cases) ?_
  exact .item forms.string fun _ => .item (Inline.takes_list forms inlines) fun _ =>
    .item (Inline.takes_list forms inlines) fun _ => .item (CitationMode.takes forms) fun _ =>
      .item forms.int32 fun _ => .item forms.int32 fun _ => .pure rfl

end

section

include blocks

theorem Block.takes_list :
    Takes Spells (Decode.list block) fun content => .list (toJsons content) := by
  simp only [toJsons_eq]
  exact forms.list blocks

theorem Block.takes_items :
    Takes Spells (Decode.list (Decode.list block)) fun items => .list (itemsToJson items) := by
  simp only [itemsToJson_eq]
  exact forms.list (takes_list forms blocks)

theorem Cell.takes : Takes Spells (decoder block) toJson :=
  forms.tuple (.item (Attr.takes forms) fun _ => .item (Alignment.takes forms) fun _ =>
    .item forms.int32 fun _ => .item forms.int32 fun _ =>
      .item (Block.takes_list forms blocks) fun _ => .pure rfl)

theorem Row.takes : Takes Spells (decoder block) toJson := by
  refine forms.tuple (.item (Attr.takes forms) fun _ =>
    .item (forms.list (Cell.takes forms blocks)) fun _ => .pure ?_)
  rw [toJson, Cell.toJsons_eq]

theorem Row.takes_list :
    Takes Spells (Decode.list (decoder block)) fun rows => .list (toJsons rows) := by
  simp only [toJsons_eq]
  exact forms.list (takes forms blocks)

theorem TableHead.takes : Takes Spells (decoder block) toJson :=
  forms.tuple (.item (Attr.takes forms) fun _ => .item (Row.takes_list forms blocks) fun _ =>
    .pure rfl)

theorem TableBody.takes : Takes Spells (decoder block) toJson :=
  forms.tuple (.item (Attr.takes forms) fun _ => .item forms.int32 fun _ =>
    .item (Row.takes_list forms blocks) fun _ => .item (Row.takes_list forms blocks) fun _ =>
      .pure rfl)

theorem TableFoot.takes : Takes Spells (decoder block) toJson :=
  forms.tuple (.item (Attr.takes forms) fun _ => .item (Row.takes_list forms blocks) fun _ =>
    .pure rfl)

end

section

include inlines blocks

theorem Caption.takes : Takes Spells (decoder inline block) toJson := by
  refine forms.tuple (.item (forms.optional (Inline.takes_list forms inlines)) fun short =>
    .item (Block.takes_list forms blocks) fun long => .pure ?_)
  cases short <;> rfl

theorem Table.takes : Takes Spells (decoder inline block) toJson := by
  refine forms.tuple (.item (Attr.takes forms) fun _ =>
    .item (Caption.takes forms inlines blocks) fun _ =>
      .item (forms.list (ColSpec.takes forms)) fun _ =>
        .item (TableHead.takes forms blocks) fun _ =>
          .item (forms.list (TableBody.takes forms blocks)) fun _ =>
            .item (TableFoot.takes forms blocks) fun _ => .pure ?_)
  rw [Table.toJson, TableBody.toJsons_eq]

theorem Block.takes_definitions :
    Takes Spells
      (Decode.list (Decode.pair (Decode.list inline) (Decode.list (Decode.list block))))
      fun items => .list (definitionsToJson items) := by
  simp only [definitionsToJson_eq]
  exact forms.list (forms.pair (Inline.takes_list forms inlines) (takes_items forms blocks))

/-! ## Nodes -/

theorem InlineKind.takes (kind : InlineKind) :
    (kind.payload inline block).Takes Spells kind.tag Inline.toJson := by
  have content := Inline.takes_list forms inlines
  cases kind with
  | str => exact .onePart forms.string fun _ => rfl
  | emph | underline | strong | strikeout | superscript | subscript | smallCaps =>
      exact .onePart content fun _ => rfl
  | quoted =>
      exact forms.parts (.item (QuoteType.takes forms) fun _ => .item content fun _ => .pure rfl)
  | cite =>
      refine forms.parts (.item (forms.list (Citation.takes forms inlines)) fun _ =>
        .item content fun _ => .pure ?_)
      rw [Inline.toJson, Citation.toJsons_eq]
      rfl
  | code =>
      exact forms.parts (.item (Attr.takes forms) fun _ => .item forms.string fun _ => .pure rfl)
  | space | softBreak | lineBreak => rfl
  | math =>
      exact forms.parts (.item (MathType.takes forms) fun _ => .item forms.string fun _ =>
        .pure rfl)
  | raw => exact forms.parts (.item forms.string fun _ => .item forms.string fun _ => .pure rfl)
  | link | image =>
      exact forms.parts (.item (Attr.takes forms) fun _ => .item content fun _ =>
        .item (Target.takes forms) fun _ => .pure rfl)
  | note => exact .onePart (Block.takes_list forms blocks) fun _ => rfl
  | span =>
      exact forms.parts (.item (Attr.takes forms) fun _ => .item content fun _ => .pure rfl)

theorem BlockKind.takes (kind : BlockKind) :
    (kind.payload inline block).Takes Spells kind.tag Block.toJson := by
  have content := Inline.takes_list forms inlines
  have nested := Block.takes_list forms blocks
  cases kind with
  | plain | para => exact .onePart content fun _ => rfl
  | lineBlock => exact .onePart (Inline.takes_lines forms inlines) fun _ => rfl
  | code =>
      exact forms.parts (.item (Attr.takes forms) fun _ => .item forms.string fun _ => .pure rfl)
  | raw => exact forms.parts (.item forms.string fun _ => .item forms.string fun _ => .pure rfl)
  | blockQuote => exact .onePart nested fun _ => rfl
  | orderedList =>
      exact forms.parts (.item (ListAttributes.takes forms) fun _ =>
        .item (Block.takes_items forms blocks) fun _ => .pure rfl)
  | bulletList => exact .onePart (Block.takes_items forms blocks) fun _ => rfl
  | definitionList =>
      exact .onePart (Block.takes_definitions forms inlines blocks) fun _ => rfl
  | header =>
      exact forms.parts (.item forms.int32 fun _ => .item (Attr.takes forms) fun _ =>
        .item content fun _ => .pure rfl)
  | horizontalRule => rfl
  | table => exact .onePart (Table.takes forms inlines blocks) fun _ => rfl
  | figure =>
      exact forms.parts (.item (Attr.takes forms) fun _ =>
        .item (Caption.takes forms inlines blocks) fun _ => .item nested fun _ => .pure rfl)
  | div => exact forms.parts (.item (Attr.takes forms) fun _ => .item nested fun _ => .pure rfl)

end

end

section

variable {Spells : Mode → Outline → Json → Prop} (forms : Forms Document.grammar Spells)

include forms

/-- Inlines and blocks are accepted in these forms up to every level. -/
theorem takes_decoderAt (level : Nat) :
    Takes Spells (Inline.decoderAt level) Inline.toJson ∧
      Takes Spells (Block.decoderAt level) Block.toJson := by
  induction level with
  | zero =>
      constructor
      · rintro mode outline result ⟨⟩
      · rintro mode outline result ⟨⟩
  | succ level ih =>
      obtain ⟨inlines, blocks⟩ := ih
      constructor
      · exact forms.nodeOf (by simp [Document.grammar]) (InlineKind.takes forms inlines blocks)
      · exact forms.nodeOf (by simp [Document.grammar]) (BlockKind.takes forms inlines blocks)

theorem Inline.takes : Takes Spells decoder toJson := (takes_decoderAt forms nodeLevels).1

theorem Block.takes : Takes Spells decoder toJson := (takes_decoderAt forms nodeLevels).2

/-! ## Metadata and documents -/

theorem MetaKind.takes {value : Decoder MetaValue} (values : Takes Spells value MetaValue.toJson)
    (kind : MetaKind) : (kind.payload value).Takes Spells kind.tag MetaValue.toJson := by
  cases kind with
  | map =>
      refine .onePart (forms.map values) fun entries => ?_
      rw [MetaValue.toJson, MetaValue.entriesToJson_eq]
      rfl
  | list =>
      refine .onePart (forms.list values) fun items => ?_
      rw [MetaValue.toJson, MetaValue.toJsons_eq]
      rfl
  | bool => exact .onePart forms.bool fun _ => rfl
  | string => exact .onePart forms.string fun _ => rfl
  | inlines => exact .onePart (Inline.takes_list forms (Inline.takes forms)) fun _ => rfl
  | blocks => exact .onePart (Block.takes_list forms (Block.takes forms)) fun _ => rfl

theorem MetaValue.takes_decoderAt (level : Nat) : Takes Spells (decoderAt level) toJson := by
  induction level with
  | zero => rintro mode outline result ⟨⟩
  | succ level ih => exact forms.nodeOf (by simp [Document.grammar]) (MetaKind.takes forms ih)

theorem Metadata.takes :
    Takes Spells decoder fun entries => .object (MetaValue.entriesToJson entries) := by
  simp only [MetaValue.entriesToJson_eq]
  exact forms.map (MetaValue.takes_decoderAt forms nodeLevels)

def DocumentDraft.slots (draft : DocumentDraft) : List (Option (String × Json)) := [
  draft.version.map fun version =>
    ("pandoc-api-version", .list (version.map fun number => .int number.toNat)),
  draft.metadata.map fun entries => ("meta", .object (MetaValue.entriesToJson entries)),
  draft.blocks.map fun blocks => ("blocks", .list (Block.toJsons blocks))]

def Document.members (document : Document) : List (String × Json) := [
  ("pandoc-api-version", .list (document.version.map fun number => .int number.toNat)),
  ("meta", .object (MetaValue.entriesToJson document.metadata)),
  ("blocks", .list (Block.toJsons document.blocks))]

theorem DocumentDraft.accept_cases {mode : Mode} {draft next : DocumentDraft} {name : String}
    {value : Outline} (listed : name ∈ ["pandoc-api-version", "meta", "blocks"])
    (accepted : draft.accept mode name value = .ok next) :
    ∃ place content, next.slots = draft.slots.set place (some (name, content)) ∧
      Spells mode value content := by
  simp only [List.mem_cons, List.not_mem_nil, or_false] at listed
  unfold accept at accepted
  rcases listed with rfl | rfl | rfl
  all_goals
    obtain ⟨set, once, same⟩ := exists_of_bind_eq_ok accepted
    obtain ⟨-, part, decoded, rfl⟩ := Decode.setOnce_cases once
    cases same
  · exact ⟨0, _, rfl, forms.list forms.nat32 _ _ _ decoded⟩
  · exact ⟨1, _, rfl, Metadata.takes forms _ _ _ decoded⟩
  · exact ⟨2, _, rfl, Block.takes_list forms (Block.takes forms) _ _ _ decoded⟩

omit forms in
theorem DocumentDraft.finish_cases {draft : DocumentDraft} {document : Document}
    (finished : draft.finish = .ok document) : draft.slots = document.members.map some := by
  obtain ⟨_, version, finished⟩ := exists_of_bind_eq_ok finished
  obtain ⟨_, entries, finished⟩ := exists_of_bind_eq_ok finished
  obtain ⟨_, blocks, finished⟩ := exists_of_bind_eq_ok finished
  cases finished
  rw [slots, Decode.required_cases version, Decode.required_cases entries,
    Decode.required_cases blocks]
  rfl

/-- Documents are accepted in these forms. -/
theorem Document.takes : Takes Spells decoder toJson :=
  forms.record (by simp [grammar]) (fun _ => rfl) DocumentDraft.slots (by decide)
    (fun _ _ _ _ _ => DocumentDraft.accept_cases forms)
    (fun _ _ => DocumentDraft.finish_cases)
    (.item (forms.list forms.nat32) fun _ => .item (Metadata.takes forms) fun _ =>
      .item (Block.takes_list forms (Block.takes forms)) fun _ => .pure rfl)

end

end DocFilter
