import DocFilter.Decode.Tagged
import DocFilter.Document.Basic

/-!
# Documents from JSON

The decoders of document types. Those of inlines and blocks refer to each
other; they are cut off at a nesting level that no text within the limit of
open containers reaches.
-/

namespace DocFilter

open Decode (Decoder ItemsM Payload Vocabulary Result item list pair parts tuple string bool
  int32 nat32 float64 optional choice node record required setOnce)

/-- The vocabulary of a type all of whose values have a tag. -/
def vocabularyOf {κ : Type} (type : String) (all : List κ) (tag : κ → String) :
    Vocabulary κ :=
  ⟨type, all.map fun kind => (tag kind, kind)⟩

def QuoteType.decoder : Decoder QuoteType := choice (vocabularyOf "QuoteType" all tag)

def MathType.decoder : Decoder MathType := choice (vocabularyOf "MathType" all tag)

def CitationMode.decoder : Decoder CitationMode := choice (vocabularyOf "CitationMode" all tag)

def ListStyle.decoder : Decoder ListStyle := choice (vocabularyOf "ListNumberStyle" all tag)

def ListDelimiter.decoder : Decoder ListDelimiter :=
  choice (vocabularyOf "ListNumberDelim" all tag)

def Alignment.decoder : Decoder Alignment := choice (vocabularyOf "Alignment" all tag)

def Attr.decoder : Decoder Attr := tuple 3 do
  let identifier ← item string
  let classes ← item (list string)
  let pairs ← item (list (pair string string))
  return { identifier, classes, pairs }

def Target.decoder : Decoder Target := tuple 2 do
  let url ← item string
  let title ← item string
  return { url, title }

def ListAttributes.decoder : Decoder ListAttributes := tuple 3 do
  let start ← item int32
  let style ← item ListStyle.decoder
  let delimiter ← item ListDelimiter.decoder
  return { start, style, delimiter }

def ColWidth.decoder : Decoder ColWidth :=
  node ⟨"ColWidth", [("ColWidth", true), ("ColWidthDefault", false)]⟩ fun
    | true => .content fun mode value => return .fixed (← float64 mode value)
    | false => .bare "Default" .default

def ColSpec.decoder : Decoder ColSpec := tuple 2 do
  let alignment ← item Alignment.decoder
  let width ← item ColWidth.decoder
  return { alignment, width }

/-- Decodes by way of another type. -/
def Decode.mapped {α β : Type} (build : α → β) (decoder : Decoder α) : Decoder β :=
  fun mode value => return build (← decoder mode value)

/-- The content of a kind with one part. -/
def onePart {α β : Type} (build : α → β) (decoder : Decoder α) : Payload β :=
  .content (Decode.mapped build decoder)

/-!
## Records around inlines and blocks
-/

section

variable (inline : Decoder Inline) (block : Decoder Block)

/-- The parts of a citation that have been met. -/
structure CitationDraft where
  key : Option String := none
  before : Option (List Inline) := none
  after : Option (List Inline) := none
  mode : Option CitationMode := none
  noteNumber : Option Int32 := none
  hash : Option Int32 := none

/-- One more part of a citation. -/
def CitationDraft.accept (mode : Decode.Mode) (draft : CitationDraft) (name : String)
    (value : Json.Outline) : Result CitationDraft := do
  match name with
  | "citationId" =>
      return { draft with key := ← setOnce name draft.key (string mode value) }
  | "citationPrefix" =>
      return { draft with before := ← setOnce name draft.before (list inline mode value) }
  | "citationSuffix" =>
      return { draft with after := ← setOnce name draft.after (list inline mode value) }
  | "citationMode" =>
      return { draft with
        mode := ← setOnce name draft.mode (CitationMode.decoder mode value) }
  | "citationNoteNum" =>
      return { draft with
        noteNumber := ← setOnce name draft.noteNumber (int32 mode value) }
  | _ => return { draft with hash := ← setOnce name draft.hash (int32 mode value) }

/-- The citation, if no part is missing. -/
def CitationDraft.finish (draft : CitationDraft) : Result Citation := do
  let key ← required "citationId" draft.key
  let before ← required "citationPrefix" draft.before
  let after ← required "citationSuffix" draft.after
  let mode ← required "citationMode" draft.mode
  let noteNumber ← required "citationNoteNum" draft.noteNumber
  let hash ← required "citationHash" draft.hash
  return { key, before, after, mode, noteNumber, hash }

def Citation.decoder : Decoder Citation :=
  record "Citation"
    ["citationId", "citationPrefix", "citationSuffix", "citationMode", "citationNoteNum",
      "citationHash"]
    {} (CitationDraft.accept inline) CitationDraft.finish do
      let key ← item string
      let before ← item (list inline)
      let after ← item (list inline)
      let mode ← item CitationMode.decoder
      let noteNumber ← item int32
      let hash ← item int32
      return { key, before, after, mode, noteNumber, hash }

def Caption.decoder : Decoder Caption := tuple 2 do
  let short ← item (optional (list inline))
  let long ← item (list block)
  return { short, long }

def Cell.decoder : Decoder Cell := tuple 5 do
  let attr ← item Attr.decoder
  let alignment ← item Alignment.decoder
  let rowSpan ← item int32
  let colSpan ← item int32
  let content ← item (list block)
  return { attr, alignment, rowSpan, colSpan, content }

def Row.decoder : Decoder Row := tuple 2 do
  let attr ← item Attr.decoder
  let cells ← item (list (Cell.decoder block))
  return { attr, cells }

def TableHead.decoder : Decoder TableHead := tuple 2 do
  let attr ← item Attr.decoder
  let rows ← item (list (Row.decoder block))
  return { attr, rows }

def TableBody.decoder : Decoder TableBody := tuple 4 do
  let attr ← item Attr.decoder
  let rowHeadColumns ← item int32
  let head ← item (list (Row.decoder block))
  let rows ← item (list (Row.decoder block))
  return { attr, rowHeadColumns, head, rows }

def TableFoot.decoder : Decoder TableFoot := tuple 2 do
  let attr ← item Attr.decoder
  let rows ← item (list (Row.decoder block))
  return { attr, rows }

def Table.decoder : Decoder Table := tuple 6 do
  let attr ← item Attr.decoder
  let caption ← item (Caption.decoder inline block)
  let colSpecs ← item (list ColSpec.decoder)
  let head ← item (TableHead.decoder block)
  let bodies ← item (list (TableBody.decoder block))
  let foot ← item (TableFoot.decoder block)
  return { attr, caption, colSpecs, head, bodies, foot }

/-!
## Inlines and blocks
-/

def InlineKind.payload (kind : InlineKind) : Payload Inline :=
  let several := parts (α := Inline) "Inline" kind.tag
  match kind with
  | .str => onePart .str string
  | .emph => onePart .emph (list inline)
  | .underline => onePart .underline (list inline)
  | .strong => onePart .strong (list inline)
  | .strikeout => onePart .strikeout (list inline)
  | .superscript => onePart .superscript (list inline)
  | .subscript => onePart .subscript (list inline)
  | .smallCaps => onePart .smallCaps (list inline)
  | .quoted => several 2 do
      let type ← item QuoteType.decoder
      let content ← item (list inline)
      return .quoted type content
  | .cite => several 2 do
      let citations ← item (list (Citation.decoder inline))
      let content ← item (list inline)
      return .cite citations content
  | .code => several 2 do
      let attr ← item Attr.decoder
      let text ← item string
      return .code attr text
  | .space => .bare kind.tag .space
  | .softBreak => .bare kind.tag .softBreak
  | .lineBreak => .bare kind.tag .lineBreak
  | .math => several 2 do
      let type ← item MathType.decoder
      let text ← item string
      return .math type text
  | .raw => several 2 do
      let format ← item string
      let text ← item string
      return .raw format text
  | .link => several 3 do
      let attr ← item Attr.decoder
      let content ← item (list inline)
      let target ← item Target.decoder
      return .link attr content target
  | .image => several 3 do
      let attr ← item Attr.decoder
      let content ← item (list inline)
      let target ← item Target.decoder
      return .image attr content target
  | .note => onePart .note (list block)
  | .span => several 2 do
      let attr ← item Attr.decoder
      let content ← item (list inline)
      return .span attr content

def BlockKind.payload (kind : BlockKind) : Payload Block :=
  let several := parts (α := Block) "Block" kind.tag
  match kind with
  | .plain => onePart .plain (list inline)
  | .para => onePart .para (list inline)
  | .lineBlock => onePart .lineBlock (list (list inline))
  | .code => several 2 do
      let attr ← item Attr.decoder
      let text ← item string
      return .code attr text
  | .raw => several 2 do
      let format ← item string
      let text ← item string
      return .raw format text
  | .blockQuote => onePart .blockQuote (list block)
  | .orderedList => several 2 do
      let attributes ← item ListAttributes.decoder
      let items ← item (list (list block))
      return .orderedList attributes items
  | .bulletList => onePart .bulletList (list (list block))
  | .definitionList => onePart .definitionList (list (pair (list inline) (list (list block))))
  | .header => several 3 do
      let level ← item int32
      let attr ← item Attr.decoder
      let content ← item (list inline)
      return .header level attr content
  | .horizontalRule => .bare kind.tag .horizontalRule
  | .table => onePart .table (Table.decoder inline block)
  | .figure => several 3 do
      let attr ← item Attr.decoder
      let caption ← item (Caption.decoder inline block)
      let content ← item (list block)
      return .figure attr caption content
  | .div => several 2 do
      let attr ← item Attr.decoder
      let content ← item (list block)
      return .div attr content

end

mutual

/-- Decodes an inline in which nodes are nested less deeply than the given level. -/
def Inline.decoderAt : Nat → Decoder Inline
  | 0, _, _ => Decode.faulty .tooDeep
  | level + 1, mode, value =>
      node (vocabularyOf "Inline" InlineKind.all InlineKind.tag)
        (InlineKind.payload (Inline.decoderAt level) (Block.decoderAt level)) mode value

def Block.decoderAt : Nat → Decoder Block
  | 0, _, _ => Decode.faulty .tooDeep
  | level + 1, mode, value =>
      node (vocabularyOf "Block" BlockKind.all BlockKind.tag)
        (BlockKind.payload (Inline.decoderAt level) (Block.decoderAt level)) mode value

end

/-- More than the number of nodes that can be nested in a text: each takes a
container, of which 127 may be open. -/
def nodeLevels : Nat := 128

def Inline.decoder : Decoder Inline := Inline.decoderAt nodeLevels

def Block.decoder : Decoder Block := Block.decoderAt nodeLevels

def MetaKind.payload (value : Decoder MetaValue) : MetaKind → Payload MetaValue
  | .map => onePart .map (Decode.map value)
  | .list => onePart .list (Decode.list value)
  | .bool => onePart .bool Decode.bool
  | .string => onePart .string Decode.string
  | .inlines => onePart .inlines (Decode.list Inline.decoder)
  | .blocks => onePart .blocks (Decode.list Block.decoder)

def MetaValue.decoderAt : Nat → Decoder MetaValue
  | 0, _, _ => Decode.faulty .tooDeep
  | level + 1, mode, value =>
      node (vocabularyOf "MetaValue" MetaKind.all MetaKind.tag)
        (MetaKind.payload (MetaValue.decoderAt level)) mode value

def MetaValue.decoder : Decoder MetaValue := MetaValue.decoderAt nodeLevels

def Metadata.decoder : Decoder Metadata := Decode.map MetaValue.decoder

/-- The parts of a document that have been met. -/
structure DocumentDraft where
  version : Option (List UInt32) := none
  metadata : Option Metadata := none
  blocks : Option (List Block) := none

def DocumentDraft.accept (mode : Decode.Mode) (draft : DocumentDraft) (name : String)
    (value : Json.Outline) : Result DocumentDraft := do
  match name with
  | "pandoc-api-version" =>
      return { draft with version := ← setOnce name draft.version (list nat32 mode value) }
  | "meta" =>
      return { draft with
        metadata := ← setOnce name draft.metadata (Metadata.decoder mode value) }
  | _ =>
      return { draft with
        blocks := ← setOnce name draft.blocks (list Block.decoder mode value) }

/-- The document, if no part is missing. -/
def DocumentDraft.finish (draft : DocumentDraft) : Result Document := do
  let version ← required "pandoc-api-version" draft.version
  let metadata ← required "meta" draft.metadata
  let blocks ← required "blocks" draft.blocks
  return { version, metadata, blocks }

def Document.decoder : Decoder Document :=
  record "Document" ["pandoc-api-version", "meta", "blocks"] {} DocumentDraft.accept
    DocumentDraft.finish do
      let version ← item (list nat32)
      let metadata ← item Metadata.decoder
      let blocks ← item (list Block.decoder)
      return { version, metadata, blocks }

end DocFilter
