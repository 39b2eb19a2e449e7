import DocFilter.Document.Basic
import DocFilter.Json.Basic

/-!
# Documents as JSON

A node is an object with its tag under `t` and, if its kind has any, its
content under `c`. Records without a name are lists of their parts; citations
and documents are objects with a member for each part.
-/

namespace DocFilter

/-- A node without content, or a choice. -/
def Json.tagged (tag : String) : Json := .object [("t", .string tag)]

def Json.node (tag : String) (content : Json) : Json :=
  .object [("t", .string tag), ("c", content)]

def Attr.toJson (attr : Attr) : Json :=
  .list [.string attr.identifier, .strings attr.classes,
    .list (attr.pairs.map fun (key, value) => .list [.string key, .string value])]

def Target.toJson (target : Target) : Json := .list [.string target.url, .string target.title]

def ListAttributes.toJson (attributes : ListAttributes) : Json :=
  .list [.int attributes.start.toInt, .tagged attributes.style.tag,
    .tagged attributes.delimiter.tag]

def ColWidth.toJson : ColWidth → Json
  | .fixed fraction => .node "ColWidth" (.real fraction)
  | .default => .tagged "ColWidthDefault"

def ColSpec.toJson (spec : ColSpec) : Json :=
  .list [.tagged spec.alignment.tag, spec.width.toJson]

mutual

def Inline.toJson : Inline → Json
  | .str text => .node "Str" (.string text)
  | .emph content => .node "Emph" (.list (Inline.toJsons content))
  | .underline content => .node "Underline" (.list (Inline.toJsons content))
  | .strong content => .node "Strong" (.list (Inline.toJsons content))
  | .strikeout content => .node "Strikeout" (.list (Inline.toJsons content))
  | .superscript content => .node "Superscript" (.list (Inline.toJsons content))
  | .subscript content => .node "Subscript" (.list (Inline.toJsons content))
  | .smallCaps content => .node "SmallCaps" (.list (Inline.toJsons content))
  | .quoted type content =>
      .node "Quoted" (.list [.tagged type.tag, .list (Inline.toJsons content)])
  | .cite citations content =>
      .node "Cite" (.list [.list (Citation.toJsons citations), .list (Inline.toJsons content)])
  | .code attr text => .node "Code" (.list [attr.toJson, .string text])
  | .space => .tagged "Space"
  | .softBreak => .tagged "SoftBreak"
  | .lineBreak => .tagged "LineBreak"
  | .math type text => .node "Math" (.list [.tagged type.tag, .string text])
  | .raw format text => .node "RawInline" (.list [.string format, .string text])
  | .link attr content target =>
      .node "Link" (.list [attr.toJson, .list (Inline.toJsons content), target.toJson])
  | .image attr content target =>
      .node "Image" (.list [attr.toJson, .list (Inline.toJsons content), target.toJson])
  | .note content => .node "Note" (.list (Block.toJsons content))
  | .span attr content => .node "Span" (.list [attr.toJson, .list (Inline.toJsons content)])

def Inline.toJsons : List Inline → List Json
  | [] => []
  | inline :: rest => inline.toJson :: Inline.toJsons rest

def Inline.linesToJson : List (List Inline) → List Json
  | [] => []
  | line :: rest => .list (Inline.toJsons line) :: Inline.linesToJson rest

def Citation.toJson : Citation → Json
  | ⟨key, before, after, mode, noteNumber, hash⟩ =>
      .object [
        ("citationId", .string key),
        ("citationPrefix", .list (Inline.toJsons before)),
        ("citationSuffix", .list (Inline.toJsons after)),
        ("citationMode", .tagged mode.tag),
        ("citationNoteNum", .int noteNumber.toInt),
        ("citationHash", .int hash.toInt)]

def Citation.toJsons : List Citation → List Json
  | [] => []
  | citation :: rest => citation.toJson :: Citation.toJsons rest

def Block.toJson : Block → Json
  | .plain content => .node "Plain" (.list (Inline.toJsons content))
  | .para content => .node "Para" (.list (Inline.toJsons content))
  | .lineBlock lines => .node "LineBlock" (.list (Inline.linesToJson lines))
  | .code attr text => .node "CodeBlock" (.list [attr.toJson, .string text])
  | .raw format text => .node "RawBlock" (.list [.string format, .string text])
  | .blockQuote content => .node "BlockQuote" (.list (Block.toJsons content))
  | .orderedList attributes items =>
      .node "OrderedList" (.list [attributes.toJson, .list (Block.itemsToJson items)])
  | .bulletList items => .node "BulletList" (.list (Block.itemsToJson items))
  | .definitionList items => .node "DefinitionList" (.list (Block.definitionsToJson items))
  | .header level attr content =>
      .node "Header" (.list [.int level.toInt, attr.toJson, .list (Inline.toJsons content)])
  | .horizontalRule => .tagged "HorizontalRule"
  | .table table => .node "Table" table.toJson
  | .figure attr caption content =>
      .node "Figure" (.list [attr.toJson, caption.toJson, .list (Block.toJsons content)])
  | .div attr content => .node "Div" (.list [attr.toJson, .list (Block.toJsons content)])

def Block.toJsons : List Block → List Json
  | [] => []
  | block :: rest => block.toJson :: Block.toJsons rest

def Block.itemsToJson : List (List Block) → List Json
  | [] => []
  | item :: rest => .list (Block.toJsons item) :: Block.itemsToJson rest

def Block.definitionsToJson : List (List Inline × List (List Block)) → List Json
  | [] => []
  | (term, definitions) :: rest =>
      .list [.list (Inline.toJsons term), .list (Block.itemsToJson definitions)] ::
        Block.definitionsToJson rest

/-- A caption: the short one or null, and the full one. -/
def Caption.toJson : Caption → Json
  | ⟨none, long⟩ => .list [.null, .list (Block.toJsons long)]
  | ⟨some short, long⟩ => .list [.list (Inline.toJsons short), .list (Block.toJsons long)]

/-- A table: attributes, caption, columns, head, sections, foot. -/
def Table.toJson : Table → Json
  | ⟨attr, caption, colSpecs, head, bodies, foot⟩ =>
      .list [attr.toJson, caption.toJson, .list (colSpecs.map ColSpec.toJson), head.toJson,
        .list (TableBody.toJsons bodies), foot.toJson]

def TableHead.toJson : TableHead → Json
  | ⟨attr, rows⟩ => .list [attr.toJson, .list (Row.toJsons rows)]

/-- A section of a table: attributes, the number of columns that head rows, rows
that head the section, and its other rows. -/
def TableBody.toJson : TableBody → Json
  | ⟨attr, rowHeadColumns, head, rows⟩ =>
      .list [attr.toJson, .int rowHeadColumns.toInt, .list (Row.toJsons head),
        .list (Row.toJsons rows)]

def TableBody.toJsons : List TableBody → List Json
  | [] => []
  | body :: rest => body.toJson :: TableBody.toJsons rest

def TableFoot.toJson : TableFoot → Json
  | ⟨attr, rows⟩ => .list [attr.toJson, .list (Row.toJsons rows)]

def Row.toJson : Row → Json
  | ⟨attr, cells⟩ => .list [attr.toJson, .list (Cell.toJsons cells)]

def Row.toJsons : List Row → List Json
  | [] => []
  | row :: rest => row.toJson :: Row.toJsons rest

/-- A cell: attributes, alignment, the rows and columns it spans, content. -/
def Cell.toJson : Cell → Json
  | ⟨attr, alignment, rowSpan, colSpan, content⟩ =>
      .list [attr.toJson, .tagged alignment.tag, .int rowSpan.toInt, .int colSpan.toInt,
        .list (Block.toJsons content)]

def Cell.toJsons : List Cell → List Json
  | [] => []
  | cell :: rest => cell.toJson :: Cell.toJsons rest

end

mutual

def MetaValue.toJson : MetaValue → Json
  | .map entries => .node "MetaMap" (.object (MetaValue.entriesToJson entries))
  | .list items => .node "MetaList" (.list (MetaValue.toJsons items))
  | .bool value => .node "MetaBool" (.bool value)
  | .string text => .node "MetaString" (.string text)
  | .inlines content => .node "MetaInlines" (.list (Inline.toJsons content))
  | .blocks content => .node "MetaBlocks" (.list (Block.toJsons content))

def MetaValue.toJsons : List MetaValue → List Json
  | [] => []
  | value :: rest => value.toJson :: MetaValue.toJsons rest

/-- Metadata entries as members, in the order of their keys. -/
def MetaValue.entriesToJson : List (String × MetaValue) → List (String × Json)
  | [] => []
  | (key, value) :: rest => (key, value.toJson) :: MetaValue.entriesToJson rest

end

def Document.toJson (document : Document) : Json :=
  .object [
    ("pandoc-api-version",
      .list (document.version.map fun number => .int number.toNat)),
    ("meta", .object (MetaValue.entriesToJson document.metadata)),
    ("blocks", .list (Block.toJsons document.blocks))]

end DocFilter
