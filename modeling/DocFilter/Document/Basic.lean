import DocFilter.Document.Attr
import DocFilter.Entries

/-!
# Documents

A document is a list of blocks with metadata. Blocks hold other blocks and
inlines, directly or in the records they are made of, and inlines hold inlines
and, in notes, blocks again.
-/

namespace DocFilter

mutual

/-- A piece of running text. -/
inductive Inline where
  | str (text : String)
  | emph (content : List Inline)
  | underline (content : List Inline)
  | strong (content : List Inline)
  | strikeout (content : List Inline)
  | superscript (content : List Inline)
  | subscript (content : List Inline)
  | smallCaps (content : List Inline)
  | quoted (type : QuoteType) (content : List Inline)
  | cite (citations : List Citation) (content : List Inline)
  | code (attr : Attr) (text : String)
  | space
  | softBreak
  | lineBreak
  | math (type : MathType) (text : String)
  | raw (format text : String)
  | link (attr : Attr) (content : List Inline) (target : Target)
  | image (attr : Attr) (content : List Inline) (target : Target)
  | note (content : List Block)
  | span (attr : Attr) (content : List Inline)

/-- One of the works that an inline cites. -/
structure Citation where
  key : String
  before : List Inline
  after : List Inline
  mode : CitationMode
  noteNumber : Int32
  hash : Int32

/-- A part of a document that stands by itself. -/
inductive Block where
  | plain (content : List Inline)
  | para (content : List Inline)
  | lineBlock (lines : List (List Inline))
  | code (attr : Attr) (text : String)
  | raw (format text : String)
  | blockQuote (content : List Block)
  | orderedList (attributes : ListAttributes) (items : List (List Block))
  | bulletList (items : List (List Block))
  | definitionList (items : List (List Inline × List (List Block)))
  | header (level : Int32) (attr : Attr) (content : List Inline)
  | horizontalRule
  | table (table : Table)
  | figure (attr : Attr) (caption : Caption) (content : List Block)
  | div (attr : Attr) (content : List Block)

/-- Caption of a table or a figure: a short one for lists of such, and the
full one. -/
structure Caption where
  short : Option (List Inline)
  long : List Block

/-- A table. A table without a caption block is no content of its own, but the
form that some metadata takes. -/
structure Table where
  attr : Attr
  caption : Caption
  colSpecs : List ColSpec
  head : TableHead
  bodies : List TableBody
  foot : TableFoot

structure TableHead where
  attr : Attr
  rows : List Row

/-- A section of a table: rows that head the section, and its other rows. -/
structure TableBody where
  attr : Attr
  rowHeadColumns : Int32
  head : List Row
  rows : List Row

structure TableFoot where
  attr : Attr
  rows : List Row

structure Row where
  attr : Attr
  cells : List Cell

structure Cell where
  attr : Attr
  alignment : Alignment
  rowSpan : Int32
  colSpan : Int32
  content : List Block

end

/-- A metadata value. The keys of a map increase. -/
inductive MetaValue where
  | map (entries : List (String × MetaValue))
  | list (items : List MetaValue)
  | bool (value : Bool)
  | string (text : String)
  | inlines (content : List Inline)
  | blocks (content : List Block)

/-- The text, if the value is nothing but a text. -/
def MetaValue.string? : MetaValue → Option String
  | .string text => some text
  | _ => none

/-- Metadata of a document, in the order of the keys. -/
abbrev Metadata := List (String × MetaValue)

structure Document where
  /-- The version of the document format, most significant number first. -/
  version : List UInt32
  metadata : Metadata
  blocks : List Block

/-- An inline or a block. -/
inductive Node where
  | inline (value : Inline)
  | block (value : Block)

inductive InlineKind where
  | str
  | emph
  | underline
  | strong
  | strikeout
  | superscript
  | subscript
  | smallCaps
  | quoted
  | cite
  | code
  | space
  | softBreak
  | lineBreak
  | math
  | raw
  | link
  | image
  | note
  | span
  deriving DecidableEq

namespace InlineKind

/-- Every kind, in the order in which their tags are numbered. -/
def all : List InlineKind :=
  [.str, .emph, .underline, .strong, .strikeout, .superscript, .subscript, .smallCaps,
    .quoted, .cite, .code, .space, .softBreak, .lineBreak, .math, .raw, .link, .image,
    .note, .span]

def tag : InlineKind → String
  | .str => "Str"
  | .emph => "Emph"
  | .underline => "Underline"
  | .strong => "Strong"
  | .strikeout => "Strikeout"
  | .superscript => "Superscript"
  | .subscript => "Subscript"
  | .smallCaps => "SmallCaps"
  | .quoted => "Quoted"
  | .cite => "Cite"
  | .code => "Code"
  | .space => "Space"
  | .softBreak => "SoftBreak"
  | .lineBreak => "LineBreak"
  | .math => "Math"
  | .raw => "RawInline"
  | .link => "Link"
  | .image => "Image"
  | .note => "Note"
  | .span => "Span"

end InlineKind

inductive BlockKind where
  | plain
  | para
  | lineBlock
  | code
  | raw
  | blockQuote
  | orderedList
  | bulletList
  | definitionList
  | header
  | horizontalRule
  | table
  | figure
  | div
  deriving DecidableEq

namespace BlockKind

def all : List BlockKind :=
  [.plain, .para, .lineBlock, .code, .raw, .blockQuote, .orderedList, .bulletList,
    .definitionList, .header, .horizontalRule, .table, .figure, .div]

def tag : BlockKind → String
  | .plain => "Plain"
  | .para => "Para"
  | .lineBlock => "LineBlock"
  | .code => "CodeBlock"
  | .raw => "RawBlock"
  | .blockQuote => "BlockQuote"
  | .orderedList => "OrderedList"
  | .bulletList => "BulletList"
  | .definitionList => "DefinitionList"
  | .header => "Header"
  | .horizontalRule => "HorizontalRule"
  | .table => "Table"
  | .figure => "Figure"
  | .div => "Div"

end BlockKind

inductive MetaKind where
  | map
  | list
  | bool
  | string
  | inlines
  | blocks
  deriving DecidableEq

namespace MetaKind

def all : List MetaKind := [.map, .list, .bool, .string, .inlines, .blocks]

def tag : MetaKind → String
  | .map => "MetaMap"
  | .list => "MetaList"
  | .bool => "MetaBool"
  | .string => "MetaString"
  | .inlines => "MetaInlines"
  | .blocks => "MetaBlocks"

end MetaKind

def Inline.kind : Inline → InlineKind
  | .str _ => .str
  | .emph _ => .emph
  | .underline _ => .underline
  | .strong _ => .strong
  | .strikeout _ => .strikeout
  | .superscript _ => .superscript
  | .subscript _ => .subscript
  | .smallCaps _ => .smallCaps
  | .quoted _ _ => .quoted
  | .cite _ _ => .cite
  | .code _ _ => .code
  | .space => .space
  | .softBreak => .softBreak
  | .lineBreak => .lineBreak
  | .math _ _ => .math
  | .raw _ _ => .raw
  | .link _ _ _ => .link
  | .image _ _ _ => .image
  | .note _ => .note
  | .span _ _ => .span

def Block.kind : Block → BlockKind
  | .plain _ => .plain
  | .para _ => .para
  | .lineBlock _ => .lineBlock
  | .code _ _ => .code
  | .raw _ _ => .raw
  | .blockQuote _ => .blockQuote
  | .orderedList _ _ => .orderedList
  | .bulletList _ => .bulletList
  | .definitionList _ => .definitionList
  | .header _ _ _ => .header
  | .horizontalRule => .horizontalRule
  | .table _ => .table
  | .figure _ _ _ => .figure
  | .div _ _ => .div

def MetaValue.kind : MetaValue → MetaKind
  | .map _ => .map
  | .list _ => .list
  | .bool _ => .bool
  | .string _ => .string
  | .inlines _ => .inlines
  | .blocks _ => .blocks

namespace Document

/-- The version of documents that are built here. -/
def currentVersion : List UInt32 := [1, 23, 1]

def ofBlocks (blocks : List Block) : Document := ⟨currentVersion, [], blocks⟩

def empty : Document := ofBlocks []

/-- Adds a block behind the others. -/
def addBlock (document : Document) (block : Block) : Document :=
  { document with blocks := document.blocks ++ [block] }

def setMetadata (document : Document) (key : String) (value : MetaValue) : Document :=
  { document with metadata := Entries.insert key value document.metadata }

/-- The version is one whose tables and figures have the form they have here. -/
def isSupported (document : Document) : Bool :=
  match document.version with
  | major :: minor :: _ => major == 1 && (minor == 22 || minor == 23)
  | _ => false

end Document

end DocFilter
