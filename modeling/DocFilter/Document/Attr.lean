/-!
# Attributes, targets and the small vocabularies of documents

What nodes carry besides other nodes: attributes, link targets, and choices
between a few words, each with the tag that it is written as.
-/

namespace DocFilter

/-- Identifier, classes and key-value pairs of a node; the latter two in the
order in which they were given. -/
structure Attr where
  identifier : String := ""
  classes : List String := []
  pairs : List (String × String) := []
  deriving DecidableEq, Inhabited

namespace Attr

def empty : Attr := {}

def ofIdentifier (identifier : String) : Attr := { identifier }

/-- Adds a class behind the others. -/
def addClass (attr : Attr) (name : String) : Attr :=
  { attr with classes := attr.classes ++ [name] }

/-- Adds a key-value pair behind the others. -/
def addPair (attr : Attr) (key value : String) : Attr :=
  { attr with pairs := attr.pairs ++ [(key, value)] }

def firstClass? (attr : Attr) : Option String := attr.classes.head?

/-- The value of the first pair with the given key. -/
def get? (attr : Attr) (key : String) : Option String := attr.pairs.lookup key

/-- There is neither an identifier nor a class nor a pair. -/
def isEmpty (attr : Attr) : Bool :=
  attr.identifier.isEmpty && attr.classes.isEmpty && attr.pairs.isEmpty

end Attr

/-- Where a link or an image points to. -/
structure Target where
  url : String
  title : String
  deriving DecidableEq

/-- Kinds of quotation marks. -/
inductive QuoteType where
  | single
  | double
  deriving DecidableEq

namespace QuoteType

/-- Both kinds, in the order in which their tags are numbered. -/
def all : List QuoteType := [.single, .double]

/-- The tag that a kind of quotation marks is written as. -/
def tag : QuoteType → String
  | .single => "SingleQuote"
  | .double => "DoubleQuote"

end QuoteType

/-- Whether a formula stands in a line of its own. -/
inductive MathType where
  | display
  | inline
  deriving DecidableEq

namespace MathType

def all : List MathType := [.display, .inline]

def tag : MathType → String
  | .display => "DisplayMath"
  | .inline => "InlineMath"

end MathType

/-- How a citation is rendered. -/
inductive CitationMode where
  | authorInText
  | suppressAuthor
  | normal
  deriving DecidableEq

namespace CitationMode

def all : List CitationMode := [.authorInText, .suppressAuthor, .normal]

def tag : CitationMode → String
  | .authorInText => "AuthorInText"
  | .suppressAuthor => "SuppressAuthor"
  | .normal => "NormalCitation"

end CitationMode

/-- How the items of an ordered list are numbered. -/
inductive ListStyle where
  | default
  | example
  | decimal
  | lowerRoman
  | upperRoman
  | lowerAlpha
  | upperAlpha
  deriving DecidableEq

namespace ListStyle

def all : List ListStyle :=
  [.default, .example, .decimal, .lowerRoman, .upperRoman, .lowerAlpha, .upperAlpha]

def tag : ListStyle → String
  | .default => "DefaultStyle"
  | .example => "Example"
  | .decimal => "Decimal"
  | .lowerRoman => "LowerRoman"
  | .upperRoman => "UpperRoman"
  | .lowerAlpha => "LowerAlpha"
  | .upperAlpha => "UpperAlpha"

end ListStyle

/-- What surrounds the numbers of an ordered list. -/
inductive ListDelimiter where
  | default
  | period
  | oneParen
  | twoParens
  deriving DecidableEq

namespace ListDelimiter

def all : List ListDelimiter := [.default, .period, .oneParen, .twoParens]

def tag : ListDelimiter → String
  | .default => "DefaultDelim"
  | .period => "Period"
  | .oneParen => "OneParen"
  | .twoParens => "TwoParens"

end ListDelimiter

/-- Start number, numbering style and delimiter of an ordered list. -/
structure ListAttributes where
  start : Int32
  style : ListStyle
  delimiter : ListDelimiter
  deriving DecidableEq

/-- Horizontal alignment of a column or a cell. -/
inductive Alignment where
  | left
  | right
  | center
  | default
  deriving DecidableEq

namespace Alignment

def all : List Alignment := [.left, .right, .center, .default]

def tag : Alignment → String
  | .left => "AlignLeft"
  | .right => "AlignRight"
  | .center => "AlignCenter"
  | .default => "AlignDefault"

end Alignment

/-- Width of a column: a fraction of the text width, or what the writer likes. -/
inductive ColWidth where
  | fixed (fraction : Float)
  | default

def ColWidth.fraction? : ColWidth → Option Float
  | .fixed fraction => some fraction
  | .default => none

/-- Alignment and width of a column. -/
structure ColSpec where
  alignment : Alignment
  width : ColWidth

end DocFilter
