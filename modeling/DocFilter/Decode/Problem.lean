import DocFilter.Decimal.Shortest
import DocFilter.Json.Outline
import DocFilter.Text.Shown

/-!
# Problems of decoding

A text can be malformed, which is a `Json.Fault`, or be well formed and not
denote a value of the wanted type, which is a `Mismatch`. Both are causes, and
the wording of each is given in one place.
-/

namespace DocFilter.Decode

open Json (Found Fault Category)

/-- What a decoder wants to see. -/
inductive Wanted where
  | string
  | boolean
  | int32
  | nat32
  | float64
  | list
  | map
  /-- A list with one item for each part of a record without a name. -/
  | tuple (size : Nat)
  /-- A node: an object with a tag and a content. -/
  | node (type : String)
  /-- One of several words, each an object with nothing but a tag. -/
  | choice (type : String)
  /-- An object with named parts. -/
  | record (type : String)
  /-- A record given as the list of its parts. -/
  | recordList (type : String) (size : Nat)
  /-- The content of a node of a kind that has several parts. -/
  | parts (type kind : String)
  /-- That content as the list of its parts. -/
  | partsList (type kind : String) (size : Nat)
  /-- The content of a node of a kind that has none. -/
  | bare (type kind : String)
  | tag
  /-- The number of a tag in a vocabulary of this size. -/
  | tagIndex (size : Nat)
  /-- A tag, or an object with the tag as its only name. -/
  | tagOrMap
  | singleEntry
  /-- The value under a tag that is given as a name. -/
  | unit
  /-- A list that is over after so many items. -/
  | items (count : Nat)
  deriving DecidableEq

def Wanted.describe : Wanted → String
  | .string => "a string"
  | .boolean => "a boolean"
  | .int32 => "i32"
  | .nat32 => "u32"
  | .float64 => "f64"
  | .list => "a sequence"
  | .map => "a map"
  | .tuple size => s!"a tuple of size {size}"
  | .node type => "adjacently tagged enum " ++ type
  | .choice type => "internally tagged enum " ++ type
  | .record type => "struct " ++ type
  | .recordList type size => s!"struct {type} with {size} elements"
  | .parts type kind => s!"tuple variant {type}::{kind}"
  | .partsList type kind size => s!"tuple variant {type}::{kind} with {size} elements"
  | .bare type kind => s!"unit variant {type}::{kind}"
  | .tag => "variant identifier"
  | .tagIndex size => s!"variant index 0 <= i < {size}"
  | .tagOrMap => "string or map"
  | .singleEntry => "map with a single key"
  | .unit => "unit"
  | .items 1 => "1 element in sequence"
  | .items count => s!"{count} elements in sequence"

def describeFound : Found → String
  | .null => "null"
  | .bool value => s!"boolean `{value}`"
  | .number (.whole value) => s!"integer `{value}`"
  | .number (.real value) =>
      "floating point `" ++ String.ofList ((Decimal.shortestText? value).getD []) ++ "`"
  | .string text => "string " ++ Text.shown text
  | .list => "sequence"
  | .object => "map"

/-- Why a well-formed value does not denote what is wanted. -/
inductive Mismatch where
  | wrongType (found : Found) (wanted : Wanted)
  | wrongValue (found : Found) (wanted : Wanted)
  | wrongLength (length : Nat) (wanted : Wanted)
  | unknownTag (tag : String) (known : List String)
  | missingField (name : String)
  | duplicateField (name : String)

/-- A tag or a name inside a message. -/
def ticked (name : String) : String := "`" ++ name ++ "`"

def describeKnown : List String → String
  | [] => "there are no variants"
  | [only] => "expected " ++ ticked only
  | [first, second] => "expected " ++ ticked first ++ " or " ++ ticked second
  | names => "expected one of " ++ String.intercalate ", " (names.map ticked)

def Mismatch.message : Mismatch → String
  | .wrongType found wanted =>
      "invalid type: " ++ describeFound found ++ ", expected " ++ wanted.describe
  | .wrongValue found wanted =>
      "invalid value: " ++ describeFound found ++ ", expected " ++ wanted.describe
  | .wrongLength length wanted =>
      s!"invalid length {length}, expected " ++ wanted.describe
  | .unknownTag tag known =>
      "unknown variant " ++ ticked tag ++ ", " ++ describeKnown known
  | .missingField name => "missing field " ++ ticked name
  | .duplicateField name => "duplicate field " ++ ticked name

/-- Why a text does not denote a value of the wanted type. -/
inductive Problem where
  | fault (cause : Fault)
  | mismatch (cause : Mismatch)

namespace Problem

def category : Problem → Category
  | .fault cause => cause.category
  | .mismatch _ => .mismatched

def message : Problem → String
  | .fault cause => cause.message
  | .mismatch cause => cause.message

end Problem

end DocFilter.Decode
