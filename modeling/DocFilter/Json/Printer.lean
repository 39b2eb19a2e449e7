import DocFilter.Decimal.Shortest
import DocFilter.Json.Basic

/-!
# Writing JSON

One printer serves both layouts: they have the same tokens in the same order
and differ in the blanks between them only. A printer takes the text that
follows and puts its own in front of it.
-/

namespace DocFilter.Json

/-- How a value is laid out. -/
inductive Layout where
  /-- No blanks at all. -/
  | compact
  /-- One item or member a line, each level indented by two spaces. -/
  | indented
  deriving DecidableEq

namespace Layout

/-- The break before an item on a nesting level, and before a closing bracket. -/
def lineBreak (layout : Layout) (level : Nat) : List Char :=
  match layout with
  | .compact => []
  | .indented => '\n' :: List.replicate (2 * level) ' '

/-- What separates a member's name from its value. -/
def colon : Layout → List Char
  | .compact => [':']
  | .indented => [':', ' ']

end Layout

/-- A hexadecimal digit, in lower case. -/
def hexDigit (value : Nat) : Char :=
  if value < 10 then Char.ofNat ('0'.toNat + value) else Char.ofNat ('a'.toNat + (value - 10))

/-- A character inside a string literal. Quotation marks, backslashes and
control characters are escaped, by a letter where there is one; everything
else stands for itself. -/
def escape (value : Char) : List Char :=
  if value = '"' then ['\\', '"']
  else if value = '\\' then ['\\', '\\']
  else if value = '\x08' then ['\\', 'b']
  else if value = '\t' then ['\\', 't']
  else if value = '\n' then ['\\', 'n']
  else if value = '\x0c' then ['\\', 'f']
  else if value = '\r' then ['\\', 'r']
  else if value.toNat < 0x20 then
    ['\\', 'u', '0', '0', hexDigit (value.toNat / 16), hexDigit (value.toNat % 16)]
  else [value]

/-- A string literal, with the text that follows it. -/
def writeString (text : String) (rest : List Char) : List Char :=
  '"' :: (text.toList.flatMap escape ++ '"' :: rest)

/-- A number. Floating point numbers have their shortest text; those that are
not finite have no JSON form and become `null`. -/
def numberText : Decimal.Number → List Char
  | .whole value => (toString value).toList
  | .real value => (Decimal.shortestText? value).getD ['n', 'u', 'l', 'l']

mutual

/-- A value on a nesting level, with the text that follows it. -/
def write (layout : Layout) (level : Nat) : Json → List Char → List Char
  | .null, rest => ['n', 'u', 'l', 'l'] ++ rest
  | .bool true, rest => ['t', 'r', 'u', 'e'] ++ rest
  | .bool false, rest => ['f', 'a', 'l', 's', 'e'] ++ rest
  | .number value, rest => numberText value ++ rest
  | .string text, rest => writeString text rest
  | .list [], rest => '[' :: ']' :: rest
  | .list (item :: items), rest =>
      '[' :: (layout.lineBreak (level + 1) ++
        write layout (level + 1) item
          (writeItems layout level items (layout.lineBreak level ++ ']' :: rest)))
  | .object [], rest => '\x7b' :: '\x7d' :: rest
  | .object ((name, value) :: members), rest =>
      '\x7b' :: (layout.lineBreak (level + 1) ++
        writeString name (layout.colon ++
          write layout (level + 1) value
            (writeMembers layout level members (layout.lineBreak level ++ '\x7d' :: rest))))

/-- The items after the first of a list on a nesting level. -/
def writeItems (layout : Layout) (level : Nat) : List Json → List Char → List Char
  | [], rest => rest
  | item :: items, rest =>
      ',' :: (layout.lineBreak (level + 1) ++
        write layout (level + 1) item (writeItems layout level items rest))

def writeMembers (layout : Layout) (level : Nat) :
    List (String × Json) → List Char → List Char
  | [], rest => rest
  | (name, value) :: members, rest =>
      ',' :: (layout.lineBreak (level + 1) ++
        writeString name (layout.colon ++
          write layout (level + 1) value (writeMembers layout level members rest)))

end

def toText (layout : Layout) (value : Json) : String :=
  String.ofList (write layout 0 value [])

end DocFilter.Json
