import DocFilter.Text.Symbol

/-!
# Faults of JSON text

Everything that can keep a text from being one JSON value, as causes. The
wording of each cause is in `Fault.message` and its kind in `Fault.category`.
-/

namespace DocFilter.Json

/-- What was being read when a text ended too early. -/
inductive Unfinished where
  | value
  | list
  | object
  | string
  deriving DecidableEq

/-- The noun of an unfinished part, with its article. -/
def Unfinished.phrase : Unfinished → String
  | .value => "a value"
  | .list => "a list"
  | .object => "an object"
  | .string => "a string"

/-- Why a text is not one JSON value. -/
inductive Fault where
  /-- A symbol that starts no value stands where a value must be. -/
  | expectedValue
  /-- A word that begins like `true`, `false` or `null` is misspelt. -/
  | expectedWord
  | invalidNumber
  | numberOutOfRange
  | expectedColon
  | expectedListSeparator
  | expectedMemberSeparator
  | trailingComma
  | keyNotString
  /-- Something other than blanks follows what should have been the end. -/
  | trailingCharacters
  | invalidEscape
  | controlCharacter
  | loneSurrogate
  | unfinishedSurrogate
  | invalidCodePoint
  /-- One container too many is open. -/
  | tooDeep
  /-- The text is over while a part of it is unfinished. -/
  | ended (part : Unfinished)
  /-- The channel failed, for the stated reason. -/
  | interrupted (reason : String)
  deriving DecidableEq

/-- The kinds of problems a reader reports. -/
inductive Category where
  | malformed
  | mismatched
  | truncated
  | unreadable
  deriving DecidableEq

/-- The one-word name of a kind of problem. -/
def Category.name : Category → String
  | .malformed => "syntax"
  | .mismatched => "data"
  | .truncated => "eof"
  | .unreadable => "io"

namespace Fault

/-- The fault of a text that stops, one way or the other, inside a part. -/
def ofEnding (part : Unfinished) : Text.Ending → Fault
  | .complete => .ended part
  | .interrupted reason => .interrupted reason

def category : Fault → Category
  | .ended _ => .truncated
  | .interrupted _ => .unreadable
  | _ => .malformed

def message : Fault → String
  | .expectedValue => "expected value"
  | .expectedWord => "expected ident"
  | .invalidNumber => "invalid number"
  | .numberOutOfRange => "number out of range"
  | .expectedColon => "expected `:`"
  | .expectedListSeparator => "expected `,` or `]`"
  | .expectedMemberSeparator => "expected `,` or `\x7d`"
  | .trailingComma => "trailing comma"
  | .keyNotString => "key must be a string"
  | .trailingCharacters => "trailing characters"
  | .invalidEscape => "invalid escape"
  | .controlCharacter =>
      "control character (\\u0000-\\u001F) found while parsing a string"
  | .loneSurrogate => "lone leading surrogate in hex escape"
  | .unfinishedSurrogate => "unexpected end of hex escape"
  | .invalidCodePoint => "invalid unicode code point"
  | .tooDeep => "recursion limit exceeded"
  | .ended part => "EOF while parsing " ++ part.phrase
  | .interrupted reason => reason

end Fault

end DocFilter.Json
