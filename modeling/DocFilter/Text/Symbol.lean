/-!
# Incoming text

A text arrives as characters, or as bytes of which some may belong to no
character, and it either ends or is broken off by the channel it comes from.
Both arrivals are one `Source`: a list of symbols together with the way it
ends. Everything that reads text reads a source.
-/

namespace DocFilter.Text

/-- One step of an incoming text: a character, or a byte that is part of none. -/
inductive Symbol where
  | char (value : Char)
  | stray (byte : UInt8)
  deriving DecidableEq

namespace Symbol

/-- The number of bytes a symbol takes. -/
def width : Symbol → Nat
  | .char value => value.utf8Size
  | .stray _ => 1

end Symbol

/-- Why no further symbol follows. -/
inductive Ending where
  /-- The text is over. -/
  | complete
  /-- The channel failed, for the stated reason, before the text was over. -/
  | interrupted (reason : String)
  deriving DecidableEq

/-- An incoming text. -/
structure Source where
  symbols : List Symbol
  ending : Ending
  deriving DecidableEq

namespace Source

/-- A text held in memory: its characters, and then it is over. -/
def ofText (text : String) : Source where
  symbols := text.toList.map .char
  ending := .complete

/-- The symbols of a byte sequence from one position on: a well-formed UTF-8
sequence is its character, and any other byte stands for itself. -/
def symbolsFrom (bytes : ByteArray) (position : Nat) : List Symbol :=
  if inside : position < bytes.size then
    match bytes.utf8DecodeChar? position with
    | some value => .char value :: symbolsFrom bytes (position + value.utf8Size)
    | none => .stray bytes[position] :: symbolsFrom bytes (position + 1)
  else []
termination_by bytes.size - position
decreasing_by
  · have := value.utf8Size_pos
    omega
  · omega

/-- Bytes that arrived over a channel, and how the channel ended. -/
def ofBytes (bytes : ByteArray) (ending : Ending) : Source where
  symbols := symbolsFrom bytes 0
  ending := ending

end Source

end DocFilter.Text
