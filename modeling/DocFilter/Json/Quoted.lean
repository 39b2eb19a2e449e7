import DocFilter.Json.Fault

/-!
# String literals as they arrive

A string literal is found by its shape alone: escapes are well formed, and no
control character stands inside. Whether its pieces also spell a text, with
surrogates in pairs and no stray bytes, matters only when the text is wanted;
`Quoted.read` answers that, with the first fault in reading order.
-/

namespace DocFilter.Json

/-- One piece of a string literal. -/
inductive Piece where
  /-- A character that stands for itself, or one named by a letter escape. -/
  | char (value : Char)
  /-- A byte that belongs to no character. -/
  | stray
  /-- A 16-bit unit given by four hexadecimal digits. -/
  | unit (code : Nat)
  deriving DecidableEq

/-- How a string literal ends. -/
inductive QuotedEnd where
  /-- With its closing quotation mark. -/
  | closed
  | controlCharacter
  /-- At a backslash followed by a letter that names nothing. -/
  | unknownEscape
  /-- At a unit escape without four hexadecimal digits. -/
  | badUnit
  /-- Nowhere: the text ends first. -/
  | cut (ending : Text.Ending)
  deriving DecidableEq

namespace QuotedEnd

/-- The fault of a literal that does not end with its quotation mark. -/
def fault? : QuotedEnd → Option Fault
  | .closed => none
  | .controlCharacter => some .controlCharacter
  | .unknownEscape => some .invalidEscape
  | .badUnit => some .invalidEscape
  | .cut ending => some (.ofEnding .string ending)

/-- The fault of a literal that ends this way where the second unit of a
surrogate pair has to follow. -/
def pairFault : QuotedEnd → Fault
  | .badUnit => .invalidEscape
  | .cut ending => .ofEnding .string ending
  | _ => .unfinishedSurrogate

end QuotedEnd

structure Quoted where
  pieces : List Piece
  ending : QuotedEnd
  deriving DecidableEq

/-- The unit is the first of a surrogate pair. -/
def isHighSurrogate (code : Nat) : Bool := 0xD800 ≤ code && code < 0xDC00

/-- The unit is the second of a surrogate pair. -/
def isLowSurrogate (code : Nat) : Bool := 0xDC00 ≤ code && code < 0xE000

def surrogatePair (high low : Nat) : Char :=
  Char.ofNat (0x10000 + (high - 0xD800) * 0x400 + (low - 0xDC00))

namespace Quoted

/-- The characters spelt by pieces. Stray bytes are reported last, and only if
the literal is closed. -/
def spell (ending : QuotedEnd) : (clean : Bool) → List Piece → Except Fault (List Char)
  | clean, [] =>
      match ending.fault? with
      | some fault => .error fault
      | none => if clean then .ok [] else .error .invalidCodePoint
  | clean, .char value :: rest => do
      let following ← spell ending clean rest
      return value :: following
  | _, .stray :: rest => spell ending false rest
  | clean, .unit code :: rest =>
      if isLowSurrogate code then .error .loneSurrogate
      else if isHighSurrogate code then
        match rest with
        | .unit second :: rest =>
            if isLowSurrogate second then do
              let following ← spell ending clean rest
              return surrogatePair code second :: following
            else .error .loneSurrogate
        | [] => .error ending.pairFault
        | _ => .error .unfinishedSurrogate
      else do
        let following ← spell ending clean rest
        return Char.ofNat code :: following

/-- The text of a literal, or its first fault. -/
def read (literal : Quoted) : Except Fault String :=
  (spell literal.ending true literal.pieces).map String.ofList

/-- Checks the shape of a literal whose text is not wanted. -/
def skip (literal : Quoted) : Except Fault Unit :=
  match literal.ending.fault? with
  | some fault => .error fault
  | none => .ok ()

end Quoted

end DocFilter.Json
