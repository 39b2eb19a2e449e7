import DocFilter.Decimal.Numeral
import DocFilter.Json.Quoted

/-!
# Tokens of JSON text

A text falls into brackets, separators, words, numerals and string literals.
A faulty token is still a token and carries what is wrong with it; it is the
last one, since nothing after it matters.
-/

namespace DocFilter.Json

open Decimal (Numeral Number)

/-- What keeps a numeral from being complete. -/
inductive NumeralFlaw where
  /-- A symbol stands where a digit must be, or a digit where none may be. -/
  | malformed
  /-- The text ends where a digit must be. -/
  | unfinished
  /-- The channel failed before it was certain that the numeral was over. -/
  | interrupted (reason : String)
  deriving DecidableEq

/-- A value without parts, as it stands in a text. -/
inductive Scalar where
  | null
  | bool (value : Bool)
  /-- A misspelt word. -/
  | word (fault : Fault)
  | numeral (value : Numeral) (flaw : Option NumeralFlaw)
  | quoted (literal : Quoted)
  deriving DecidableEq

/-- What a value turns out to be when it is looked at. -/
inductive Found where
  | null
  | bool (value : Bool)
  | number (value : Number)
  | string (text : String)
  | list
  | object

namespace Scalar

def read : Scalar → Except Fault Found
  | .null => .ok .null
  | .bool value => .ok (.bool value)
  | .word fault => .error fault
  | .numeral value flaw =>
      if value.overflows then .error .numberOutOfRange
      else
        match flaw with
        | some .malformed => .error .invalidNumber
        | some .unfinished => .error (.ended .value)
        | some (.interrupted reason) => .error (.interrupted reason)
        | none =>
            match value.number? with
            | some denoted => .ok (.number denoted)
            | none => .error .numberOutOfRange
  | .quoted literal => literal.read.map .string

/-- Passes over a scalar that is not wanted: only its shape is checked. -/
def skip : Scalar → Except Fault Unit
  | .word fault => .error fault
  | .numeral _ (some (.interrupted reason)) => .error (.interrupted reason)
  | .numeral _ (some _) => .error .invalidNumber
  | .quoted literal => literal.skip
  | _ => .ok ()

end Scalar

inductive Token where
  | openList
  | closeList
  | openObject
  | closeObject
  | comma
  | colon
  | scalar (value : Scalar)
  /-- A symbol that starts no token. -/
  | stray
  deriving DecidableEq

/-- Where in a numeral the last symbol was. -/
inductive NumeralPhase where
  | sign
  | zero
  | whole
  | point
  | fraction
  | mark
  | markSign
  | exponent
  deriving DecidableEq

/-- The numeral may end after this phase. -/
def NumeralPhase.complete : NumeralPhase → Bool
  | .zero | .whole | .fraction | .exponent => true
  | _ => false

/-- What has been read of a token; pieces and digits stand last one first. -/
inductive Lexing where
  /-- Between tokens. -/
  | idle
  /-- In a word, of which these letters are still to come. -/
  | word (missing : List Char) (value : Scalar)
  | numeral (phase : NumeralPhase) (value : Numeral)
  | quoted (pieces : List Piece)
  /-- After a backslash. -/
  | escape (pieces : List Piece)
  /-- In a unit escape: the bytes still to come, the value so far, and whether
  all bytes so far were hexadecimal digits. -/
  | unit (pieces : List Piece) (missing : Nat) (code : Nat) (proper : Bool)

/-- What one symbol leads to: finished tokens, and what is then being read, or
nothing if the last of the tokens is faulty. -/
structure Lexed where
  tokens : List Token
  next : Option Lexing

namespace Lexed

/-- Reading goes on. -/
def on (next : Lexing) : Lexed := ⟨[], some next⟩

/-- A token is finished. -/
def done (token : Token) : Lexed := ⟨[token], some .idle⟩

/-- A token is faulty. -/
def halt (token : Token) : Lexed := ⟨[token], none⟩

end Lexed

def decimalDigit? (value : Char) : Option Nat :=
  if '0' ≤ value && value ≤ '9' then some (value.toNat - '0'.toNat) else none

/-- The value of a hexadecimal digit, in either case. -/
def hexDigit? (value : Char) : Option Nat :=
  if '0' ≤ value && value ≤ '9' then some (value.toNat - '0'.toNat)
  else if 'a' ≤ value && value ≤ 'f' then some (value.toNat - 'a'.toNat + 10)
  else if 'A' ≤ value && value ≤ 'F' then some (value.toNat - 'A'.toNat + 10)
  else none

/-- The character that a letter escape names. -/
def letterEscape? : Char → Option Char
  | '"' => some '"'
  | '\\' => some '\\'
  | '/' => some '/'
  | 'b' => some '\x08'
  | 'f' => some '\x0c'
  | 'n' => some '\n'
  | 'r' => some '\r'
  | 't' => some '\t'
  | _ => none

/-- The four characters that may stand between tokens. -/
def isBlank (value : Char) : Bool :=
  value == ' ' || value == '\t' || value == '\n' || value == '\r'

/-- The numeral with digits in reading order. -/
def finishNumeral (value : Numeral) : Numeral where
  negative := value.negative
  whole := value.whole.reverse
  fraction := value.fraction.reverse
  exponent := value.exponent.map fun (negative, digits) => (negative, digits.reverse)

/-- A literal with pieces in reading order. -/
def finishQuoted (pieces : List Piece) (ending : QuotedEnd) : Token :=
  .scalar (.quoted ⟨pieces.reverse, ending⟩)

def start (value : Char) : Lexed :=
  if isBlank value then .on .idle
  else
    match value with
    | '[' => .done .openList
    | ']' => .done .closeList
    | '\x7b' => .done .openObject
    | '\x7d' => .done .closeObject
    | ',' => .done .comma
    | ':' => .done .colon
    | '"' => .on (.quoted [])
    | 'n' => .on (.word ['u', 'l', 'l'] .null)
    | 't' => .on (.word ['r', 'u', 'e'] (.bool true))
    | 'f' => .on (.word ['a', 'l', 's', 'e'] (.bool false))
    | '-' => .on (.numeral .sign ⟨true, [], [], none⟩)
    | _ =>
        match decimalDigit? value with
        | some 0 => .on (.numeral .zero ⟨false, [0], [], none⟩)
        | some digit => .on (.numeral .whole ⟨false, [digit], [], none⟩)
        | none => .halt .stray

def startSymbol : Text.Symbol → Lexed
  | .char value => start value
  | .stray _ => .halt .stray

/-- One more symbol after a numeral that may be over: if the numeral does not
take it, a new token starts with it. -/
def afterNumeral (value : Numeral) (symbol : Text.Symbol) : Lexed :=
  let following := startSymbol symbol
  { following with
    tokens := .scalar (.numeral (finishNumeral value) none) :: following.tokens }

def badNumeral (value : Numeral) : Lexed :=
  .halt (.scalar (.numeral (finishNumeral value) (some .malformed)))

def addExponentDigit (value : Numeral) (digit : Nat) : Numeral :=
  { value with
    exponent := some <|
      match value.exponent with
      | some (negative, digits) => (negative, digit :: digits)
      | none => (false, [digit]) }

/-- A symbol that a numeral does not take: if the numeral may be over, it is. -/
def leaveNumeral (phase : NumeralPhase) (value : Numeral) (symbol : Text.Symbol) : Lexed :=
  if phase.complete then afterNumeral value symbol else badNumeral value

def stepNumeral (phase : NumeralPhase) (value : Numeral) (char : Char) : Lexed :=
  match decimalDigit? char with
  | some digit =>
      match phase with
      | .sign =>
          .on (.numeral (if digit = 0 then .zero else .whole)
            { value with whole := [digit] })
      | .zero => badNumeral value
      | .whole => .on (.numeral .whole { value with whole := digit :: value.whole })
      | .point | .fraction =>
          .on (.numeral .fraction { value with fraction := digit :: value.fraction })
      | .mark | .markSign | .exponent =>
          .on (.numeral .exponent (addExponentDigit value digit))
  | none =>
      match phase with
      | .zero | .whole =>
          if char = '.' then .on (.numeral .point value)
          else if char = 'e' || char = 'E' then .on (.numeral .mark value)
          else leaveNumeral phase value (.char char)
      | .fraction =>
          if char = 'e' || char = 'E' then .on (.numeral .mark value)
          else leaveNumeral phase value (.char char)
      | .mark =>
          if char = '+' then
            .on (.numeral .markSign { value with exponent := some (false, []) })
          else if char = '-' then
            .on (.numeral .markSign { value with exponent := some (true, []) })
          else leaveNumeral phase value (.char char)
      | _ => leaveNumeral phase value (.char char)

def stepQuoted (pieces : List Piece) : Text.Symbol → Lexed
  | .stray _ => .on (.quoted (.stray :: pieces))
  | .char value =>
      if value = '"' then .done (finishQuoted pieces .closed)
      else if value = '\\' then .on (.escape pieces)
      else if value.toNat < 0x20 then .halt (finishQuoted pieces .controlCharacter)
      else .on (.quoted (.char value :: pieces))

/-- The symbol after a backslash. -/
def stepEscape (pieces : List Piece) : Text.Symbol → Lexed
  | .stray _ => .halt (finishQuoted pieces .unknownEscape)
  | .char value =>
      if value = 'u' then .on (.unit pieces 4 0 true)
      else
        match letterEscape? value with
        | some named => .on (.quoted (.char named :: pieces))
        | none => .halt (finishQuoted pieces .unknownEscape)

/-- One symbol of a unit escape. Four bytes are taken before any of them is
judged, and a long character may take several at once. -/
def stepUnit (pieces : List Piece) (missing code : Nat) (proper : Bool)
    (symbol : Text.Symbol) : Lexed :=
  let digit? :=
    match symbol with
    | .char value => hexDigit? value
    | .stray _ => none
  let code := code * 16 + digit?.getD 0
  let proper := proper && digit?.isSome
  if symbol.width < missing then .on (.unit pieces (missing - symbol.width) code proper)
  else if proper then .on (.quoted (.unit code :: pieces))
  else .halt (finishQuoted pieces .badUnit)

def stepWord (missing : List Char) (value : Scalar) (symbol : Text.Symbol) : Lexed :=
  match missing with
  | [] => .done (.scalar value)
  | letter :: missing =>
      if symbol = .char letter then
        match missing with
        | [] => .done (.scalar value)
        | _ => .on (.word missing value)
      else .halt (.scalar (.word .expectedWord))

namespace Lexing

def step : Lexing → Text.Symbol → Lexed
  | .idle, symbol => startSymbol symbol
  | .word missing value, symbol => stepWord missing value symbol
  | .numeral phase value, .char char => stepNumeral phase value char
  | .numeral phase value, .stray byte => leaveNumeral phase value (.stray byte)
  | .quoted pieces, symbol => stepQuoted pieces symbol
  | .escape pieces, symbol => stepEscape pieces symbol
  | .unit pieces missing code proper, symbol => stepUnit pieces missing code proper symbol

/-- The end of a numeral at the end of the text. A channel that fails right
after a numeral leaves open whether a further digit was to come. -/
def finishNumeralAt (phase : NumeralPhase) : Text.Ending → Option NumeralFlaw
  | .complete => if phase.complete then none else some .unfinished
  | .interrupted reason => some (.interrupted reason)

def finish (ending : Text.Ending) : Lexing → List Token
  | .idle => []
  | .word _ _ => [.scalar (.word (.ofEnding .value ending))]
  | .numeral phase value =>
      [.scalar (.numeral (finishNumeral value) (finishNumeralAt phase ending))]
  | .quoted pieces => [finishQuoted pieces (.cut ending)]
  | .escape pieces => [finishQuoted pieces (.cut ending)]
  | .unit pieces _ _ _ => [finishQuoted pieces (.cut ending)]

end Lexing

/-- The tokens of the symbols from one state on. -/
def lex (ending : Text.Ending) : Lexing → List Text.Symbol → List Token
  | state, [] => state.finish ending
  | state, symbol :: rest =>
      match state.step symbol with
      | ⟨tokens, some next⟩ => tokens ++ lex ending next rest
      | ⟨tokens, none⟩ => tokens

def tokens (source : Text.Source) : List Token :=
  lex source.ending .idle source.symbols

end DocFilter.Json
