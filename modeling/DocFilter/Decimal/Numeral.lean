/-!
# Numerals and the numbers they are read as

A numeral without fraction and exponent that fits 64 bits is an integer. Any
other is a floating point number, computed from a 64-bit significand and a
power of ten: digits that no longer fit the significand only move the point,
and the significand is then scaled by at most a few floating point operations.
-/

namespace DocFilter.Decimal

/-- The number a numeral is read as. -/
inductive Number where
  | whole (value : Int)
  | real (value : Float)

/-- The parts of a numeral; digits are values below ten, first digit first. -/
structure Numeral where
  negative : Bool
  whole : List Nat
  /-- The digits after the point; empty if there is no point. -/
  fraction : List Nat
  /-- The written exponent: its sign and its digits. -/
  exponent : Option (Bool × List Nat)
  deriving DecidableEq

namespace Numeral

/-- The numeral has neither a fraction nor an exponent. -/
def isWhole (numeral : Numeral) : Bool :=
  numeral.fraction.isEmpty && numeral.exponent.isNone

/-- A significand and a power of ten: the number read so far. -/
structure Scaled where
  significand : Nat
  exponent : Int
  deriving DecidableEq

/-- What a significand stays below: `2 ^ 64`. -/
def significandLimit : Nat := 18446744073709551616

/-- Appends digits as long as the result stays below the limit; returns the
significand and the digits that did not fit. -/
def appendDigits : Nat → List Nat → Nat × List Nat
  | significand, [] => (significand, [])
  | significand, digit :: rest =>
      if significand * 10 + digit < significandLimit then
        appendDigits (significand * 10 + digit) rest
      else (significand, digit :: rest)

/-- The digits of a numeral as one number. Digits before the point that do not
fit raise the exponent; digits after the point that do not fit are dropped. -/
def scaled (numeral : Numeral) : Scaled :=
  let (whole, overflow) := appendDigits 0 numeral.whole
  let (significand, dropped) := appendDigits whole numeral.fraction
  { significand
    exponent := (overflow.length : Int) - (numeral.fraction.length - dropped.length : Nat) }

/-- The value of a written exponent, if it is at most `limit`. -/
def exponentMagnitude? (limit : Nat) : Nat → List Nat → Option Nat
  | magnitude, [] => some magnitude
  | magnitude, digit :: rest =>
      if magnitude * 10 + digit ≤ limit then
        exponentMagnitude? limit (magnitude * 10 + digit) rest
      else none

/-- The largest exponent that is computed with. -/
def exponentLimit : Nat := 2147483647

/-- An exponent that is computed with in the place of any other. -/
def clampExponent (exponent : Int) : Int :=
  if exponent < -2147483648 then -2147483648
  else if 2147483647 < exponent then 2147483647
  else exponent

/-- Multiplies by a power of ten, in steps small enough for the power to be a
floating point number. There is no result if it would be infinite. -/
def scale (value : Float) (exponent : Int) : Option Float :=
  if exponent.natAbs ≤ 308 then
    let power := Float.ofScientific 1 false exponent.natAbs
    if 0 ≤ exponent then
      let product := value * power
      if product.isInf then none else some product
    else some (value / power)
  else if value == 0 then some value
  else if 0 ≤ exponent then none
  else scale (value / 1e308) (exponent + 308)
termination_by exponent.natAbs
decreasing_by omega

/-- Gives a number read without its sign the sign of the numeral. -/
def signed (numeral : Numeral) (value : Float) : Float :=
  if numeral.negative then -value else value

/-- The exponent as written is out of all range while the digits are not all
zero: no number can come of it, whatever follows. -/
def overflows (numeral : Numeral) : Bool :=
  match numeral.exponent with
  | some (false, digits) =>
      (exponentMagnitude? exponentLimit 0 digits).isNone && numeral.scaled.significand != 0
  | _ => false

/-- The floating point number a numeral is read as, unless it is too large. -/
def real? (numeral : Numeral) : Option Float :=
  let ⟨significand, exponent⟩ := numeral.scaled
  let value := significand.toUInt64.toFloat
  let magnitude :=
    match numeral.exponent with
    | none => scale value exponent
    | some (negative, digits) =>
        match exponentMagnitude? exponentLimit 0 digits with
        | some written =>
            let total := if negative then exponent - written else exponent + written
            scale value (clampExponent total)
        | none => if negative || significand == 0 then some 0 else none
  magnitude.map numeral.signed

/-- The number a numeral is read as, unless it is too large. A negative zero, and
an integer that does not fit 64 bits, is a floating point number. -/
def number? (numeral : Numeral) : Option Number :=
  let (magnitude, overflow) := appendDigits 0 numeral.whole
  if numeral.isWhole && overflow.isEmpty then
    if numeral.negative then
      if magnitude = 0 || 9223372036854775808 < magnitude then
        some (.real (-magnitude.toUInt64.toFloat))
      else some (.whole (-magnitude))
    else some (.whole magnitude)
  else numeral.real?.map .real

end Numeral

end DocFilter.Decimal
