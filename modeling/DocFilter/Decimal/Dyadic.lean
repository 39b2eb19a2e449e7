/-!
# Exact values of floating point numbers

A finite number in the 64-bit binary format is an integer times a power of
two. Decimal texts are computed from that exact value, in integer arithmetic.
-/

namespace DocFilter.Decimal

/-- The exact value `± mantissa * 2 ^ exponent` of a finite number. -/
structure Dyadic where
  negative : Bool
  mantissa : Nat
  exponent : Int
  /-- The next smaller number is only half as far away as the next larger one. -/
  narrowBelow : Bool
  deriving DecidableEq

namespace Dyadic

/-- The exact value of a number, unless it is infinite or no number at all. -/
def ofFloat? (number : Float) : Option Dyadic :=
  let bits : Nat := number.toBits.toNat
  let fraction : Nat := bits % Nat.pow 2 52
  let binade : Nat := bits / Nat.pow 2 52 % Nat.pow 2 11
  let negative := bits / Nat.pow 2 63 == 1
  if binade = 2047 then none
  else if binade = 0 then some ⟨negative, fraction, -1074, false⟩
  else
    some ⟨negative, Nat.pow 2 52 + fraction, (binade : Int) - 1075,
      fraction == 0 && decide (1 < binade)⟩

def numerator (value : Dyadic) : Nat :=
  value.mantissa * Nat.pow 2 value.exponent.toNat

/-- The denominator of the magnitude, a power of two. -/
def denominator (value : Dyadic) : Nat :=
  Nat.pow 2 (-value.exponent).toNat

end Dyadic

/-- The only sign that is written is that of a negative number. -/
theorem eq_minus_of_mem_sign {negative : Bool} {char : Char}
    (member : char ∈ if negative then ['-'] else []) : char = '-' := by
  split at member
  · exact List.mem_singleton.mp member
  · cases member

end DocFilter.Decimal
