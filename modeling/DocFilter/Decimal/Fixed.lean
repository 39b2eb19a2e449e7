import DocFilter.Decimal.Dyadic

/-!
# Decimal texts with a fixed number of places

The exact value is rounded to a multiple of a power of ten, a half going to
the even neighbour, and written without an exponent.
-/

namespace DocFilter.Decimal

/-- A quotient rounded to the nearest integer; a half goes to the even one. -/
def roundHalfEven (numerator denominator : Nat) : Nat :=
  let quotient := numerator / denominator
  let doubled := 2 * (numerator % denominator)
  if doubled < denominator then quotient
  else if denominator < doubled then quotient + 1
  else if quotient % 2 = 0 then quotient
  else quotient + 1

/-- The integer `units`, counted in steps of `10 ^ -places`, written with a
point in front of the last `places` digits. -/
def placesText (places units : Nat) : List Char :=
  let digits := Nat.toDigits 10 units
  let padded := List.replicate (places + 1 - digits.length) '0' ++ digits
  let whole := padded.length - places
  if places = 0 then padded
  else padded.take whole ++ '.' :: padded.drop whole

/-- A number with `places` digits after the point; the sign is kept even when
nothing but zeros remains. -/
def fixedText (places : Nat) (number : Float) : List Char :=
  match Dyadic.ofFloat? number with
  | some value =>
      (if value.negative then ['-'] else []) ++
        placesText places (roundHalfEven (value.numerator * Nat.pow 10 places) value.denominator)
  | none =>
      if number.isNaN then ['N', 'a', 'N']
      else if number < 0 then ['-', 'i', 'n', 'f']
      else ['i', 'n', 'f']

theorem mem_placesText {places units : Nat} {char : Char}
    (member : char ∈ placesText places units) : char.isDigit ∨ char = '.' := by
  have digit (padded : char ∈ List.replicate (places + 1 - (Nat.toDigits 10 units).length) '0' ++
      Nat.toDigits 10 units) : char.isDigit := by
    rcases List.mem_append.mp padded with zero | digit
    · rw [(List.mem_replicate.mp zero).2]
      rfl
    · exact Nat.isDigit_of_mem_toDigits (by decide) (by decide) digit
  rw [placesText] at member
  split at member
  · exact .inl (digit member)
  · rcases List.mem_append.mp member with front | back
    · exact .inl (digit (List.mem_of_mem_take front))
    · rcases List.mem_cons.mp back with point | back
      · exact .inr point
      · exact .inl (digit (List.mem_of_mem_drop back))

/-- The text of a number holds digits, a point and a sign, or it is a word for a number
that has none. -/
theorem mem_fixedText {places : Nat} {number : Float} {char : Char}
    (member : char ∈ fixedText places number) :
    char.isDigit ∨ char ∈ ['.', '-', 'N', 'a', 'i', 'n', 'f'] := by
  rw [fixedText] at member
  split at member
  case h_1 value exact =>
    rcases List.mem_append.mp member with sign | digits
    · rw [eq_minus_of_mem_sign sign]
      exact .inr (by decide)
    · rcases mem_placesText digits with digit | point
      · exact .inl digit
      · rw [point]
        exact .inr (by decide)
  case h_2 =>
    right
    split at member
    · exact (by decide : ['N', 'a', 'N'] ⊆ ['.', '-', 'N', 'a', 'i', 'n', 'f']) member
    · split at member
      · exact (by decide : ['-', 'i', 'n', 'f'] ⊆ ['.', '-', 'N', 'a', 'i', 'n', 'f']) member
      · exact (by decide : ['i', 'n', 'f'] ⊆ ['.', '-', 'N', 'a', 'i', 'n', 'f']) member

/-- A natural number is written with digits only. -/
theorem not_mem_toString (number : Nat) {char : Char} (letter : char.isDigit = false) :
    char ∉ (toString number).toList := by
  intro member
  have written : (toString number).toList = Nat.toDigits 10 number := Nat.toList_repr
  rw [written] at member
  rw [Nat.isDigit_of_mem_toDigits (by decide) (by decide) member] at letter
  cases letter

theorem not_mem_fixedText (places : Nat) (number : Float) {char : Char}
    (letter : char.isDigit = false) (other : char ∉ ['.', '-', 'N', 'a', 'i', 'n', 'f']) :
    char ∉ fixedText places number := by
  intro member
  rcases mem_fixedText member with digit | listed
  · cases letter.symm.trans digit
  · exact other listed

end DocFilter.Decimal
