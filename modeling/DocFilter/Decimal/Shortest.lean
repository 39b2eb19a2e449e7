import DocFilter.Decimal.Dyadic

/-!
# Shortest decimal texts

Many decimals round to the same binary number. The one written is, among
those with the fewest digits, the nearest to the exact value; of two equally
near ones the last digit is even. Its digits are searched on the grids of
multiples of a power of ten, coarsest first, by exact integer comparison with
the interval of reals that round to the number.
-/

namespace DocFilter.Decimal

/-- The decimal number `coefficient * 10 ^ exponent`. -/
structure Scientific where
  coefficient : Nat
  exponent : Int
  deriving DecidableEq

namespace Shortest

/--
One grid of decimals laid over the interval of a binary number, all scaled to
integers: grid points are multiples of `step`, the number itself is `centre`,
and the reals that round to it lie between `low` and `high`.
-/
structure Grid where
  step : Nat
  low : Nat
  centre : Nat
  high : Nat
  /-- The two ends of the interval round to the number as well. -/
  closed : Bool

namespace Grid

/-- The grid of the multiples of `10 ^ exponent` over the interval of a number. -/
def ofDyadic (value : Dyadic) (exponent : Int) : Grid :=
  let scale := Nat.pow 2 (value.exponent - 2).toNat * Nat.pow 10 (-exponent).toNat
  { step := Nat.pow 10 exponent.toNat * Nat.pow 2 (2 - value.exponent).toNat
    low := (4 * value.mantissa - if value.narrowBelow then 1 else 2) * scale
    centre := 4 * value.mantissa * scale
    high := (4 * value.mantissa + 2) * scale
    closed := value.mantissa % 2 == 0 }

/-- A grid point rounds to the number. -/
def holds (grid : Grid) (point : Nat) : Bool :=
  if grid.closed then
    grid.low ≤ point * grid.step && point * grid.step ≤ grid.high
  else
    grid.low < point * grid.step && point * grid.step < grid.high

/-- The nearer of two neighbouring grid points; of two equally near ones the
even one. -/
def nearer (grid : Grid) (below above : Nat) : Nat :=
  let down := grid.centre - below * grid.step
  let up := above * grid.step - grid.centre
  if down < up then below
  else if up < down then above
  else if below % 2 = 0 then below
  else above

/-- The grid point to write, if any point of the grid rounds to the number. -/
def best? (grid : Grid) : Option Nat :=
  let below := grid.centre / grid.step
  let above := below + 1
  match grid.holds below, grid.holds above with
  | true, true => some (grid.nearer below above)
  | true, false => some below
  | false, true => some above
  | false, false => none

end Grid

/-- Tries grids from `10 ^ exponent` downwards; `finer` counts how many grids
are still to be tried after this one. -/
def search (value : Dyadic) : (finer : Nat) → (exponent : Int) → Scientific
  | 0, exponent =>
      ⟨((Grid.ofDyadic value exponent).best?).getD 0, exponent⟩
  | finer + 1, exponent =>
      match (Grid.ofDyadic value exponent).best? with
      | some point => ⟨point, exponent⟩
      | none => search value finer (exponent - 1)

/-- The shortest decimal of a positive number. The finest grid tried is one
that the number itself lies on. -/
def ofDyadic (value : Dyadic) : Scientific :=
  let coarsest := (Nat.toDigits 10 value.numerator).length
  search value (coarsest + (-value.exponent).toNat) coarsest

end Shortest

namespace Scientific

/-- The exponents, of the first digit, that are written by the position of the
point alone. -/
def positional (leading : Int) : Bool :=
  -5 ≤ leading && leading ≤ 15

/-- A number written with a point and no exponent; at least one digit stands
on either side of the point. -/
def positionalText (digits : List Char) (pointAt : Int) : List Char :=
  if pointAt ≤ 0 then
    '0' :: '.' :: (List.replicate (-pointAt).toNat '0' ++ digits)
  else if pointAt < digits.length then
    digits.take pointAt.toNat ++ '.' :: digits.drop pointAt.toNat
  else
    digits ++ List.replicate (pointAt.toNat - digits.length) '0' ++ ['.', '0']

/-- A number written with an exponent: one digit before the point, no point
if there is no further digit, and the sign of the exponent always. -/
def exponentText (digits : List Char) (leading : Int) : List Char :=
  let mark := if leading < 0 then ['e', '-'] else ['e', '+']
  let fraction :=
    match digits.drop 1 with
    | [] => []
    | rest => '.' :: rest
  digits.take 1 ++ fraction ++ mark ++ Nat.toDigits 10 leading.natAbs

def text (number : Scientific) : List Char :=
  let digits := Nat.toDigits 10 number.coefficient
  let pointAt := number.exponent + digits.length
  if positional (pointAt - 1) then positionalText digits pointAt
  else exponentText digits (pointAt - 1)

theorem mem_positionalText {digits : List Char} {pointAt : Int} {char : Char}
    (member : char ∈ positionalText digits pointAt) : char ∈ digits ∨ char = '0' ∨ char = '.' := by
  rw [positionalText] at member
  split at member
  · simp only [List.mem_cons, List.mem_append, List.mem_replicate] at member
    rcases member with zero | point | ⟨-, zero⟩ | digit
    · simp [zero]
    · simp [point]
    · simp [zero]
    · exact .inl digit
  · split at member
    · rcases List.mem_append.mp member with front | back
      · exact .inl (List.mem_of_mem_take front)
      · rcases List.mem_cons.mp back with point | back
        · simp [point]
        · exact .inl (List.mem_of_mem_drop back)
    · simp only [List.mem_append, List.mem_replicate] at member
      rcases member with (digit | ⟨-, zero⟩) | ending
      · exact .inl digit
      · simp [zero]
      · simp only [List.mem_cons, List.not_mem_nil, or_false] at ending
        exact .inr ending.symm

theorem mem_exponentText {digits : List Char} {leading : Int} {char : Char}
    (member : char ∈ exponentText digits leading) :
    char ∈ digits ∨ char.isDigit ∨ char ∈ ['.', 'e', '-', '+'] := by
  simp only [exponentText, List.mem_append] at member
  rcases member with ((first | fraction) | mark) | exponent
  · exact .inl (List.mem_of_mem_take first)
  · split at fraction
    · cases fraction
    · rcases List.mem_cons.mp fraction with point | rest
      · simp [point]
      · exact .inl (List.mem_of_mem_drop rest)
  · right
    right
    split at mark
    · exact (by decide : ['e', '-'] ⊆ ['.', 'e', '-', '+']) mark
    · exact (by decide : ['e', '+'] ⊆ ['.', 'e', '-', '+']) mark
  · exact .inr (.inl (Nat.isDigit_of_mem_toDigits (by decide) (by decide) exponent))

theorem mem_text {number : Scientific} {char : Char} (member : char ∈ number.text) :
    char.isDigit ∨ char ∈ ['.', 'e', '-', '+'] := by
  have digit (listed : char ∈ Nat.toDigits 10 number.coefficient) : char.isDigit :=
    Nat.isDigit_of_mem_toDigits (by decide) (by decide) listed
  rw [text] at member
  split at member
  · rcases mem_positionalText member with listed | zero | point
    · exact .inl (digit listed)
    · rw [zero]
      exact .inl rfl
    · rw [point]
      exact .inr List.mem_cons_self
  · rcases mem_exponentText member with listed | rest
    · exact .inl (digit listed)
    · exact rest

end Scientific

/-- The shortest text of a finite number; zero keeps its sign. Infinite
numbers and non-numbers have none. -/
def shortestText? (number : Float) : Option (List Char) :=
  (Dyadic.ofFloat? number).map fun value =>
    let sign := if value.negative then ['-'] else []
    if value.mantissa = 0 then sign ++ ['0', '.', '0']
    else sign ++ (Shortest.ofDyadic value).text

/-- The shortest text of a number holds digits, a point, signs and an exponent mark. -/
theorem mem_shortestText {number : Float} {text : List Char} {char : Char}
    (written : shortestText? number = some text) (member : char ∈ text) :
    char.isDigit ∨ char ∈ ['.', 'e', '-', '+'] := by
  obtain ⟨value, -, rfl⟩ := Option.map_eq_some_iff.mp written
  dsimp only at member
  split at member
  · rcases List.mem_append.mp member with sign | zero
    · simp [eq_minus_of_mem_sign sign]
    · simp only [List.mem_cons, List.not_mem_nil, or_false] at zero
      rcases zero with zero | point | zero
      · simp [zero]
      · simp [point]
      · simp [zero]
  · rcases List.mem_append.mp member with sign | rest
    · simp [eq_minus_of_mem_sign sign]
    · exact Scientific.mem_text rest

end DocFilter.Decimal
