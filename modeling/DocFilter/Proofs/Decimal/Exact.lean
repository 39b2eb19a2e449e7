import DocFilter.Decimal.Numeral
import DocFilter.Decimal.Shortest
import Mathlib.Algebra.Field.Rat
import Mathlib.Algebra.GroupWithZero.Basic
import Mathlib.Algebra.GroupWithZero.Units.Basic
import Mathlib.Tactic.NormNum
import Mathlib.Tactic.Ring

/-!
# Exact values of numerals

A numeral denotes a rational number, whatever number it is read as. What is written for an
integer denotes that integer, and what is written for a floating point number denotes the
shortest decimal that was found for it.
-/

namespace DocFilter.Decimal

/-- The value of digits, first digit first. -/
def digitsValue (digits : List Nat) : Nat := digits.foldl (fun value digit => value * 10 + digit) 0

theorem foldl_digits (start : Nat) (digits : List Nat) :
    digits.foldl (fun value digit => value * 10 + digit) start =
      start * 10 ^ digits.length + digitsValue digits := by
  induction digits generalizing start with
  | nil => simp [digitsValue]
  | cons digit rest ih =>
      have split : digitsValue (digit :: rest) =
          (0 * 10 + digit) * 10 ^ rest.length + digitsValue rest := ih _
      rw [List.foldl_cons, ih, split, List.length_cons]
      ring

theorem digitsValue_append (first second : List Nat) :
    digitsValue (first ++ second) =
      digitsValue first * 10 ^ second.length + digitsValue second := by
  rw [digitsValue, List.foldl_append, foldl_digits]
  rfl

theorem digitsValue_zeros (count : Nat) : digitsValue (List.replicate count 0) = 0 := by
  induction count with
  | zero => rfl
  | succ count ih => rw [List.replicate_succ', digitsValue_append, ih]; rfl

/-! ## Digits of a number -/

/-- The first digit is zero only if it is the only one. -/
def Leading (digits : List Nat) : Prop :=
  ∃ first rest, digits = first :: rest ∧ (first = 0 → rest = [])

theorem Leading.single (digit : Nat) : Leading [digit] := ⟨digit, [], rfl, fun _ => rfl⟩

/-- The digits of a number, as it is written. -/
structure DigitsOf (number : Nat) (digits : List Nat) : Prop where
  written : Nat.toDigits 10 number = digits.map Nat.digitChar
  value : digitsValue digits = number
  small : ∀ digit ∈ digits, digit < 10
  leading : Leading digits

theorem exists_digitsOf (number : Nat) : ∃ digits, DigitsOf number digits := by
  induction number using Nat.strong_induction_on with
  | _ number ih =>
      by_cases small : number < 10
      · refine ⟨[number], Nat.toDigits_of_lt_base small, Nat.zero_add number, ?_, ?_⟩
        · exact List.forall_mem_singleton.mpr small
        · exact .single number
      · obtain ⟨digits, written, value, each, first, rest, rfl, zero⟩ :=
          ih (number / 10) (by omega)
        refine ⟨first :: rest ++ [number % 10], ?_, ?_, ?_, ⟨first, _, rfl, ?_⟩⟩
        · rw [Nat.toDigits_of_base_le (by decide) (by omega), written, List.map_append]
          rfl
        · rw [digitsValue_append, value]
          show number / 10 * 10 + (0 * 10 + number % 10) = number
          omega
        · exact List.forall_mem_append.mpr
            ⟨each, List.forall_mem_singleton.mpr (Nat.mod_lt _ (by decide))⟩
        · intro none
          -- A number of more than one digit has others in front of its last one.
          rw [zero none, none] at value
          have nothing : number / 10 = 0 := value.symm
          omega

namespace Leading

theorem ne_nil {digits : List Nat} (leading : Leading digits) : digits ≠ [] := by
  obtain ⟨first, rest, rfl, -⟩ := leading
  exact List.cons_ne_nil first rest

/-- What begins like the digits of a number other than zero may go on in any way. -/
theorem append {digits : List Nat} (leading : Leading digits) (positive : 0 < digitsValue digits)
    {front : List Nat} (begins : front <+: digits) (filled : front ≠ []) (more : List Nat) :
    Leading (front ++ more) := by
  obtain ⟨first, rest, rfl, zero⟩ := leading
  obtain ⟨head, tail, rfl⟩ := List.exists_cons_of_ne_nil filled
  obtain ⟨rfl, -⟩ := List.cons_prefix_cons.mp begins
  refine ⟨head, tail ++ more, rfl, fun none => ?_⟩
  rw [zero none, none] at positive
  exact absurd positive (by decide)

end Leading

/-! ## Numerals -/

namespace Numeral

/-- The exponent that is written; zero if there is none. -/
def power (numeral : Numeral) : ℤ :=
  match numeral.exponent with
  | none => 0
  | some (true, digits) => -digitsValue digits
  | some (false, digits) => digitsValue digits

def magnitude (numeral : Numeral) : ℚ :=
  digitsValue (numeral.whole ++ numeral.fraction) *
    10 ^ (numeral.power - numeral.fraction.length)

/-- The number that a numeral denotes. -/
def exact (numeral : Numeral) : ℚ :=
  if numeral.negative then -numeral.magnitude else numeral.magnitude

theorem appendDigits_eq_nil {digits : List Nat} {start significand : Nat}
    (fits : appendDigits start digits = (significand, [])) :
    significand = digits.foldl (fun value digit => value * 10 + digit) start := by
  induction digits generalizing start with
  | nil =>
      cases fits
      rfl
  | cons digit rest ih =>
      rw [appendDigits] at fits
      split at fits
      · exact ih fits
      · cases fits

/-- A numeral that is read as an integer denotes that integer. -/
theorem exact_of_whole {numeral : Numeral} {value : Int}
    (read : numeral.number? = some (.whole value)) : numeral.exact = value := by
  unfold number? at read
  split at read
  next significand overflow split =>
  split at read
  case isTrue whole =>
      rw [Bool.and_eq_true, List.isEmpty_iff] at whole
      obtain ⟨bare, rfl⟩ := whole
      rw [isWhole, Bool.and_eq_true, List.isEmpty_iff, Option.isNone_iff_eq_none] at bare
      obtain ⟨noFraction, noExponent⟩ := bare
      have value_eq : significand = digitsValue numeral.whole := appendDigits_eq_nil split
      have magnitude_eq : numeral.magnitude = significand := by
        simp [magnitude, power, noFraction, noExponent, value_eq]
      rw [exact, magnitude_eq]
      split at read
      case isTrue negative =>
          rw [if_pos negative]
          split at read
          · cases read
          · cases read
            simp
      case isFalse positive =>
          rw [if_neg positive]
          cases read
          simp
  case isFalse =>
      obtain ⟨real, -, same⟩ := Option.map_eq_some_iff.mp read
      cases same

/-! ## Written numerals -/

def fractionText (numeral : Numeral) : List Char :=
  match numeral.fraction with
  | [] => []
  | digits => '.' :: digits.map Nat.digitChar

/-- The exponent with its sign, which is always written. -/
def exponentText (numeral : Numeral) : List Char :=
  match numeral.exponent with
  | none => []
  | some (negative, digits) => 'e' :: (if negative then '-' else '+') :: digits.map Nat.digitChar

/-- A numeral without its sign. -/
def body (numeral : Numeral) : List Char :=
  numeral.whole.map Nat.digitChar ++ (numeral.fractionText ++ numeral.exponentText)

def text (numeral : Numeral) : List Char :=
  (if numeral.negative then ['-'] else []) ++ numeral.body

/-- The parts of a numeral are digits, there are some in front of the point and in the
exponent, and no zero stands in front of others. -/
structure Proper (numeral : Numeral) : Prop where
  leading : Leading numeral.whole
  whole : ∀ digit ∈ numeral.whole, digit < 10
  fraction : ∀ digit ∈ numeral.fraction, digit < 10
  exponent : ∀ negative digits, numeral.exponent = some (negative, digits) →
    digits ≠ [] ∧ ∀ digit ∈ digits, digit < 10

theorem Proper.signed {numeral : Numeral} (proper : numeral.Proper) (negative : Bool) :
    { numeral with negative }.Proper :=
  ⟨proper.leading, proper.whole, proper.fraction, proper.exponent⟩

end Numeral

/-! ## Integers -/

/-- An integer is written as a numeral that denotes it. -/
theorem exists_wholeNumeral (value : Int) :
    ∃ digits, DigitsOf value.natAbs digits ∧
      (⟨decide (value < 0), digits, [], none⟩ : Numeral).Proper ∧
      (⟨decide (value < 0), digits, [], none⟩ : Numeral).text = (toString value).toList ∧
      (⟨decide (value < 0), digits, [], none⟩ : Numeral).exact = value := by
  obtain ⟨digits, ofNumber⟩ := exists_digitsOf value.natAbs
  refine ⟨digits, ofNumber, ?_, ?_, ?_⟩
  · exact ⟨ofNumber.leading, ofNumber.small, List.forall_mem_nil _, nofun⟩
  · rw [Int.toString_eq_repr, Int.repr_eq_if]
    by_cases negative : value < 0
    · have magnitude : (-value).toNat = value.natAbs := by omega
      rw [if_neg (by omega), String.toList_append, Nat.toList_repr, magnitude, ofNumber.written]
      simp [Numeral.text, Numeral.body, Numeral.fractionText, Numeral.exponentText, negative]
    · have magnitude : value.toNat = value.natAbs := by omega
      rw [if_pos (by omega), Nat.toList_repr, magnitude, ofNumber.written]
      simp [Numeral.text, Numeral.body, Numeral.fractionText, Numeral.exponentText, negative]
  · have magnitude : (digitsValue digits : ℚ) = (value.natAbs : Int) := by
      rw [ofNumber.value]
      rfl
    by_cases negative : value < 0
    · have opposite : (value.natAbs : Int) = -value := by omega
      simp [Numeral.exact, Numeral.magnitude, Numeral.power, negative, magnitude, opposite]
    · have same : (value.natAbs : Int) = value := by omega
      simp [Numeral.exact, Numeral.magnitude, Numeral.power, negative, magnitude, same]

/-! ## Floating point numbers -/

namespace Shortest

namespace Grid

theorem holds_of_best? {grid : Grid} {point : Nat} (best : grid.best? = some point) :
    grid.holds point = true := by
  unfold best? at best
  dsimp only at best
  split at best
  case h_1 below above =>
      cases best
      unfold nearer
      dsimp only
      repeat' split
      all_goals assumption
  case h_2 below _ => exact Option.some.inj best ▸ below
  case h_3 _ above => exact Option.some.inj best ▸ above
  case h_4 => cases best

theorem pos_of_best? {grid : Grid} {point : Nat} (low : 0 < grid.low)
    (best : grid.best? = some point) : 0 < point := by
  have holds := holds_of_best? best
  refine Nat.pos_of_ne_zero fun none => ?_
  rw [none, Grid.holds, Nat.zero_mul] at holds
  split at holds
  all_goals
    simp only [Bool.and_eq_true, decide_eq_true_iff] at holds
    omega

/-- A grid that the number lies on has a point to write. -/
theorem exists_best? {grid : Grid} (on : grid.step ∣ grid.centre)
    (low : grid.low < grid.centre) (high : grid.centre < grid.high) :
    ∃ point, grid.best? = some point := by
  have exactly : grid.centre / grid.step * grid.step = grid.centre := Nat.div_mul_cancel on
  have holds : grid.holds (grid.centre / grid.step) = true := by
    unfold Grid.holds
    rw [exactly]
    split
    all_goals
      simp only [Bool.and_eq_true, decide_eq_true_iff]
      omega
  unfold best?
  dsimp only
  rw [holds]
  split
  case h_1 | h_2 => exact ⟨_, rfl⟩
  case h_3 absurd _ | h_4 absurd _ => cases absurd

variable {value : Dyadic}

theorem low_pos (filled : 0 < value.mantissa) (exponent : Int) :
    0 < (ofDyadic value exponent).low := by
  have scale : 0 < Nat.pow 2 (value.exponent - 2).toNat * Nat.pow 10 (-exponent).toNat :=
    Nat.mul_pos (Nat.pow_pos (by decide)) (Nat.pow_pos (by decide))
  refine Nat.mul_pos ?_ scale
  split
  all_goals omega

/-- A number lies on the finest grid that is tried. -/
theorem exists_best?_finest (filled : 0 < value.mantissa) (exponent : Int)
    (finest : -exponent = (-value.exponent).toNat) :
    ∃ point, (ofDyadic value exponent).best? = some point := by
  have scale : 0 < Nat.pow 2 (value.exponent - 2).toNat * Nat.pow 10 (-exponent).toNat :=
    Nat.mul_pos (Nat.pow_pos (by decide)) (Nat.pow_pos (by decide))
  have whole : exponent.toNat = 0 := by omega
  have places : (-exponent).toNat = (-value.exponent).toNat := by omega
  refine exists_best? ?_ ?_ ?_
  · -- Four times the mantissa makes up for the shift by two places.
    have halves : Nat.pow 2 (2 - value.exponent).toNat ∣ 2 ^ 2 * 2 ^ (-value.exponent).toNat := by
      rw [← Nat.pow_add]
      exact Nat.pow_dvd_pow 2 (by omega)
    have tenths : 2 ^ (-value.exponent).toNat ∣ 10 ^ (-value.exponent).toNat :=
      pow_dvd_pow_of_dvd (by decide) _
    have regrouped : (ofDyadic value exponent).centre =
        2 ^ 2 * 10 ^ (-value.exponent).toNat *
          (value.mantissa * 2 ^ (value.exponent - 2).toNat) := by
      rw [← places]
      show 4 * value.mantissa *
        (2 ^ (value.exponent - 2).toNat * 10 ^ (-exponent).toNat) = _
      ring
    have step : (ofDyadic value exponent).step = Nat.pow 2 (2 - value.exponent).toNat := by
      show Nat.pow 10 exponent.toNat * _ = _
      rw [whole]
      exact Nat.one_mul _
    rw [step, regrouped]
    exact Dvd.dvd.mul_right (halves.trans (Nat.mul_dvd_mul_left _ tenths)) _
  · refine Nat.mul_lt_mul_of_pos_right ?_ scale
    split
    all_goals omega
  · exact Nat.mul_lt_mul_of_pos_right (by omega) scale

end Grid

/-- The digits that are found for a number other than zero are not all zero. -/
theorem search_pos {value : Dyadic} (filled : 0 < value.mantissa) (finer : Nat) (exponent : Int)
    (reaches : finer - exponent = (-value.exponent).toNat) :
    0 < (search value finer exponent).coefficient := by
  induction finer generalizing exponent with
  | zero =>
      obtain ⟨point, best⟩ := Grid.exists_best?_finest filled exponent (by omega)
      rw [search, best]
      exact Grid.pos_of_best? (Grid.low_pos filled exponent) best
  | succ finer ih =>
      rw [search]
      split
      next point best => exact Grid.pos_of_best? (Grid.low_pos filled exponent) best
      next => exact ih (exponent - 1) (by omega)

theorem ofDyadic_pos {value : Dyadic} (filled : 0 < value.mantissa) :
    0 < (ofDyadic value).coefficient :=
  search_pos filled _ _ (by omega)

end Shortest

namespace Scientific

def exact (number : Scientific) : ℚ := number.coefficient * 10 ^ number.exponent

variable {number : Scientific} {digits : List Nat}

theorem magnitude_eq {numeral : Numeral} (zeros : Nat)
    (value : digitsValue (numeral.whole ++ numeral.fraction) = number.coefficient * 10 ^ zeros)
    (power : numeral.power - numeral.fraction.length = number.exponent - zeros) :
    numeral.magnitude = number.exact := by
  have ten : (10 : ℚ) ≠ 0 := by norm_num
  rw [Numeral.magnitude, value, power, exact, Nat.cast_mul, Nat.cast_pow, Nat.cast_ofNat, mul_assoc,
    ← zpow_natCast, ← zpow_add₀ ten, add_sub_cancel]

theorem fractionText_of_ne_nil {fraction : List Nat} (filled : fraction ≠ []) (whole : List Nat)
    (exponent : Option (Bool × List Nat)) :
    (⟨false, whole, fraction, exponent⟩ : Numeral).fractionText =
      '.' :: fraction.map Nat.digitChar := by
  obtain ⟨digit, rest, rfl⟩ := List.exists_cons_of_ne_nil filled
  rfl

theorem zeros_small (count : Nat) : ∀ digit ∈ List.replicate count 0, digit < 10 :=
  fun digit member => List.eq_of_mem_replicate member ▸ by decide

section

variable (ofNumber : DigitsOf number.coefficient digits) (positive : 0 < number.coefficient)

include ofNumber

/-- A small number is written behind a point and zeros. -/
theorem exists_behindZeros (place : number.exponent + digits.length ≤ 0) :
    let pointAt := number.exponent + digits.length
    ∃ numeral : Numeral, numeral.Proper ∧
      numeral.body =
        '0' :: '.' :: (List.replicate (-pointAt).toNat '0' ++ digits.map Nat.digitChar) ∧
      numeral.magnitude = number.exact := by
  intro pointAt
  let zeros := List.replicate (-pointAt).toNat 0
  have small : ∀ digit ∈ zeros ++ digits, digit < 10 :=
    List.forall_mem_append.mpr ⟨zeros_small _, ofNumber.small⟩
  refine ⟨⟨false, [0], zeros ++ digits, none⟩, ⟨.single 0, by simp, small, nofun⟩, ?_, ?_⟩
  · rw [Numeral.body, fractionText_of_ne_nil (by simp [ofNumber.leading.ne_nil])]
    simp [Numeral.exponentText, zeros]
  · refine magnitude_eq 0 ?_ ?_
    · show digitsValue (List.replicate 1 0 ++ (zeros ++ digits)) = _
      rw [← List.append_assoc, List.replicate_append_replicate, digitsValue_append,
        digitsValue_zeros, ofNumber.value]
      simp
    · simp [Numeral.power, zeros]
      omega

/-- Very small and very large numbers are written with one digit before the point, and an
exponent. -/
theorem exists_exponential :
    ∃ numeral : Numeral, numeral.Proper ∧
      numeral.body =
        exponentText (digits.map Nat.digitChar) (number.exponent + digits.length - 1) ∧
      numeral.magnitude = number.exact := by
  generalize place : number.exponent + digits.length - 1 = leading
  obtain ⟨written, ofExponent⟩ := exists_digitsOf leading.natAbs
  obtain ⟨first, rest, rfl, -⟩ := ofNumber.leading
  obtain ⟨small, others⟩ := List.forall_mem_cons.mp ofNumber.small
  let numeral : Numeral := ⟨false, [first], rest, some (decide (leading < 0), written)⟩
  have proper : numeral.Proper := by
    refine ⟨.single first, List.forall_mem_singleton.mpr small, others, ?_⟩
    rintro _ _ ⟨⟩
    exact ⟨ofExponent.leading.ne_nil, ofExponent.small⟩
  have exponent : numeral.exponentText =
      (if leading < 0 then ['e', '-'] else ['e', '+']) ++ written.map Nat.digitChar := by
    by_cases negative : leading < 0 <;> simp [numeral, Numeral.exponentText, negative]
  have power : numeral.power = leading := by
    have value := ofExponent.value
    by_cases negative : leading < 0
    all_goals
      simp only [numeral, Numeral.power, negative, decide_true, decide_false]
      omega
  refine ⟨numeral, proper, ?_, magnitude_eq 0 ?_ ?_⟩
  · rw [Numeral.body, exponent, exponentText, ofExponent.written]
    cases rest with
    | nil => simp [numeral, Numeral.fractionText]
    | cons second rest => simp [numeral, Numeral.fractionText]
  · simp [numeral, ofNumber.value]
  · rw [power, ← place, List.length_cons]
    simp [numeral]
    omega

include positive

/-- Other numbers are written with a point among their digits. -/
theorem exists_amongDigits {before : Nat} (some : 0 < before) (inside : before < digits.length)
    (place : number.exponent + digits.length = before) :
    ∃ numeral : Numeral, numeral.Proper ∧
      numeral.body = (digits.map Nat.digitChar).take before ++
        '.' :: (digits.map Nat.digitChar).drop before ∧
      numeral.magnitude = number.exact := by
  have filled : 0 < digitsValue digits := ofNumber.value ▸ positive
  have front : digits.take before ≠ [] := by
    simp [ofNumber.leading.ne_nil]
    omega
  have leading := ofNumber.leading.append filled (List.take_prefix before digits) front []
  rw [List.append_nil] at leading
  refine ⟨⟨false, digits.take before, digits.drop before, none⟩, ⟨leading, ?_, ?_, nofun⟩, ?_, ?_⟩
  · exact fun digit member => ofNumber.small digit (List.mem_of_mem_take member)
  · exact fun digit member => ofNumber.small digit (List.mem_of_mem_drop member)
  · rw [Numeral.body, fractionText_of_ne_nil (by simp; omega)]
    simp [Numeral.exponentText]
  · refine magnitude_eq 0 ?_ ?_
    · simp [ofNumber.value]
    · simp [Numeral.power]
      omega

/-- Large numbers are written with zeros behind their digits, and one more behind the point. -/
theorem exists_beforeZeros {missing : Nat} (place : number.exponent = missing) :
    ∃ numeral : Numeral, numeral.Proper ∧
      numeral.body = digits.map Nat.digitChar ++ List.replicate missing '0' ++ ['.', '0'] ∧
      numeral.magnitude = number.exact := by
  have filled : 0 < digitsValue digits := ofNumber.value ▸ positive
  let zeros := List.replicate missing 0
  have leading : Leading (digits ++ zeros) :=
    ofNumber.leading.append filled List.prefix_rfl ofNumber.leading.ne_nil zeros
  have small : ∀ digit ∈ digits ++ zeros, digit < 10 :=
    List.forall_mem_append.mpr ⟨ofNumber.small, zeros_small _⟩
  refine ⟨⟨false, digits ++ zeros, [0], none⟩, ⟨leading, small, by simp, nofun⟩, ?_, ?_⟩
  · rw [Numeral.body, fractionText_of_ne_nil (List.cons_ne_nil 0 [])]
    simp [Numeral.exponentText, zeros]
    rfl
  · refine magnitude_eq (missing + 1) ?_ ?_
    · show digitsValue (digits ++ zeros ++ List.replicate 1 0) = _
      rw [List.append_assoc, List.replicate_append_replicate, digitsValue_append,
        digitsValue_zeros, ofNumber.value, List.length_replicate]
      rfl
    · simp [Numeral.power]
      omega

theorem exists_positional :
    ∃ numeral : Numeral, numeral.Proper ∧
      numeral.body =
        positionalText (digits.map Nat.digitChar) (number.exponent + digits.length) ∧
      numeral.magnitude = number.exact := by
  unfold positionalText
  rw [List.length_map]
  split
  case isTrue small => exact exists_behindZeros ofNumber small
  case isFalse behind =>
      split
      case isTrue inside =>
          exact exists_amongDigits ofNumber positive (by omega) (by omega) (by omega)
      case isFalse large => exact exists_beforeZeros ofNumber positive (by omega)

end

theorem exists_numeral (positive : 0 < number.coefficient) :
    ∃ numeral : Numeral, numeral.Proper ∧ numeral.body = number.text ∧
      numeral.magnitude = number.exact := by
  obtain ⟨digits, ofNumber⟩ := exists_digitsOf number.coefficient
  rw [text, ofNumber.written, List.length_map]
  split
  · exact exists_positional ofNumber positive
  · exact exists_exponential ofNumber

end Scientific

/-- The number that is written for a floating point number, if it is finite: the shortest
decimal that is found for it. -/
def written? (number : Float) : Option ℚ :=
  (Dyadic.ofFloat? number).map fun value =>
    let magnitude : ℚ := if value.mantissa = 0 then 0 else (Shortest.ofDyadic value).exact
    if value.negative then -magnitude else magnitude

/-- A floating point number is written as a numeral that denotes the decimal found for it. -/
theorem exists_realNumeral {number : Float} {text : List Char}
    (written : shortestText? number = some text) :
    ∃ numeral : Numeral, numeral.Proper ∧ numeral.text = text ∧
      written? number = some numeral.exact := by
  obtain ⟨value, finite, rfl⟩ := Option.map_eq_some_iff.mp written
  rw [written?, finite, Option.map_some]
  dsimp only
  split
  case isTrue zero =>
      refine ⟨⟨value.negative, [0], [0], none⟩, ⟨.single 0, by simp, by simp, nofun⟩, rfl, ?_⟩
      simp [Numeral.exact, Numeral.magnitude, digitsValue]
  case isFalse filled =>
      obtain ⟨numeral, proper, body, magnitude⟩ :=
        Scientific.exists_numeral (Shortest.ofDyadic_pos (Nat.pos_of_ne_zero filled))
      refine ⟨{ numeral with negative := value.negative }, proper.signed _, ?_, ?_⟩
      · rw [← body]
        rfl
      · rw [← magnitude]
        rfl

/-- The numeral 0.09090909090909091 is read as a number for which another one is written. -/
example :
    let numeral : Numeral := ⟨false, [0], [0, 9, 0, 9, 0, 9, 0, 9, 0, 9, 0, 9, 0, 9, 0, 9, 1], none⟩
    (match numeral.number? with
      | some (.real number) => written? number
      | _ => none) = some (numeral.exact + 2 / 10 ^ 17) := by
  decide +kernel

end DocFilter.Decimal
