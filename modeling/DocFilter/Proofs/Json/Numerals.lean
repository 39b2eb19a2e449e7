import DocFilter.Proofs.Json.Literals
import DocFilter.Proofs.Json.Value
import Mathlib.Tactic.IntervalCases

/-!
# Numerals read back

A written numeral is one token in front of any separator. So a printed number is one token,
and a numeral that denotes what is written. Integers that fit a word are read back from it. A
floating point number is taken to be faithful if its text, read alone, is that number again.
-/

namespace DocFilter.Json

open Decimal (Numeral Number digitsValue)

/-! ## The end of a numeral -/

/-- What follows cannot belong to a numeral. -/
def Separated (rest : List Char) : Prop :=
  ∀ value ∈ rest.head?, decimalDigit? value = none ∧ value ≠ '.' ∧ value ≠ 'e' ∧ value ≠ 'E'

theorem separated_nil : Separated [] := by
  intro value member
  cases member

/-- What follows starts with a character that belongs to no numeral. -/
theorem separated_cons {value : Char} {rest : List Char}
    (apart : decimalDigit? value = none ∧ value ≠ '.' ∧ value ≠ 'e' ∧ value ≠ 'E') :
    Separated (value :: rest) := by
  intro other member
  cases member
  exact apart

/-- A numeral that may be over is over before what cannot belong to it. -/
theorem lexChars_numeral {phase : NumeralPhase} (complete : phase.complete = true)
    (value : Numeral) {rest : List Char} (separated : Separated rest) :
    lexChars (.numeral phase value) rest =
      .scalar (.numeral (finishNumeral value) none) :: lexChars .idle rest := by
  cases rest with
  | nil =>
      show [Token.scalar
          (.numeral (finishNumeral value) (Lexing.finishNumeralAt phase .complete))] =
        .scalar (.numeral (finishNumeral value) none) :: lexChars .idle []
      rw [Lexing.finishNumeralAt, if_pos complete]
      rfl
  | cons symbol rest =>
      obtain ⟨notDigit, notPoint, notMark, notCapital⟩ := separated symbol rfl
      have left : (Lexing.numeral phase value).step (.char symbol) =
          afterNumeral value (.char symbol) := by
        show stepNumeral phase value symbol = afterNumeral value (.char symbol)
        unfold stepNumeral
        rw [notDigit]
        cases phase <;> simp_all [NumeralPhase.complete, leaveNumeral]
      rw [lexChars_cons, lexChars_cons, left]
      rfl

/-! ## Written numerals -/

/-- A decimal digit is read back. -/
theorem decimalDigit?_digitChar :
    ∀ digit < 10, decimalDigit? (Nat.digitChar digit) = some digit := by
  decide

theorem start_digitChar {digit : Nat} (small : digit < 10) :
    start (Nat.digitChar digit) =
      .on (.numeral (if digit = 0 then .zero else .whole) ⟨false, [digit], [], none⟩) := by
  interval_cases digit <;> rfl

/-- A numeral starts with its sign, if there is one, and a digit. -/
theorem lexChars_first (negative : Bool) {digit : Nat} (small : digit < 10) (rest : List Char) :
    lexChars .idle ((if negative then ['-'] else []) ++ Nat.digitChar digit :: rest) =
      lexChars (.numeral (if digit = 0 then .zero else .whole) ⟨negative, [digit], [], none⟩)
        rest := by
  have read := decimalDigit?_digitChar digit small
  cases negative with
  | false =>
      have started : Lexing.idle.step (.char (Nat.digitChar digit)) = _ := start_digitChar small
      exact lexChars_of_on _ started rest
  | true =>
      have signed : (Lexing.numeral .sign ⟨true, [], [], none⟩).step
            (.char (Nat.digitChar digit)) =
          .on (.numeral (if digit = 0 then .zero else .whole) ⟨true, [digit], [], none⟩) := by
        simp [Lexing.step, stepNumeral, read]
      show lexChars .idle ('-' :: Nat.digitChar digit :: rest) = _
      rw [lexChars_of_on (.numeral .sign ⟨true, [], [], none⟩) rfl, lexChars_of_on _ signed]

/-- Further digits are taken one after the other within a part of a numeral. The digits of
that part are the only thing that changes. -/
theorem lexChars_digits {phase : NumeralPhase} (held : List Nat → Numeral)
    (step : ∀ taken symbol digit, decimalDigit? symbol = some digit →
      stepNumeral phase (held taken) symbol = .on (.numeral phase (held (digit :: taken))))
    {digits : List Nat} (small : ∀ digit ∈ digits, digit < 10) (taken : List Nat)
    (rest : List Char) :
    lexChars (.numeral phase (held taken)) (digits.map Nat.digitChar ++ rest) =
      lexChars (.numeral phase (held (digits.reverse ++ taken))) rest := by
  induction digits generalizing taken with
  | nil => rfl
  | cons digit digits ih =>
      obtain ⟨first, others⟩ := List.forall_mem_cons.mp small
      have next : (Lexing.numeral phase (held taken)).step (.char (Nat.digitChar digit)) =
          .on (.numeral phase (held (digit :: taken))) :=
        step taken _ digit (decimalDigit?_digitChar digit first)
      rw [List.map_cons, List.cons_append, lexChars_of_on _ next, ih others, List.reverse_cons,
        List.append_assoc, List.singleton_append]

section

variable {numeral : Numeral} (proper : numeral.Proper)

include proper

theorem lexChars_whole (rest : List Char) :
    ∃ phase : NumeralPhase, (phase = .zero ∨ phase = .whole) ∧
      lexChars .idle ((if numeral.negative then ['-'] else []) ++
          (numeral.whole.map Nat.digitChar ++ rest)) =
        lexChars (.numeral phase ⟨numeral.negative, numeral.whole.reverse, [], none⟩) rest := by
  obtain ⟨first, others, same, zero⟩ := proper.leading
  have small := proper.whole
  rw [same] at small ⊢
  obtain ⟨firstSmall, othersSmall⟩ := List.forall_mem_cons.mp small
  rw [List.map_cons, List.cons_append, lexChars_first _ firstSmall]
  by_cases none : first = 0
  · rw [if_pos none, zero none]
    exact ⟨.zero, .inl rfl, rfl⟩
  · refine ⟨.whole, .inr rfl, ?_⟩
    rw [if_neg none, lexChars_digits (fun taken => ⟨numeral.negative, taken, [], .none⟩)
      (fun taken symbol digit read => by rw [stepNumeral, read]) othersSmall, List.reverse_cons]

theorem lexChars_fraction {phase : NumeralPhase} (before : phase = .zero ∨ phase = .whole)
    (negative : Bool) (whole : List Nat) (rest : List Char) :
    ∃ after : NumeralPhase, (after = .zero ∨ after = .whole ∨ after = .fraction) ∧
      lexChars (.numeral phase ⟨negative, whole, [], none⟩) (numeral.fractionText ++ rest) =
        lexChars (.numeral after ⟨negative, whole, numeral.fraction.reverse, none⟩) rest := by
  have small := proper.fraction
  unfold Numeral.fractionText
  cases same : numeral.fraction with
  | nil => exact ⟨phase, before.imp id .inl, rfl⟩
  | cons first others =>
      rw [same] at small
      obtain ⟨firstSmall, othersSmall⟩ := List.forall_mem_cons.mp small
      have pointed : (Lexing.numeral phase ⟨negative, whole, [], none⟩).step (.char '.') =
          .on (.numeral .point ⟨negative, whole, [], none⟩) := by
        rcases before with rfl | rfl <;> rfl
      have started : (Lexing.numeral .point ⟨negative, whole, [], none⟩).step
            (.char (Nat.digitChar first)) =
          .on (.numeral .fraction ⟨negative, whole, [first], none⟩) := by
        simp [Lexing.step, stepNumeral, decimalDigit?_digitChar first firstSmall]
      refine ⟨.fraction, .inr (.inr rfl), ?_⟩
      show lexChars _ ('.' :: Nat.digitChar first :: (others.map Nat.digitChar ++ rest)) = _
      rw [lexChars_of_on _ pointed, lexChars_of_on _ started,
        lexChars_digits (fun taken => ⟨negative, whole, taken, none⟩)
          (fun taken symbol digit read => by rw [stepNumeral, read]) othersSmall,
        List.reverse_cons]

theorem lexChars_exponent {phase : NumeralPhase}
    (before : phase = .zero ∨ phase = .whole ∨ phase = .fraction) (negative : Bool)
    (whole fraction : List Nat) {rest : List Char} (separated : Separated rest) :
    lexChars (.numeral phase ⟨negative, whole, fraction, none⟩) (numeral.exponentText ++ rest) =
      .scalar (.numeral ⟨negative, whole.reverse, fraction.reverse, numeral.exponent⟩ none) ::
        lexChars .idle rest := by
  unfold Numeral.exponentText
  cases same : numeral.exponent with
  | none =>
      have complete : phase.complete = true := by
        rcases before with rfl | rfl | rfl <;> rfl
      exact lexChars_numeral complete _ separated
  | some exponent =>
      obtain ⟨sign, digits⟩ := exponent
      obtain ⟨filled, small⟩ := proper.exponent sign digits same
      obtain ⟨first, others, rfl⟩ := List.exists_cons_of_ne_nil filled
      obtain ⟨firstSmall, othersSmall⟩ := List.forall_mem_cons.mp small
      have marked : (Lexing.numeral phase ⟨negative, whole, fraction, none⟩).step (.char 'e') =
          .on (.numeral .mark ⟨negative, whole, fraction, none⟩) := by
        rcases before with rfl | rfl | rfl <;> rfl
      have signed : (Lexing.numeral .mark ⟨negative, whole, fraction, none⟩).step
            (.char (if sign then '-' else '+')) =
          .on (.numeral .markSign ⟨negative, whole, fraction, some (sign, [])⟩) := by
        cases sign <;> rfl
      have started : (Lexing.numeral .markSign ⟨negative, whole, fraction, some (sign, [])⟩).step
            (.char (Nat.digitChar first)) =
          .on (.numeral .exponent ⟨negative, whole, fraction, some (sign, [first])⟩) := by
        simp [Lexing.step, stepNumeral, decimalDigit?_digitChar first firstSmall,
          addExponentDigit]
      show lexChars _ ('e' :: (if sign then '-' else '+') :: Nat.digitChar first ::
        (others.map Nat.digitChar ++ rest)) = _
      rw [lexChars_of_on _ marked, lexChars_of_on _ signed, lexChars_of_on _ started,
        lexChars_digits (fun taken => ⟨negative, whole, fraction, some (sign, taken)⟩)
          (fun taken symbol digit read => by simp [stepNumeral, read, addExponentDigit])
          othersSmall,
        lexChars_numeral rfl _ separated, finishNumeral]
      simp

/-- A written numeral is read as one token in front of any separator. -/
theorem lexChars_text {rest : List Char} (separated : Separated rest) :
    lexChars .idle (numeral.text ++ rest) =
      .scalar (.numeral numeral none) :: lexChars .idle rest := by
  rw [Numeral.text, Numeral.body, List.append_assoc, List.append_assoc, List.append_assoc]
  obtain ⟨phase, begun, whole⟩ :=
    lexChars_whole proper (numeral.fractionText ++ (numeral.exponentText ++ rest))
  obtain ⟨after, going, fraction⟩ := lexChars_fraction proper begun numeral.negative
    numeral.whole.reverse (numeral.exponentText ++ rest)
  rw [whole, fraction, lexChars_exponent proper going _ _ _ separated, List.reverse_reverse,
    List.reverse_reverse]

end

/-! ## Integers -/

/-- Digits whose value stays below the limit all fit. -/
theorem appendDigits_eq {digits : List Nat} {significand : Nat}
    (fits : digits.foldl (fun value digit => value * 10 + digit) significand <
      Numeral.significandLimit) :
    Numeral.appendDigits significand digits =
      (digits.foldl (fun value digit => value * 10 + digit) significand, []) := by
  have grows (digits : List Nat) (start : Nat) :
      start ≤ digits.foldl (fun value digit => value * 10 + digit) start := by
    induction digits generalizing start with
    | nil => exact Nat.le_refl _
    | cons digit digits ih =>
        have step := ih (start * 10 + digit)
        rw [List.foldl_cons]
        omega
  induction digits generalizing significand with
  | nil => rfl
  | cons digit digits ih =>
      rw [List.foldl_cons] at fits ⊢
      have first := Nat.lt_of_le_of_lt (grows digits _) fits
      rw [Numeral.appendDigits, if_pos first, ih fits]

/-- An integer is read back if it fits 64 bits, signed if it is negative. -/
def FitsWord (value : Int) : Prop := -9223372036854775808 ≤ value ∧ value < 18446744073709551616

/-- An integer that fits is read from the numeral of its digits. -/
theorem read_whole {value : Int} (fits : FitsWord value) {digits : List Nat}
    (valued : digitsValue digits = value.natAbs) :
    (Scalar.numeral ⟨decide (value < 0), digits, [], none⟩ none).read =
      .ok (.number (.whole value)) := by
  obtain ⟨low, high⟩ := fits
  have small : digitsValue digits < Numeral.significandLimit := by
    rw [valued, Numeral.significandLimit]
    omega
  have folded : Numeral.appendDigits 0 digits = (value.natAbs, []) :=
    valued ▸ appendDigits_eq small
  by_cases negative : value < 0
  · have inside : ¬(value.natAbs = 0 ∨ 9223372036854775808 < value.natAbs) := by omega
    have opposite : -(value.natAbs : Int) = value := by omega
    generalize value.natAbs = magnitude at folded inside opposite
    simp [Scalar.read, Numeral.overflows, Numeral.number?, folded, Numeral.isWhole, negative,
      inside, opposite]
  · have same : (value.natAbs : Int) = value := by omega
    simp [Scalar.read, Numeral.overflows, Numeral.number?, folded, Numeral.isWhole, negative, same]

/-! ## Numbers -/

/-- The text of a number is a scalar, in front of any separator. -/
def Prints (number : Number) (scalar : Scalar) : Prop :=
  ∀ rest, Separated rest →
    lexChars .idle (numberText number ++ rest) = .scalar scalar :: lexChars .idle rest

theorem Prints.unique {number : Number} {scalar other : Scalar} (prints : Prints number scalar)
    (prints' : Prints number other) : scalar = other := by
  have same := (prints [] separated_nil).symm.trans (prints' [] separated_nil)
  exact Token.scalar.inj (List.cons.inj same).1

/-- A number is printed as a scalar that is read as the number. -/
def Legible (number : Number) : Prop :=
  ∃ scalar : Scalar, scalar.read = .ok (.number number) ∧ Prints number scalar

end DocFilter.Json

namespace DocFilter.Decimal

open Json (Scalar)

/-- A floating point number has a text, and that text, read alone, is the number
again. -/
def Faithful (value : Float) : Prop :=
  ∃ (text : List Char) (scalar : Scalar), shortestText? value = some text ∧
    Json.tokens (.ofText (String.ofList text)) = [.scalar scalar] ∧
    scalar.read = .ok (.number (.real value))

end DocFilter.Decimal

namespace DocFilter.Json

open Decimal (Numeral)

variable {value : Float} {text : List Char}

/-- An integer is printed as a numeral that denotes it. -/
theorem exists_prints_whole (value : Int) :
    ∃ numeral : Numeral, Prints (.whole value) (.numeral numeral none) ∧ numeral.exact = value ∧
      (FitsWord value → (Scalar.numeral numeral none).read = .ok (.number (.whole value))) := by
  obtain ⟨digits, ofNumber, proper, text, exact⟩ := Decimal.exists_wholeNumeral value
  refine ⟨_, fun rest separated => ?_, exact, fun fits => read_whole fits ofNumber.value⟩
  rw [numberText, ← text]
  exact lexChars_text proper separated

/-- A finite floating point number is printed as a numeral that denotes the decimal found for
it. -/
theorem exists_prints_real (written : Decimal.shortestText? value = some text) :
    ∃ numeral : Numeral, Prints (.real value) (.numeral numeral none) ∧
      Decimal.written? value = some numeral.exact := by
  obtain ⟨numeral, proper, same, exact⟩ := Decimal.exists_realNumeral written
  refine ⟨numeral, fun rest separated => ?_, exact⟩
  rw [numberText, written, Option.getD_some, ← same]
  exact lexChars_text proper separated

/-- A number that is not finite is printed as null. -/
theorem prints_null (none : Decimal.shortestText? value = .none) : Prints (.real value) .null := by
  intro rest separated
  rw [numberText, none]
  rfl

theorem exists_prints (number : Decimal.Number) : ∃ scalar, Prints number scalar := by
  cases number with
  | whole value =>
      obtain ⟨numeral, prints, -⟩ := exists_prints_whole value
      exact ⟨_, prints⟩
  | real value =>
      cases written : Decimal.shortestText? value with
      | none => exact ⟨_, prints_null written⟩
      | some text =>
          obtain ⟨numeral, prints, -⟩ := exists_prints_real written
          exact ⟨_, prints⟩

/-- The text of a number denotes what is written for it. -/
theorem value?_of_prints {number : Decimal.Number} {scalar : Scalar}
    (prints : Prints number scalar) : scalar.value? = some (.ofNumber number) := by
  cases number with
  | whole value =>
      obtain ⟨numeral, prints', exact, -⟩ := exists_prints_whole value
      cases prints.unique prints'
      rw [Scalar.value?, exact]
      rfl
  | real value =>
      cases written : Decimal.shortestText? value with
      | none =>
          cases prints.unique (prints_null written)
          rw [Value.ofNumber, Decimal.written?, Option.map_eq_none_iff.mp written]
          rfl
      | some text =>
          obtain ⟨numeral, prints', exact⟩ := exists_prints_real written
          cases prints.unique prints'
          rw [Value.ofNumber, exact]
          rfl

theorem legible_whole {value : Int} (fits : FitsWord value) : Legible (.whole value) := by
  obtain ⟨numeral, prints, -, read⟩ := exists_prints_whole value
  exact ⟨_, read fits, prints⟩

theorem legible_real (faithful : Decimal.Faithful value) : Legible (.real value) := by
  obtain ⟨text, scalar, written, alone, read⟩ := faithful
  obtain ⟨numeral, prints, -⟩ := exists_prints_real written
  have lexed := prints [] separated_nil
  rw [numberText, written, Option.getD_some, List.append_nil] at lexed
  rw [tokens, Text.Source.ofText, String.toList_ofList] at alone
  obtain ⟨same, -⟩ := List.cons.inj (lexed.symm.trans alone)
  exact ⟨scalar, read, Token.scalar.inj same ▸ prints⟩

end DocFilter.Json
