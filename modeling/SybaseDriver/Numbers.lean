/-
This file proves which numbers `command::getNumber` reads exactly. The text of a
DECIMAL or NUMERIC column is a decimal literal. Cutting the zeros of its fraction
keeps its value, and a text that is kept as a number keeps it too; only the choice
of a 64-bit integer goes wrong, at 19 digits of a negative number, where the
comparison with the least integer is the wrong way round, and where a number within
the range is written with more than 19 digits.
-/

import SybaseDriver.DecimalLiteral
import SybaseDriver.GetValue

namespace Sybase

open DecimalLiteral

/-! ### Texts of digits -/

/-- `strcmp` orders texts with the same number of digits as the numbers they stand for. -/
theorem strcmpLe_digits {first second : List Digit} (length : first.length = second.length) :
    strcmpLe (first.map Digit.char) (second.map Digit.char) =
      decide (Digit.number first ≤ Digit.number second) := by
  induction first generalizing second with
  | nil =>
    rw [List.eq_nil_of_length_eq_zero length.symm]
    rfl
  | cons digit first inductionHypothesis =>
    obtain ⟨digit', second, rfl⟩ := List.exists_cons_of_length_eq_add_one length.symm
    have rest := Nat.succ.inj length
    rw [List.map_cons, List.map_cons, strcmpLe, inductionHypothesis rest, Bool.eq_iff_iff]
    simp only [Bool.or_eq_true, Bool.and_eq_true, decide_eq_true_eq, Digit.char_lt,
      Digit.char_injective.eq_iff]
    exact (Digit.number_le_cons rest).symm

/-- `strtoll` reads the digits of a number. -/
theorem leadingDigits_digits (value : Nat) (digits : List Digit) :
    leadingDigits value (digits.map Digit.char) =
      (value * 10 ^ digits.length + Digit.number digits : Nat) := by
  induction digits generalizing value with
  | nil => simp [leadingDigits, Digit.number]
  | cons digit digits inductionHypothesis =>
    have next : (value : Int) * 10 + (digit.char.toNat - '0'.toNat : Nat) =
        (value * 10 + digit : Nat) := by
      rw [Digit.toNat_char]
      push_cast
      ring
    rw [List.map_cons, leadingDigits, if_pos digit.isDigit_char, next, inductionHypothesis,
      Digit.number, List.length_cons]
    congr 1
    ring

/-- The bounds of a signed 64-bit number. -/
abbrev minInt64 : Int := -9223372036854775808

abbrev maxInt64 : Int := 9223372036854775807

/-- `strtoll` of a whole literal: its value, or the bound it exceeds. -/
theorem strtoll_render {literal : DecimalLiteral} (whole : literal.fraction = none) :
    strtoll literal.render = max minInt64 (min maxInt64 literal.toInt) := by
  have digits : ∀ digits : List Digit, leadingDigits 0 (digits.map Digit.char) =
      Digit.number digits :=
    fun digits => by
      have read := leadingDigits_digits 0 digits
      rwa [Nat.zero_mul, Nat.zero_add] at read
  obtain ⟨negative, integer, fraction, nonempty⟩ := literal
  subst whole
  cases negative with
  | true =>
    simp only [strtoll, render, signText, fractionText, List.append_nil, if_true,
      List.singleton_append, toInt, digits]
  | false =>
    obtain ⟨digit, rest, rfl⟩ := List.exists_cons_of_ne_nil nonempty
    simp only [strtoll, render, signText, fractionText, List.append_nil, Bool.false_eq_true,
      if_false, List.nil_append, toInt]
    split
    · rename_i same
      exact absurd (List.cons.inj same).1 digit.char_ne_minus
    · rw [digits]

/-! ### Cutting zeros -/

/-- Cutting the zeros at the end of a text cuts those of its fraction. -/
theorem trimTrailing_fraction (before : Text) (digits : List Digit) :
    trimTrailing '0' (before ++ '.' :: digits.map Digit.char) =
      before ++ '.' :: (cutZeros digits).map Digit.char := by
  have dropped : ∀ value : Text, trimTrailing '0' value = value.rdropWhile (· = '0') := fun _ => rfl
  rw [dropped]
  induction digits using List.reverseRecOn with
  | nil => exact List.rdropWhile_concat_neg _ _ _ (by decide)
  | append_singleton digits digit inductionHypothesis =>
    rw [List.map_append, ← List.cons_append, ← List.append_assoc]
    by_cases zero : digit = 0
    · have dropped : List.map Digit.char [digit] = ['0'] := by rw [zero]; rfl
      rw [dropped, List.rdropWhile_concat_pos _ _ _ (by decide), inductionHypothesis, cutZeros,
        cutZeros, List.rdropWhile_concat_pos _ _ _ (by simpa using zero)]
    · rw [List.map_singleton, List.rdropWhile_concat_neg _ _ _ (by simp [digit.char_eq_zero, zero]),
        cutZeros, List.rdropWhile_concat_neg _ _ _ (by simpa using zero)]
      simp

/-- The text before the fraction. -/
def integerText (literal : DecimalLiteral) : Text :=
  signText literal.negative ++ literal.integer.map Digit.char

theorem render_eq (literal : DecimalLiteral) :
    literal.render = integerText literal ++ fractionText literal.fraction := by
  rw [render, integerText, List.append_assoc]

theorem point_notMem_integerText (literal : DecimalLiteral) : '.' ∉ integerText literal := by
  rw [integerText, List.mem_append, not_or]
  refine ⟨?_, point_notMem_digits _⟩
  cases literal.negative <;> decide

/-- The literal is taken for a 64-bit integer: by its number of digits, and where there are 19 of
them by the comparison that `getNumber` makes with a bound. -/
def TakenForInt (literal : DecimalLiteral) : Prop :=
  literal.integer.length < 19 ∨ literal.integer.length = 19 ∧
    if literal.negative then 9223372036854775808 ≤ Digit.number literal.integer
    else Digit.number literal.integer ≤ 9223372036854775807

instance (literal : DecimalLiteral) : Decidable (TakenForInt literal) :=
  inferInstanceAs (Decidable (_ ∨ _))

/-- The text has a point where the literal has a fraction. -/
theorem contains_point (literal : DecimalLiteral) :
    literal.render.contains '.' = literal.fraction.isSome := by
  rw [Bool.eq_iff_iff, List.contains_iff_mem, render_eq, List.mem_append,
    or_iff_right (point_notMem_integerText literal)]
  cases literal.fraction with
  | none => exact ⟨nofun, nofun⟩
  | some digits => exact ⟨fun _ => rfl, fun _ => List.mem_cons_self⟩

/-- The cuts that `getNumber` makes in place leave the text of the trimmed literal. -/
theorem cut_render (literal : DecimalLiteral) :
    let zeros := if literal.render.contains '.' then trimTrailing '0' literal.render
      else literal.render
    let whole := literal.render.contains '.' && zeros.getLast? = some '.'
    (if whole then zeros.dropLast else zeros) = literal.trimmed.render ∧
      ((!literal.render.contains '.' || whole) = true ↔ literal.trimmed.fraction = none) := by
  have integerTrimmed : integerText literal.trimmed = integerText literal := rfl
  simp only [contains_point]
  simp only [render_eq, integerTrimmed]
  obtain ⟨negative, integer, fraction, nonempty⟩ := literal
  cases fraction with
  | none => exact ⟨rfl, ⟨fun _ => rfl, fun _ => rfl⟩⟩
  | some digits =>
    simp only [fractionText, Option.isSome_some, trimTrailing_fraction, trimmed, cutFraction,
      if_true, Bool.true_and, Bool.not_true, Bool.false_or, decide_eq_true_eq]
    by_cases zeros : cutZeros digits = []
    · simp [zeros]
    · obtain ⟨before, digit, last⟩ := (List.eq_nil_or_concat' _).resolve_left zeros
      have tail : ∀ front : Text, (front ++ '.' :: (cutZeros digits).map Digit.char).getLast? =
          some digit.char := fun front => by
        rw [last, List.map_append, List.map_singleton, ← List.cons_append, ← List.append_assoc,
          List.getLast?_concat]
      simp [zeros, tail, digit.char_ne_point]

/-- The comparison with a bound decides at 19 digits. -/
theorem takenForInt_iff {literal : DecimalLiteral} (none : literal.fraction = none) :
    (let sign := literal.render.head? = some '-'
     let len := if sign then literal.render.length - 1 else literal.render.length
     !literal.render.contains '.' && (len < 19 || (len = 19 &&
        ((!sign && strcmpLe literal.render (text "9223372036854775807")) ||
          (sign && strcmpLe (text "-9223372036854775808") literal.render))))) =
      decide (TakenForInt literal) := by
  have noPoint : literal.render.contains '.' = false := by rw [contains_point, none]; rfl
  obtain ⟨negative, integer, fraction, nonempty⟩ := literal
  subst none
  rw [noPoint]
  cases negative with
  | false =>
    obtain ⟨digit, rest, rfl⟩ := List.exists_cons_of_ne_nil nonempty
    have bound : text "9223372036854775807" =
        ([9, 2, 2, 3, 3, 7, 2, 0, 3, 6, 8, 5, 4, 7, 7, 5, 8, 0, 7] : List Digit).map
          Digit.char := by
      decide
    have value : Digit.number [9, 2, 2, 3, 3, 7, 2, 0, 3, 6, 8, 5, 4, 7, 7, 5, 8, 0, 7] =
        9223372036854775807 := by decide
    simp only [render, signText, fractionText, List.append_nil, Bool.false_eq_true, if_false,
      List.nil_append, List.map_cons, List.head?_cons, Option.some.injEq, digit.char_ne_minus,
      decide_false, List.length_cons, List.length_map, Bool.not_false, Bool.true_and,
      Bool.false_and, Bool.or_false, TakenForInt, Bool.decide_or, Bool.decide_and]
    by_cases length : rest.length + 1 = 19
    · rw [bound, ← List.map_cons, strcmpLe_digits (by simpa using length), value]
    · simp [length]
  | true =>
    have bound : text "-9223372036854775808" = '-' ::
        ([9, 2, 2, 3, 3, 7, 2, 0, 3, 6, 8, 5, 4, 7, 7, 5, 8, 0, 8] : List Digit).map
          Digit.char := by
      decide
    have value : Digit.number [9, 2, 2, 3, 3, 7, 2, 0, 3, 6, 8, 5, 4, 7, 7, 5, 8, 0, 8] =
        9223372036854775808 := by decide
    have sign : ∀ first second : Text,
        strcmpLe ('-' :: first) ('-' :: second) = strcmpLe first second := fun first second => by
      simp [strcmpLe]
    simp only [render, signText, fractionText, List.append_nil, if_true, List.singleton_append,
      List.head?_cons, decide_true, List.length_cons, List.length_map, Nat.add_sub_cancel,
      Bool.not_false, Bool.not_true, Bool.true_and, Bool.false_and, Bool.false_or, TakenForInt,
      Bool.decide_or, Bool.decide_and]
    by_cases length : integer.length = 19
    · rw [bound, sign, strcmpLe_digits (by simpa using length.symm), value]
    · simp [length]

/-- `getNumber` reads an integer from a whole literal it takes for one, and else the text without
the zeros at the end of the fraction. -/
theorem getNumber_render (support : NumericSupport) (literal : DecimalLiteral) :
    getNumber support literal.render =
      if support = .optimal ∧ literal.IsWhole ∧ TakenForInt literal then
        .int (strtoll literal.trimmed.render)
      else .number literal.trimmed.render := by
  obtain ⟨cut, whole⟩ := cut_render literal
  simp only [getNumber]
  rw [cut]
  by_cases optimal : support = .optimal
  · by_cases isWhole : literal.IsWhole
    · have none := trimmed_fraction_eq_none.mpr isWhole
      have taken := takenForInt_iff none
      simp only at taken
      rw [whole.mpr none, taken]
      have same : TakenForInt literal.trimmed ↔ TakenForInt literal := Iff.rfl
      simp [optimal, isWhole, same]
    · have some := mt whole.mp (mt trimmed_fraction_eq_none.mp isWhole)
      rw [Bool.not_eq_true] at some
      rw [some]
      simp [isWhole]
  · simp [optimal]

/-! ### Exactness -/

/-- The integer is within the signed 64-bit range. -/
def InInt64 (value : Int) : Prop := minInt64 ≤ value ∧ value ≤ maxInt64

instance (value : Int) : Decidable (InInt64 value) := inferInstanceAs (Decidable (_ ∧ _))

/-- The number a Qore value stands for is the value. -/
def QoreValue.IsNumber (value : ℚ) : QoreValue → Prop
  | .int read => (read : ℚ) = value
  | .number digits => Denotes digits value
  | _ => False

/-- The value is an integer. -/
def QoreValue.IsInt : QoreValue → Prop
  | .int _ => True
  | _ => False

/-- `getNumber` keeps the value of the literal, and under the optimal option reads an integer if and
only if the value is a whole number within the signed 64-bit range. -/
def ReadsExactly (support : NumericSupport) (literal : DecimalLiteral) : Prop :=
  (getNumber support literal.render).IsNumber literal.value ∧
    (support = .optimal → ((getNumber support literal.render).IsInt ↔
      ∃ number : Int, literal.value = number ∧ InInt64 number))

/-- A text kept as a number keeps its value. -/
theorem denotes_trimmed (literal : DecimalLiteral) : Denotes literal.trimmed.render literal.value :=
  ⟨literal.trimmed, rfl, value_trimmed literal⟩

/-- A whole number within the range is the only one that `strtoll` reads exactly. -/
theorem strtoll_trimmed {literal : DecimalLiteral} (whole : literal.IsWhole) :
    ((strtoll literal.trimmed.render : Int) : ℚ) = literal.value ↔ InInt64 literal.toInt := by
  have same : literal.trimmed.toInt = literal.toInt := rfl
  rw [strtoll_render (trimmed_fraction_eq_none.mpr whole), whole.value_eq, same, Int.cast_inj,
    InInt64, minInt64, maxInt64]
  omega

/-- The value is within the range if the integer of the literal is. -/
theorem inInt64_iff {literal : DecimalLiteral} (whole : literal.IsWhole) :
    (∃ number : Int, literal.value = number ∧ InInt64 number) ↔ InInt64 literal.toInt := by
  rw [whole.value_eq]
  refine ⟨fun ⟨number, same, range⟩ => ?_, fun range => ⟨_, rfl, range⟩⟩
  rwa [Int.cast_inj.mp same]

/-- Numbers with less than 19 digits are within the range. -/
theorem inInt64_of_length {literal : DecimalLiteral} (short : literal.integer.length < 19) :
    InInt64 literal.toInt := by
  have below := Digit.number_lt literal.integer
  have power : 10 ^ literal.integer.length ≤ 10 ^ 18 := Nat.pow_le_pow_right (by decide) (by omega)
  rw [InInt64, toInt, minInt64, maxInt64]
  split <;> omega

/-- A literal is taken for an integer exactly where its value is within the range, but for 19 digits
of a negative number and for more digits. -/
theorem takenForInt_iff_inInt64 (literal : DecimalLiteral) :
    (TakenForInt literal ↔ InInt64 literal.toInt) ↔
      (literal.negative = true → literal.integer.length = 19 →
        Digit.number literal.integer = 9223372036854775808) ∧
      (19 < literal.integer.length → ¬ InInt64 literal.toInt) := by
  rcases lt_trichotomy literal.integer.length 19 with short | same | long
  · have range := inInt64_of_length short
    exact ⟨fun _ => ⟨fun _ same => by omega, fun long => by omega⟩,
      fun _ => ⟨fun _ => range, fun _ => .inl short⟩⟩
  · simp only [TakenForInt, same, lt_irrefl, false_or, true_and, false_implies, and_true,
      true_implies, InInt64, toInt, minInt64, maxInt64]
    cases literal.negative with
    | false =>
      simp only [Bool.false_eq_true, if_false, false_implies, iff_true]
      omega
    | true =>
      simp only [if_true, true_implies]
      omega
  · have notTaken : ¬ TakenForInt literal := by rintro (short | ⟨same, -⟩) <;> omega
    exact ⟨fun iff => ⟨fun _ same => by omega, fun _ => mt iff.mpr notTaken⟩,
      fun condition => iff_of_false notTaken (condition.2 long)⟩

/-- A literal is read exactly under the numeric option, and under the optimal option unless it is
whole and either negative with 19 digits, other than the least integer, or within the range with
more than 19 digits. -/
theorem readsExactly_iff (support : NumericSupport) (literal : DecimalLiteral) :
    ReadsExactly support literal ↔ (support = .optimal → literal.IsWhole →
      (literal.negative = true → literal.integer.length = 19 →
        Digit.number literal.integer = 9223372036854775808) ∧
      (19 < literal.integer.length → ¬ InInt64 literal.toInt)) := by
  rw [ReadsExactly, getNumber_render]
  by_cases optimal : support = .optimal
  · by_cases whole : literal.IsWhole
    · have exact := strtoll_trimmed whole
      simp only [optimal, whole, true_and, true_implies, inInt64_iff whole,
        ← takenForInt_iff_inInt64]
      by_cases taken : TakenForInt literal
      · simp only [taken, if_true, QoreValue.IsNumber, QoreValue.IsInt, exact, true_iff, and_self]
      · simp only [taken, if_false, QoreValue.IsNumber, QoreValue.IsInt, denotes_trimmed,
          false_iff, true_and]
    · have fractional : ¬ ∃ number : Int, literal.value = number ∧ InInt64 number :=
        fun ⟨number, same, _⟩ => whole (isWhole_of_value same)
      simp [whole, QoreValue.IsNumber, QoreValue.IsInt, denotes_trimmed, fractional]
  · simp [optimal, QoreValue.IsNumber, denotes_trimmed]

/-- The literal of a negative number. -/
def negativeLiteral (digit : Digit) (digits : List Digit) : DecimalLiteral :=
  ⟨true, digit :: digits, none, List.cons_ne_nil _ _⟩

/-- The number below the least integer is read as the least integer. -/
theorem not_readsExactly_belowLeast : ¬ ReadsExactly .optimal
    (negativeLiteral 9 [2, 2, 3, 3, 7, 2, 0, 3, 6, 8, 5, 4, 7, 7, 5, 8, 0, 9]) := by
  have read : getNumber .optimal (negativeLiteral 9
      [2, 2, 3, 3, 7, 2, 0, 3, 6, 8, 5, 4, 7, 7, 5, 8, 0, 9]).render =
        .int (-9223372036854775808) := by rfl
  rintro ⟨exact, -⟩
  rw [read] at exact
  norm_num [QoreValue.IsNumber, negativeLiteral, value, magnitude, fractionValue, Digit.number]
    at exact

end Sybase
