/-
This file defines decimal literals: a sign, one or more digits, and perhaps a point
with any digits after it. A literal has a rational value, a text determines the
literal it was written from, and zeros at the end of the fraction may be cut.
Numbers with the same number of digits compare as their texts do.
-/

import Mathlib

/-- A decimal digit. -/
abbrev Digit := Fin 10

namespace Digit

/-! ### Characters -/

/-- The character of a digit. -/
def char (digit : Digit) : Char := Nat.digitChar digit

theorem char_ne_point (digit : Digit) : digit.char ≠ '.' := by decide +revert

theorem char_ne_minus (digit : Digit) : digit.char ≠ '-' := by decide +revert

theorem char_eq_zero (digit : Digit) : digit.char = '0' ↔ digit = 0 := by decide +revert

theorem isDigit_char (digit : Digit) : digit.char.isDigit = true := by decide +revert

theorem toNat_char (digit : Digit) : digit.char.toNat - '0'.toNat = digit := by decide +revert

theorem char_lt (first second : Digit) : first.char < second.char ↔ first < second := by
  decide +revert

theorem char_injective : Function.Injective char := by decide

/-! ### Runs of digits -/

/-- The number a run of digits stands for. -/
def number : List Digit → Nat
  | [] => 0
  | digit :: digits => digit * 10 ^ digits.length + number digits

theorem number_lt (digits : List Digit) : number digits < 10 ^ digits.length := by
  induction digits with
  | nil => exact Nat.one_pos
  | cons digit digits inductionHypothesis =>
    have below := digit.isLt
    have scaled : (digit : Nat) * 10 ^ digits.length ≤ 9 * 10 ^ digits.length :=
      Nat.mul_le_mul_right _ (by omega)
    rw [number, List.length_cons, pow_succ]
    omega

theorem number_append (first second : List Digit) :
    number (first ++ second) = number first * 10 ^ second.length + number second := by
  induction first with
  | nil => simp [number]
  | cons digit first inductionHypothesis =>
    rw [List.cons_append, number, inductionHypothesis, number, List.length_append, pow_add]
    ring

theorem number_replicate_zero (count : Nat) : number (List.replicate count 0) = 0 := by
  induction count with
  | zero => rfl
  | succ count inductionHypothesis => simp [List.replicate_succ, number, inductionHypothesis]

/-- A run of digits stands for zero only if all of them are zero. -/
theorem number_eq_zero {digits : List Digit} (zero : number digits = 0) :
    ∀ digit ∈ digits, digit = 0 := by
  induction digits with
  | nil => exact fun _ member => absurd member List.not_mem_nil
  | cons digit digits inductionHypothesis =>
    rw [number, Nat.add_eq_zero_iff, Nat.mul_eq_zero] at zero
    obtain ⟨head | power, rest⟩ := zero
    · intro other member
      rcases List.mem_cons.mp member with rfl | later
      · exact Fin.ext head
      · exact inductionHypothesis rest other later
    · exact absurd power (by positivity)

/-- Numbers with the same number of digits compare digit by digit. -/
theorem number_le_cons {first second : Digit} {rest rest' : List Digit}
    (length : rest.length = rest'.length) :
    number (first :: rest) ≤ number (second :: rest') ↔
      first < second ∨ first = second ∧ number rest ≤ number rest' := by
  have below := number_lt rest
  have below' := number_lt rest'
  rw [number, number, length]
  rw [length] at below
  rcases lt_trichotomy first second with less | rfl | greater
  · have step : ((first : Nat) + 1) * 10 ^ rest'.length ≤ second * 10 ^ rest'.length :=
      Nat.mul_le_mul_right _ less
    rw [add_mul, one_mul] at step
    exact ⟨fun _ => .inl less, fun _ => by omega⟩
  · exact ⟨fun le => .inr ⟨rfl, by omega⟩, fun order => by
      rcases order with less | ⟨-, le⟩
      · exact absurd less (lt_irrefl _)
      · omega⟩
  · have step : ((second : Nat) + 1) * 10 ^ rest'.length ≤ first * 10 ^ rest'.length :=
      Nat.mul_le_mul_right _ greater
    rw [add_mul, one_mul] at step
    refine ⟨fun le => by omega, fun order => ?_⟩
    rcases order with less | ⟨rfl, -⟩
    · exact absurd less (lt_asymm greater)
    · exact absurd greater (lt_irrefl _)

end Digit

/-- A decimal literal: at least one digit, and perhaps a fraction, which may be empty. -/
structure DecimalLiteral where
  negative : Bool
  integer : List Digit
  fraction : Option (List Digit)
  nonempty : integer ≠ []

namespace DecimalLiteral

/-! ### Texts -/

/-- The text of a fraction, with its point. -/
def fractionText : Option (List Digit) → List Char
  | none => []
  | some digits => '.' :: digits.map Digit.char

/-- The text of a sign. -/
def signText (negative : Bool) : List Char := if negative then ['-'] else []

/-- The text of a literal. -/
def render (literal : DecimalLiteral) : List Char :=
  signText literal.negative ++ (literal.integer.map Digit.char ++ fractionText literal.fraction)

theorem point_notMem_digits (digits : List Digit) : '.' ∉ digits.map Digit.char := by
  rintro member
  obtain ⟨digit, -, same⟩ := List.mem_map.mp member
  exact digit.char_ne_point same

/-- The digits before the point, and the fraction, are told apart by the point. -/
theorem digits_append_injective {integer integer' : List Digit}
    {fraction fraction' : Option (List Digit)}
    (same : integer.map Digit.char ++ fractionText fraction =
      integer'.map Digit.char ++ fractionText fraction') :
    integer = integer' ∧ fraction = fraction' := by
  induction integer generalizing integer' with
  | nil =>
    cases integer' with
    | nil =>
      refine ⟨rfl, ?_⟩
      cases fraction <;> cases fraction' <;> simp only [List.map_nil, List.nil_append,
        fractionText] at same
      · rfl
      · cases same
      · cases same
      · exact congrArg some (List.map_injective_iff.mpr Digit.char_injective (List.cons.inj same).2)
    | cons digit integer' =>
      cases fraction with
      | none => cases same
      | some digits => exact absurd (List.cons.inj same).1.symm digit.char_ne_point
  | cons digit integer inductionHypothesis =>
    cases integer' with
    | nil =>
      cases fraction' with
      | none => cases same
      | some digits => exact absurd (List.cons.inj same).1 digit.char_ne_point
    | cons digit' integer' =>
      obtain ⟨head, tail⟩ := List.cons.inj same
      obtain ⟨rfl, rfl⟩ := inductionHypothesis tail
      exact ⟨by rw [Digit.char_injective head], rfl⟩

/-- A text is that of at most one literal. -/
theorem render_injective : Function.Injective render := by
  rintro ⟨negative, integer, fraction, nonempty⟩ ⟨negative', integer', fraction', nonempty'⟩ same
  have head : ∀ {digits : List Digit} (tail : Option (List Digit)) (rest : List Char),
      digits ≠ [] → digits.map Digit.char ++ fractionText tail ≠ '-' :: rest := by
    intro digits tail rest notNil equal
    obtain ⟨digit, digits, rfl⟩ := List.exists_cons_of_ne_nil notNil
    exact digit.char_ne_minus (List.cons.inj equal).1
  cases negative <;> cases negative' <;> simp only [render, signText] at same
  · obtain ⟨rfl, rfl⟩ := digits_append_injective same
    rfl
  · exact absurd same (head fraction _ nonempty)
  · exact absurd same.symm (head fraction' _ nonempty')
  · obtain ⟨rfl, rfl⟩ := digits_append_injective (List.cons.inj same).2
    rfl

/-! ### Values -/

/-- The number the digits after the point stand for. -/
def fractionValue : Option (List Digit) → ℚ
  | none => 0
  | some digits => Digit.number digits / 10 ^ digits.length

/-- The number without its sign. -/
def magnitude (literal : DecimalLiteral) : ℚ :=
  Digit.number literal.integer + fractionValue literal.fraction

/-- The value of a literal. -/
def value (literal : DecimalLiteral) : ℚ :=
  if literal.negative then -literal.magnitude else literal.magnitude

/-- The text is that of a literal with a value. -/
def Denotes (text : List Char) (value : ℚ) : Prop :=
  ∃ literal : DecimalLiteral, literal.render = text ∧ literal.value = value

/-- A text has at most one value. -/
theorem Denotes.unique {text : List Char} {value value' : ℚ} (first : Denotes text value)
    (second : Denotes text value') : value = value' := by
  obtain ⟨literal, rfl, rfl⟩ := first
  obtain ⟨literal', same, rfl⟩ := second
  rw [render_injective same]

/-- The fraction has no digit but zeros. -/
def IsWhole (literal : DecimalLiteral) : Prop :=
  ∀ digits, literal.fraction = some digits → ∀ digit ∈ digits, digit = 0

theorem fractionValue_nonneg (fraction : Option (List Digit)) : 0 ≤ fractionValue fraction := by
  cases fraction with
  | none => exact le_refl 0
  | some digits => exact div_nonneg (Nat.cast_nonneg _) (by positivity)

theorem fractionValue_lt_one (fraction : Option (List Digit)) : fractionValue fraction < 1 := by
  cases fraction with
  | none => exact one_pos
  | some digits =>
    rw [fractionValue, div_lt_one (by positivity)]
    exact_mod_cast Digit.number_lt digits

theorem fractionValue_eq_zero {literal : DecimalLiteral} :
    fractionValue literal.fraction = 0 ↔ literal.IsWhole := by
  rw [IsWhole]
  cases literal.fraction with
  | none => exact ⟨fun _ => nofun, fun _ => rfl⟩
  | some digits =>
    rw [fractionValue, div_eq_zero_iff, or_iff_left (by positivity), Nat.cast_eq_zero]
    refine ⟨fun zero digits' same => ?_, fun zeros => ?_⟩
    · cases same
      exact Digit.number_eq_zero zero
    · rw [List.eq_replicate_of_mem (zeros digits rfl)]
      exact Digit.number_replicate_zero _

/-- The value of a literal is an integer only where the fraction is zero. -/
theorem isWhole_of_value {literal : DecimalLiteral} {number : Int}
    (same : literal.value = number) : literal.IsWhole := by
  have whole : ∃ other : Int, literal.magnitude = other := by
    rw [value] at same
    split at same
    · exact ⟨-number, by push_cast; linarith⟩
    · exact ⟨number, same⟩
  obtain ⟨other, whole⟩ := whole
  have below := fractionValue_lt_one literal.fraction
  have above := fractionValue_nonneg literal.fraction
  have integral : fractionValue literal.fraction =
      ((other - Digit.number literal.integer : Int) : ℚ) := by
    push_cast
    rw [← whole, magnitude]
    ring
  rw [integral] at below above
  have zero : other - Digit.number literal.integer = 0 := by
    have lower : (0 : Int) ≤ other - Digit.number literal.integer := by exact_mod_cast above
    have upper : other - Digit.number literal.integer < 1 := by exact_mod_cast below
    omega
  exact fractionValue_eq_zero.mp (by rw [integral, zero]; rfl)

/-- The integer a whole literal stands for. -/
def toInt (literal : DecimalLiteral) : Int :=
  if literal.negative then -(Digit.number literal.integer : Int) else Digit.number literal.integer

theorem IsWhole.value_eq {literal : DecimalLiteral} (whole : literal.IsWhole) :
    literal.value = literal.toInt := by
  rw [value, magnitude, fractionValue_eq_zero.mpr whole, add_zero, toInt]
  split <;> push_cast <;> rfl

/-! ### Cutting zeros -/

/-- The digits of a fraction without the zeros at their end. -/
def cutZeros (digits : List Digit) : List Digit := digits.rdropWhile (· = 0)

/-- The digits that are cut are zeros. -/
theorem cutZeros_append (digits : List Digit) :
    ∃ count, digits = cutZeros digits ++ List.replicate count 0 := by
  induction digits using List.reverseRecOn with
  | nil => exact ⟨0, rfl⟩
  | append_singleton digits digit inductionHypothesis =>
    by_cases zero : digit = 0
    · obtain ⟨count, same⟩ := inductionHypothesis
      refine ⟨count + 1, ?_⟩
      rw [cutZeros, List.rdropWhile_concat_pos _ _ _ (by simpa using zero), zero,
        List.replicate_succ', ← List.append_assoc]
      exact congrArg (· ++ [(0 : Digit)]) same
    · exact ⟨0, by rw [cutZeros, List.rdropWhile_concat_neg _ _ _ (by simpa using zero)]; simp⟩

theorem fractionValue_cutZeros (digits : List Digit) :
    fractionValue (some (cutZeros digits)) = fractionValue (some digits) := by
  obtain ⟨count, same⟩ := cutZeros_append digits
  conv_rhs => rw [same]
  rw [fractionValue, fractionValue, Digit.number_append, Digit.number_replicate_zero,
    List.length_append, List.length_replicate, add_zero, pow_add]
  push_cast
  rw [mul_div_mul_right _ _ (by positivity)]

theorem cutZeros_eq_nil {digits : List Digit} :
    cutZeros digits = [] ↔ ∀ digit ∈ digits, digit = 0 := by
  rw [cutZeros, List.rdropWhile_eq_nil_iff]
  simp

/-- The fraction without the zeros at its end, and without a point that nothing follows. -/
def cutFraction : Option (List Digit) → Option (List Digit)
  | none => none
  | some digits => if cutZeros digits = [] then none else some (cutZeros digits)

/-- The literal without the zeros at the end of its fraction. -/
def trimmed (literal : DecimalLiteral) : DecimalLiteral :=
  { literal with fraction := cutFraction literal.fraction }

/-- Cutting zeros keeps the value. -/
theorem value_trimmed (literal : DecimalLiteral) : literal.trimmed.value = literal.value := by
  have fraction : fractionValue (cutFraction literal.fraction) = fractionValue
      literal.fraction := by
    cases literal.fraction with
    | none => rfl
    | some digits =>
      rw [← fractionValue_cutZeros digits, cutFraction]
      split
      · rename_i nil
        rw [nil]
        exact (zero_div _).symm
      · rfl
  rw [value, value, magnitude, magnitude, trimmed, fraction]

/-- A literal is whole where no fraction is left. -/
theorem trimmed_fraction_eq_none {literal : DecimalLiteral} :
    literal.trimmed.fraction = none ↔ literal.IsWhole := by
  rw [trimmed, IsWhole]
  cases literal.fraction with
  | none => exact ⟨fun _ => nofun, fun _ => rfl⟩
  | some digits =>
    rw [cutFraction]
    refine ⟨fun none digits' same => ?_,
      fun zeros => if_pos (cutZeros_eq_nil.mpr (zeros digits rfl))⟩
    cases same
    by_contra other
    rw [if_neg fun nil => other (cutZeros_eq_nil.mp nil)] at none
    cases none

instance (literal : DecimalLiteral) : Decidable literal.IsWhole :=
  decidable_of_iff _ trimmed_fraction_eq_none

end DecimalLiteral
