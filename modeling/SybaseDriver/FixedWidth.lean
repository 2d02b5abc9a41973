/-
This file defines integer expressions of a language with fixed-width types. An
expression has a type; its value in arithmetic without bounds is compared with
the value a machine computes, which reduces every result to the width of its
type. An expression stays in range if no result of a signed type has to be
reduced: there a language may leave a reduction undefined, while arithmetic of
an unsigned type is modular.

Nothing here knows what the expressions compute.
-/

import Mathlib

namespace FixedWidth

/-- An integer type. -/
structure IntType where
  isSigned : Bool
  width : Nat

/-- The signed integers of 32 bits. -/
def int32 : IntType := ⟨true, 32⟩

/-- The unsigned integers of 32 bits. -/
def uint32 : IntType := ⟨false, 32⟩

/-- The signed integers of 64 bits. -/
def int64 : IntType := ⟨true, 64⟩

namespace IntType

/-- The values of a type. -/
def Holds (type : IntType) (value : Int) : Prop :=
  if type.isSigned then -2 ^ (type.width - 1) ≤ value ∧ value < 2 ^ (type.width - 1)
  else 0 ≤ value ∧ value < 2 ^ type.width

instance (type : IntType) (value : Int) : Decidable (type.Holds value) :=
  inferInstanceAs (Decidable (ite _ _ _))

/-- The value of a type that a value is reduced to. -/
def wrap (type : IntType) (value : Int) : Int :=
  if type.isSigned then value.bmod (2 ^ type.width) else value % 2 ^ type.width

theorem holds_int32 {value : Int} :
    int32.Holds value ↔ -2147483648 ≤ value ∧ value < 2147483648 := Iff.rfl

theorem holds_int64 {value : Int} :
    int64.Holds value ↔ -9223372036854775808 ≤ value ∧ value < 9223372036854775808 := Iff.rfl

end IntType

/-- An arithmetic operation. Division truncates toward zero. -/
inductive Operation where
  | add
  | sub
  | mul
  | div

/-- The result of an operation in arithmetic without bounds. -/
def Operation.apply : Operation → Int → Int → Int
  | add, left, right => left + right
  | sub, left, right => left - right
  | mul, left, right => left * right
  | div, left, right => left.tdiv right

/-- An expression over named places. Every operation is made in a type, that of its operands;
where these have another type, they are converted. -/
inductive Expr (ι : Type) where
  | literal (type : IntType) (value : Int)
  | place (type : IntType) (name : ι)
  | convert (type : IntType) (operand : Expr ι)
  | binary (type : IntType) (operation : Operation) (left right : Expr ι)

namespace Expr

variable {ι : Type}

/-- The value a machine computes. -/
def eval (values : ι → Int) : Expr ι → Int
  | literal type value => type.wrap value
  | place type name => type.wrap (values name)
  | convert type operand => type.wrap (operand.eval values)
  | binary type operation left right =>
    type.wrap (operation.apply (left.eval values) (right.eval values))

/-- The value in arithmetic without bounds. -/
def exact (values : ι → Int) : Expr ι → Int
  | literal _ value => value
  | place _ name => values name
  | convert _ operand => operand.exact values
  | binary _ operation left right => operation.apply (left.exact values) (right.exact values)

/-- A value of a signed type is within its range. -/
def Fits (type : IntType) (value : Int) : Prop := type.isSigned = true → type.Holds value

theorem fits_int32 {value : Int} : Fits int32 value ↔ int32.Holds value :=
  ⟨fun fits => fits rfl, fun holds _ => holds⟩

theorem fits_int64 {value : Int} : Fits int64 value ↔ int64.Holds value :=
  ⟨fun fits => fits rfl, fun holds _ => holds⟩

theorem fits_uint32 {value : Int} : Fits uint32 value ↔ True :=
  iff_true_intro fun isSigned => absurd isSigned Bool.false_ne_true

/-- Every part of an expression that has a signed type stays within its range. -/
def InRange (values : ι → Int) : Expr ι → Prop
  | literal type value => Fits type value
  | place type name => Fits type (values name)
  | convert type operand => operand.InRange values ∧ Fits type (operand.exact values)
  | binary type operation left right => left.InRange values ∧ right.InRange values ∧
      Fits type (operation.apply (left.exact values) (right.exact values))

end Expr

end FixedWidth
