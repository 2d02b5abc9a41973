/-
This file defines the conversions between ct-lib's date types and Qore dates.
Arithmetic follows the C types: an `int` or a `CS_INT` is reduced to 32 bits
where it is stored, `unsigned` arithmetic is modulo `2 ^ 32`, and division
truncates toward zero. `round` of a product or quotient with a decimal constant
is read as exact rational rounding, half away from zero.
-/

import SybaseDriver.World

namespace Sybase

/-! ### Fixed-width arithmetic -/

/-- The value stored in a signed 32-bit variable. -/
def toInt32 (value : Int) : Int := value.bmod (2 ^ 32)

/-- The value stored in an unsigned 32-bit variable. -/
def toUInt32 (value : Int) : Int := value % 2 ^ 32

/-- The value stored in a signed 64-bit variable. -/
def toInt64 (value : Int) : Int := value.bmod (2 ^ 64)

/-- The value stored in an unsigned 64-bit variable. -/
def toUInt64 (value : Int) : Int := value % 2 ^ 64

/-- A value within the range of 32 bits is stored as it is. -/
theorem toInt32_of_range {value : Int} (lower : -2147483648 ≤ value) (upper : value < 2147483648) :
    toInt32 value = value :=
  Int.bmod_eq_of_le_mul_two (by omega) (by omega)

/-- What is stored differs from the value by a multiple of `2 ^ 32`. -/
theorem toInt32_add (value : Int) : ∃ times : Int, toInt32 value = value + times * 2 ^ 32 := by
  refine ⟨-value.bdiv (2 ^ 32), ?_⟩
  have parts := Int.bmod_add_bdiv value (2 ^ 32)
  rw [toInt32]
  push_cast at parts ⊢
  linarith

/-- A multiple of `2 ^ 32` is lost. -/
theorem toInt32_add_mul (value times : Int) : toInt32 (value + times * 2 ^ 32) = toInt32 value := by
  exact Int.add_mul_bmod_self_right value times (2 ^ 32)

/-- A value within the range of 64 bits is stored as it is. -/
theorem toInt64_of_range {value : Int} (lower : -9223372036854775808 ≤ value)
    (upper : value < 9223372036854775808) : toInt64 value = value :=
  Int.bmod_eq_of_le_mul_two (by omega) (by omega)

/-- `round` of the quotient of an integer by a positive one: half away from zero. -/
def roundQuotient (numerator : Int) (denominator : Nat) : Int :=
  numerator.sign * ((2 * numerator.natAbs + denominator) / (2 * denominator) : Nat)

/-! ### Constants -/

/-- Days from 1900-01-01 to 1970-01-01. -/
def sybDaysToEpoch : Int := 25567

/-- Seconds from 1900-01-01 to 1970-01-01. -/
def sybSecsToEpoch : Int := toUInt32 (sybDaysToEpoch * 86400)

/-- The UNIX time of the day a `CS_BIGDATETIME` counts from. -/
def yearZeroSecs : Int := -62167219200

namespace Conversions

/-! ### Decoding -/

/-- The part of a `CS_DATETIME` time below a second, in milliseconds. -/
def subsecondMs (dttime : Int) : Int :=
  roundQuotient ((dttime - dttime.tdiv 300 * 300) * 33333333) 10000000

/-- `Conversions::TIME_to_DateTime`. -/
def timeToDateTime (value : CsDatetime) (tz : ZoneInfo) : DateTime :=
  { relative := false
    seconds := value.dttime.tdiv 300
    microseconds := subsecondMs value.dttime * 1000
    zone := some tz
    isLocal := false }

/-- `Conversions::DATETIME_to_DateTime`. -/
def datetimeToDateTime (value : CsDatetime) (tz : ZoneInfo) : DateTime :=
  { relative := false
    seconds := toInt64 (value.dttime.tdiv 300 + value.dtdays * 86400 - sybSecsToEpoch)
    microseconds := subsecondMs value.dttime * 1000
    zone := some tz
    isLocal := false }

/-- `Conversions::BIGDATETIME_to_DateTime`. The seconds are unsigned until they are passed on. -/
def bigdatetimeToDateTime (value : Nat) (tz : ZoneInfo) : DateTime :=
  { relative := false
    seconds := toInt64 (toUInt64 (value / 1000000 + toUInt64 yearZeroSecs))
    microseconds := toInt32 (value - value / 1000000 * 1000000)
    zone := some tz
    isLocal := true }

/-- `Conversions::BIGTIME_to_DateTime`. -/
def bigtimeToDateTime (value : Nat) (tz : ZoneInfo) : DateTime :=
  { relative := false
    seconds := toInt64 (value / 1000000)
    microseconds := toInt32 (value - value / 1000000 * 1000000)
    zone := some tz
    isLocal := true }

/-- `Conversions::DATE_to_DateTime`. The product and the difference are unsigned. -/
def dateToDateTime (value : Nat) (tz : ZoneInfo) : DateTime :=
  { relative := false
    seconds := toUInt32 (value * 60 * 60 * 24 - sybSecsToEpoch)
    microseconds := 0
    zone := some tz
    isLocal := true }

/-- `Conversions::DATETIME4_to_DateTime`. -/
def datetime4ToDateTime (value : CsDatetime4) : DateTime :=
  { relative := false
    seconds := toInt64 (value.minutes * 60 + value.days * 86400 - sybSecsToEpoch)
    microseconds := 0
    zone := none
    isLocal := false }

/-! ### Encoding -/

/-- `check_epoch`: the exception for a date outside the range of a `CS_DATETIME`. -/
def checkEpoch (format : DateTime → String) (secs : Int) (date : DateTime) :
    Option QoreException :=
  if secs > 253402300799 then
    some ⟨"TDS-DATE-ERROR", "maximum sybase datetime value is 9999-12-31, date passed: " ++
      format date⟩
  else if secs < -6847804800 then
    some ⟨"TDS-DATE-ERROR", "minumum sybase datetime value is 1753-01-01, date passed: " ++
      format date⟩
  else none

/-- `Conversions::DateTime_to_DATETIME`. `days` and `days * 86400` are of type `int`. -/
def dateTimeToDatetime (format : DateTime → String) (date : DateTime) :
    Except QoreException CsDatetime :=
  if date.relative then
    .error ⟨"TDS-DATE-ERROR", "relative date passed for binding as absolute date"⟩
  else match checkEpoch format date.seconds date with
    | some raised => .error raised
    | none =>
      let days := toInt32 (date.seconds.tdiv 86400)
      let ticks := roundQuotient (date.microseconds * 10000000) 33333333333
      .ok {
        dtdays := toInt32 (toUInt32 (days + sybDaysToEpoch))
        dttime := toInt32 ((date.seconds - toInt32 (days * 86400)) * 300 + ticks) }

end Conversions

end Sybase
