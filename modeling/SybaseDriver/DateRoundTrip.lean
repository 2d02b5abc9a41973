/-
This file proves what is left of a date that was bound and read again, and in
which dates the binding computes without an overflow. A tick is a third of ten
milliseconds: rounding to ticks moves a date by at most half of one, and reading
it in whole milliseconds by a third of a millisecond more. The product of days
and 86400 leaves the range of an `int` after 2038 and before 1901, although the
value that is stored comes out right.
-/

import SybaseDriver.Dates
import SybaseDriver.FixedWidth

namespace Sybase

open Conversions

/-! ### Round trip -/

/-- The microseconds of a date since the UNIX epoch. -/
def DateTime.instant (date : DateTime) : Int := date.seconds * 1000000 + date.microseconds

/-- The milliseconds of a rest below a second are as near to its ticks as they can be. -/
theorem milliseconds_near {rest : Int} (above : -300 < rest) (below : rest < 300) :
    |3 * roundQuotient (rest * 33333333) 10000000 - 10 * rest| ≤ 1 := by
  rw [abs_le]
  rcases le_total 0 rest with nonneg | nonpos
  · rw [roundQuotient_of_nonneg (by omega) (by decide)]
    push_cast
    omega
  · obtain ⟨opposite, rfl⟩ : ∃ opposite, rest = -opposite := ⟨-rest, (neg_neg rest).symm⟩
    rw [neg_mul, roundQuotient_neg, roundQuotient_of_nonneg (by omega) (by decide)]
    push_cast
    omega

/-- The ticks of a microsecond are half a tick from it at most. -/
theorem ticksOf_near {microseconds : Int} (range : 0 ≤ microseconds ∧ microseconds < 1000000) :
    |10000 * ticksOf microseconds - 3 * microseconds| ≤ 5000 := by
  rw [ticksOf_eq range.1, abs_le]
  omega

/-- A date that was bound and is read again is at most two milliseconds from what it was. -/
theorem datetimeToDateTime_near {format : DateTime → String} {date : DateTime}
    (bindable : date.IsBindable format) (tz : ZoneInfo) :
    ∃ value, dateTimeToDatetime format date = .ok value ∧
      |(datetimeToDateTime value tz).instant - date.instant| ≤ 2000 := by
  refine ⟨_, dateTimeToDatetime_eq bindable, ?_⟩
  obtain ⟨lower, upper⟩ := bindable.range
  have bounds := ticksOf_bounds bindable.microseconds
  have near := ticksOf_near bindable.microseconds
  have day := Int.mul_tdiv_add_tmod date.seconds 86400
  have dayAbove := Int.lt_tmod_of_pos date.seconds (show 0 < (86400 : Int) by decide)
  have dayBelow := Int.tmod_lt_of_pos date.seconds (show 0 < (86400 : Int) by decide)
  have epoch : sybSecsToEpoch = 2208988800 := by decide
  simp only [DateTime.instant, datetimeToDateTime, subsecondMs, epoch]
  generalize isTime : date.seconds.tmod 86400 * 300 + ticksOf date.microseconds = dttime
  have second := Int.mul_tdiv_add_tmod dttime 300
  have secondAbove := Int.lt_tmod_of_pos dttime (show 0 < (300 : Int) by decide)
  have secondBelow := Int.tmod_lt_of_pos dttime (show 0 < (300 : Int) by decide)
  have milliseconds : |3 * roundQuotient ((dttime - dttime.tdiv 300 * 300) * 33333333) 10000000 -
      10 * (dttime - dttime.tdiv 300 * 300)| ≤ 1 := milliseconds_near (by omega) (by omega)
  rw [toInt64_of_range (by omega) (by omega)]
  rw [abs_le] at near milliseconds ⊢
  omega

theorem datetimeToDateTime_near_lastSecond : ∃ value,
    dateTimeToDatetime (fun _ => "") (dateAt (-1) 999999) = .ok value ∧
      |(datetimeToDateTime value (text "UTC")).instant - (dateAt (-1) 999999).instant| ≤ 2000 :=
  datetimeToDateTime_near (isBindable_dateAt (by decide) (by decide) (by decide)) (text "UTC")

/-! ### Overflow -/

/-- What the expressions of `DateTime_to_DATETIME` are made of. -/
inductive DatePlace where
  | secs
  | ts

/-- The values of the places: `ts` after its conversion to an `int`. -/
def DateTime.values (date : DateTime) : DatePlace → Int
  | .secs => date.seconds
  | .ts => ticksOf date.microseconds

open FixedWidth

/-- `int days = secs / 86400`. -/
def daysExpr : Expr DatePlace :=
  .convert int32 (.binary int64 .div (.place int64 .secs) (.convert int64 (.literal int32 86400)))

/-- `out.dtdays = days + SYB_DAYS_TO_EPOCH`. -/
def dtdaysExpr : Expr DatePlace :=
  .convert int32 (.binary uint32 .add (.convert uint32 daysExpr) (.literal uint32 25567))

/-- `out.dttime = (secs - (days * 86400)) * 300 + (int)ts`. -/
def dttimeExpr : Expr DatePlace :=
  .convert int32 (.binary int64 .add
    (.binary int64 .mul
      (.binary int64 .sub (.place int64 .secs)
        (.convert int64 (.binary int32 .mul daysExpr (.literal int32 86400))))
      (.convert int64 (.literal int32 300)))
    (.convert int64 (.place int32 .ts)))

/-- No integer expression of `DateTime_to_DATETIME` leaves the range of its type. -/
def StaysInRange (date : DateTime) : Prop :=
  daysExpr.InRange date.values ∧ dtdaysExpr.InRange date.values ∧ dttimeExpr.InRange date.values

/-- A value of 64 bits is not reduced. -/
theorem wrap_int64 {value : Int} (lower : -9223372036854775808 ≤ value)
    (upper : value < 9223372036854775808) : int64.wrap value = value :=
  toInt64_of_range lower upper

/-- The expressions are those of the conversion: it stores the values a machine computes. -/
theorem dateTimeToDatetime_eval {format : DateTime → String} {date : DateTime}
    (bindable : date.IsBindable format) :
    dateTimeToDatetime format date = .ok {
      dtdays := dtdaysExpr.eval date.values
      dttime := dttimeExpr.eval date.values } := by
  obtain ⟨lower, upper⟩ := bindable.range
  have ticks := ticksOf_bounds bindable.microseconds
  have quotient : -79259 < date.seconds.tdiv 86400 ∧ date.seconds.tdiv 86400 < 2932898 := by
    have day := Int.mul_tdiv_add_tmod date.seconds 86400
    have above := Int.lt_tmod_of_pos date.seconds (show 0 < (86400 : Int) by decide)
    have below := Int.tmod_lt_of_pos date.seconds (show 0 < (86400 : Int) by decide)
    omega
  have secs : int64.wrap date.seconds = date.seconds := wrap_int64 (by omega) (by omega)
  have ts : int32.wrap (ticksOf date.microseconds) = ticksOf date.microseconds :=
    toInt32_of_range (by omega) (by omega)
  have days : daysExpr.eval date.values = toInt32 (date.seconds.tdiv 86400) := by
    show int32.wrap (int64.wrap ((int64.wrap date.seconds).tdiv 86400)) = _
    rw [secs, wrap_int64 (by omega) (by omega)]
    rfl
  have dtdays : dtdaysExpr.eval date.values =
      toInt32 (toUInt32 (toInt32 (date.seconds.tdiv 86400) + sybDaysToEpoch)) := by
    show int32.wrap (uint32.wrap (uint32.wrap (daysExpr.eval date.values) + 25567)) = _
    rw [days]
    exact congrArg toInt32 (Int.emod_add_emod _ _ _)
  have dttime : dttimeExpr.eval date.values =
      toInt32 ((date.seconds - toInt32 (toInt32 (date.seconds.tdiv 86400) * 86400)) * 300 +
        ticksOf date.microseconds) := by
    show int32.wrap (int64.wrap (int64.wrap (int64.wrap (int64.wrap date.seconds -
      int64.wrap (toInt32 (daysExpr.eval date.values * 86400))) * 300) +
        int64.wrap (int32.wrap (ticksOf date.microseconds)))) = _
    rw [days, secs, ts]
    generalize toInt32 (date.seconds.tdiv 86400) * 86400 = product
    have least : -2147483648 ≤ toInt32 product := Int.le_bmod (by decide)
    have most : toInt32 product < 2147483648 := Int.bmod_lt (by decide)
    rw [@wrap_int64 (toInt32 product) (by omega) (by omega),
      @wrap_int64 (date.seconds - toInt32 product) (by omega) (by omega),
      @wrap_int64 ((date.seconds - toInt32 product) * 300) (by omega) (by omega),
      @wrap_int64 (ticksOf date.microseconds) (by omega) (by omega),
      wrap_int64 (by omega) (by omega)]
    rfl
  rw [dateTimeToDatetime, bindable.absolute, if_neg Bool.false_ne_true, bindable.accepted, dtdays,
    dttime]
  rfl

/-- A bindable date is converted without an overflow if and only if its days make less than `2 ^ 31`
seconds. -/
theorem staysInRange_iff {format : DateTime → String} {date : DateTime}
    (bindable : date.IsBindable format) :
    StaysInRange date ↔ -2147558400 < date.seconds ∧ date.seconds < 2147558400 := by
  obtain ⟨lower, upper⟩ := bindable.range
  have ticks := ticksOf_bounds bindable.microseconds
  have day := Int.mul_tdiv_add_tmod date.seconds 86400
  have above := Int.lt_tmod_of_pos date.seconds (show 0 < (86400 : Int) by decide)
  have below := Int.tmod_lt_of_pos date.seconds (show 0 < (86400 : Int) by decide)
  have after : 0 ≤ date.seconds → 0 ≤ date.seconds.tmod 86400 := Int.tmod_nonneg 86400
  have before : date.seconds ≤ 0 → date.seconds.tmod 86400 ≤ 0 := by
    intro nonpos
    have opposite := Int.tmod_nonneg 86400 (neg_nonneg.mpr nonpos)
    rw [Int.neg_tmod] at opposite
    omega
  simp only [StaysInRange, daysExpr, dtdaysExpr, dttimeExpr, Expr.InRange, Expr.exact,
    Operation.apply, DateTime.values, Expr.fits_int32, Expr.fits_int64, Expr.fits_uint32,
    IntType.holds_int32, IntType.holds_int64, and_true]
  omega

theorem staysInRange_lastDay : StaysInRange (dateAt 2147558399 0) ↔
    -2147558400 < (dateAt 2147558399 0).seconds ∧ (dateAt 2147558399 0).seconds < 2147558400 :=
  @staysInRange_iff (fun _ => "") _ (isBindable_dateAt (by decide) (by decide) (by decide))

/-- The product of days and 86400 overflows on 2038-01-20. -/
theorem not_staysInRange_afterOverflow :
    ¬ ∀ (format : DateTime → String) (date : DateTime), date.IsBindable format →
      StaysInRange date := by
  intro stays
  obtain ⟨-, -, ⟨⟨⟨-, ⟨⟨-, -, overflows⟩, -⟩, -⟩, -⟩, -⟩, -⟩ :=
    stays (fun _ => "") (dateAt 2147558400 0)
    (isBindable_dateAt (by decide) (by decide) (by decide))
  exact absurd (overflows rfl) (by decide)

end Sybase
