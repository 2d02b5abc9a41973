/-
This file proves which dates the conversions keep. A date that is bound keeps its
instant to a tick, but the pair of days and ticks it is bound as is well formed only
where the truncating division by the seconds of a day meets no negative rest and no
tick is rounded up to midnight. The decoders of the date column types agree on the
calendar, but for the one that computes in 32 unsigned bits.
-/

import Mathlib
import SybaseDriver.Conversions

namespace Sybase

open Conversions

/-! ### Rounding -/

/-- Rounding a quotient that is not negative. -/
theorem roundQuotient_of_nonneg {numerator : Int} {denominator : Nat} (nonneg : 0 ≤ numerator)
    (positive : 0 < denominator) :
    roundQuotient numerator denominator = (2 * numerator + denominator) / (2 * denominator) := by
  obtain ⟨number, rfl⟩ := Int.eq_ofNat_of_zero_le nonneg
  rw [roundQuotient]
  rcases Nat.eq_zero_or_pos number with rfl | above
  · have none : (denominator : Int) / (2 * denominator) = 0 :=
      Int.ediv_eq_zero_of_lt (by omega) (by omega)
    simp [none]
  · rw [Int.sign_natCast_of_ne_zero (by omega), one_mul, Int.natAbs_natCast]
    push_cast
    rfl

/-- Rounding is symmetric about zero. -/
theorem roundQuotient_neg (numerator : Int) (denominator : Nat) :
    roundQuotient (-numerator) denominator = -roundQuotient numerator denominator := by
  rw [roundQuotient, roundQuotient, Int.sign_neg, Int.natAbs_neg, neg_mul]

/-! ### Encoding -/

/-- The ticks of a microsecond. -/
def ticksOf (microseconds : Int) : Int := roundQuotient (microseconds * 10000000) 33333333333

theorem ticksOf_eq {microseconds : Int} (nonneg : 0 ≤ microseconds) :
    ticksOf microseconds = (20000000 * microseconds + 33333333333) / 66666666666 := by
  rw [ticksOf, roundQuotient_of_nonneg (by omega) (by decide)]
  push_cast
  congr 1
  ring

/-- The pair of days and ticks is one the server accepts. -/
def CsDatetime.WellFormed (value : CsDatetime) : Prop :=
  0 ≤ value.dttime ∧ value.dttime < 25920000

instance (value : CsDatetime) : Decidable value.WellFormed :=
  inferInstanceAs (Decidable (_ ∧ _))

/-- The instant of a pair of days and ticks, in ticks since the UNIX epoch. -/
def CsDatetime.ticks (value : CsDatetime) : Int :=
  25920000 * (value.dtdays - 25567) + value.dttime

/-- The instant of a date, in ticks since the UNIX epoch. -/
def DateTime.ticks (date : DateTime) : ℚ := 300 * date.seconds + 300 * date.microseconds / 1000000

/-- The date is bound as a well-formed pair, within a tick of its instant. -/
def EncodesDate (format : DateTime → String) (date : DateTime) : Prop :=
  ∃ value, dateTimeToDatetime format date = .ok value ∧ value.WellFormed ∧
    |(value.ticks : ℚ) - date.ticks| ≤ 1

/-- An absolute date within the range of `check_epoch`. -/
structure DateTime.IsBindable (format : DateTime → String) (date : DateTime) : Prop where
  absolute : date.relative = false
  accepted : checkEpoch format date.seconds date = none
  microseconds : 0 ≤ date.microseconds ∧ date.microseconds < 1000000

theorem DateTime.IsBindable.range {format : DateTime → String} {date : DateTime}
    (bindable : date.IsBindable format) :
    -6847804800 ≤ date.seconds ∧ date.seconds ≤ 253402300799 := by
  have accepted := bindable.accepted
  rw [checkEpoch] at accepted
  split_ifs at accepted
  omega

/-- The ticks of a microsecond are at most those of a second. -/
theorem ticksOf_bounds {microseconds : Int} (range : 0 ≤ microseconds ∧ microseconds < 1000000) :
    0 ≤ ticksOf microseconds ∧ ticksOf microseconds ≤ 300 := by
  rw [ticksOf_eq range.1]
  omega

/-- The last microseconds of a second round up to the next. -/
theorem ticksOf_eq_second {microseconds : Int}
    (range : 0 ≤ microseconds ∧ microseconds < 1000000) :
    ticksOf microseconds = 300 ↔ 998334 ≤ microseconds := by
  rw [ticksOf_eq range.1]
  omega

/-- The seconds and ticks of the day that a date is bound as. The product `days * 86400` overflows
after 2038, by a multiple of `2 ^ 32` that the last assignment takes away again. -/
theorem dateTimeToDatetime_eq {format : DateTime → String} {date : DateTime}
    (bindable : date.IsBindable format) :
    dateTimeToDatetime format date = .ok {
      dtdays := date.seconds.tdiv 86400 + 25567
      dttime := date.seconds.tmod 86400 * 300 + ticksOf date.microseconds } := by
  obtain ⟨lower, upper⟩ := bindable.range
  have ticks := ticksOf_bounds bindable.microseconds
  have parts := Int.mul_tdiv_add_tmod date.seconds 86400
  have below := Int.tmod_lt_of_pos date.seconds (show 0 < (86400 : Int) by decide)
  have above := Int.lt_tmod_of_pos date.seconds (show 0 < (86400 : Int) by decide)
  have days : toInt32 (date.seconds.tdiv 86400) = date.seconds.tdiv 86400 :=
    toInt32_of_range (by omega) (by omega)
  have dtdays : toInt32 (toUInt32 (date.seconds.tdiv 86400 + sybDaysToEpoch)) =
      date.seconds.tdiv 86400 + 25567 := by
    have same : toInt32 (toUInt32 (date.seconds.tdiv 86400 + sybDaysToEpoch)) =
        toInt32 (date.seconds.tdiv 86400 + sybDaysToEpoch) := Int.emod_bmod _ (2 ^ 32)
    rw [same, sybDaysToEpoch]
    exact toInt32_of_range (by omega) (by omega)
  have dttime : toInt32 ((date.seconds - toInt32 (date.seconds.tdiv 86400 * 86400)) * 300 +
      ticksOf date.microseconds) = date.seconds.tmod 86400 * 300 + ticksOf date.microseconds := by
    obtain ⟨times, stored⟩ := toInt32_add (date.seconds.tdiv 86400 * 86400)
    have wrapped : (date.seconds - toInt32 (date.seconds.tdiv 86400 * 86400)) * 300 +
        ticksOf date.microseconds = date.seconds.tmod 86400 * 300 + ticksOf date.microseconds +
          -(300 * times) * 2 ^ 32 := by
      rw [stored]
      linarith
    rw [wrapped, toInt32_add_mul, toInt32_of_range (by omega) (by omega)]
  rw [dateTimeToDatetime, bindable.absolute, if_neg Bool.false_ne_true, bindable.accepted]
  simp only [days, dtdays]
  rw [← ticksOf, dttime]

/-- The instant of the pair is within a tick of that of the date. -/
theorem ticks_near {date : DateTime} (range : 0 ≤ date.microseconds ∧ date.microseconds < 1000000) :
    |((CsDatetime.mk (date.seconds.tdiv 86400 + 25567)
      (date.seconds.tmod 86400 * 300 + ticksOf date.microseconds)).ticks : ℚ) -
        date.ticks| ≤ 1 := by
  have parts := Int.mul_tdiv_add_tmod date.seconds 86400
  have instant : (CsDatetime.mk (date.seconds.tdiv 86400 + 25567)
      (date.seconds.tmod 86400 * 300 + ticksOf date.microseconds)).ticks =
        300 * date.seconds + ticksOf date.microseconds := by
    rw [CsDatetime.ticks]
    linarith
  have lower : 66666666666 * ticksOf date.microseconds ≤
      20000000 * date.microseconds + 33333333333 := by
    rw [ticksOf_eq range.1]
    omega
  have upper : 20000000 * date.microseconds + 33333333333 <
      66666666666 * ticksOf date.microseconds + 66666666666 := by
    rw [ticksOf_eq range.1]
    omega
  have lower' : (66666666666 * ticksOf date.microseconds : ℚ) ≤
      20000000 * date.microseconds + 33333333333 := by exact_mod_cast lower
  have upper' : (20000000 * date.microseconds + 33333333333 : ℚ) <
      66666666666 * ticksOf date.microseconds + 66666666666 := by exact_mod_cast upper
  have nonneg : (0 : ℚ) ≤ date.microseconds := by exact_mod_cast range.1
  have below : (date.microseconds : ℚ) < 1000000 := by exact_mod_cast range.2
  rw [instant, DateTime.ticks, abs_le]
  push_cast
  constructor <;> linarith

/-- The rest of the truncating division lies within a day, with the ticks added: no second before
1970 is left over but the last one of a day whose ticks make it whole, and none after 1970 rounds
up to midnight. -/
def DateTime.StaysInDay (date : DateTime) : Prop :=
  if 0 ≤ date.seconds then
    ¬ (date.seconds % 86400 = 86399 ∧ 998334 ≤ date.microseconds)
  else
    date.seconds % 86400 = 0 ∨ date.seconds % 86400 = 86399 ∧ 998334 ≤ date.microseconds

instance (date : DateTime) : Decidable date.StaysInDay :=
  inferInstanceAs (Decidable (ite _ _ _))

/-- The pair is well formed where the ticks stay within the day. -/
theorem wellFormed_iff {date : DateTime}
    (range : 0 ≤ date.microseconds ∧ date.microseconds < 1000000) (dtdays : Int) :
    (CsDatetime.mk dtdays
      (date.seconds.tmod 86400 * 300 + ticksOf date.microseconds)).WellFormed ↔
        date.StaysInDay := by
  have ticks := ticksOf_bounds range
  have second := ticksOf_eq_second range
  rw [CsDatetime.WellFormed, DateTime.StaysInDay, ← second]
  split
  · rename_i after
    rw [Int.tmod_eq_emod_of_nonneg after]
    dsimp only
    omega
  · rename_i before
    have rest : date.seconds.tmod 86400 = -(-date.seconds % 86400) := by
      rw [← Int.tmod_eq_emod_of_nonneg (by omega), Int.neg_tmod, neg_neg]
    rw [rest]
    dsimp only
    omega

/-- A bindable date is bound as a well-formed pair within a tick of its instant exactly where the
ticks stay within the day. -/
theorem encodesDate_iff {format : DateTime → String} {date : DateTime}
    (bindable : date.IsBindable format) : EncodesDate format date ↔ date.StaysInDay := by
  have range := bindable.microseconds
  rw [EncodesDate, dateTimeToDatetime_eq bindable]
  constructor
  · rintro ⟨value, same, wellFormed, -⟩
    cases same
    exact (wellFormed_iff range _).mp wellFormed
  · exact fun stays => ⟨_, rfl, (wellFormed_iff range _).mpr stays, ticks_near range⟩

/-- An absolute date in no zone. -/
def dateAt (seconds microseconds : Int) : DateTime :=
  ⟨false, seconds, microseconds, none, false⟩

theorem isBindable_dateAt {format : DateTime → String} {seconds microseconds : Int}
    (lower : -6847804800 ≤ seconds) (upper : seconds ≤ 253402300799)
    (range : 0 ≤ microseconds ∧ microseconds < 1000000) :
    (dateAt seconds microseconds).IsBindable format where
  absolute := rfl
  accepted := by
    rw [dateAt, checkEpoch, if_neg (not_lt.mpr upper), if_neg (not_lt.mpr lower)]
  microseconds := range

theorem encodesDate_midnight : EncodesDate (fun _ => "") (dateAt 86400 0) ↔
    (dateAt 86400 0).StaysInDay :=
  encodesDate_iff (isBindable_dateAt (by decide) (by decide) (by decide))

/-- The last second before 1970 is bound with a negative number of ticks. -/
theorem not_encodesDate_beforeEpoch :
    ¬ ∀ (format : DateTime → String) (date : DateTime), date.IsBindable format →
      EncodesDate format date := by
  intro encodes
  obtain ⟨value, bound, wellFormed, -⟩ := encodes (fun _ => "") (dateAt (-1) 0)
    (isBindable_dateAt (by decide) (by decide) (by decide))
  have pair : dateTimeToDatetime (fun _ => "") (dateAt (-1) 0) = .ok ⟨25567, -300⟩ := rfl
  rw [pair] at bound
  cases bound
  exact absurd wellFormed (by decide)

/-! ### Decoding -/

/-- The UNIX time of a second of a day counted from 1900-01-01. -/
def epochSecond (day second : Int) : Int := 86400 * day + second - 2208988800

/-- The decoders agree on a second of a day, and a microsecond of it. -/
structure DecodersAgree (tz : ZoneInfo) (day second microsecond : Int) : Prop where
  date : (dateToDateTime (toUInt32 day).toNat tz).seconds = epochSecond day 0
  datetime : (datetimeToDateTime ⟨day, 300 * second⟩ tz).seconds = epochSecond day second
  bigdatetime :
    let decoded := bigdatetimeToDateTime
      (((day + 693961) * 86400 + second) * 1000000 + microsecond).toNat tz
    decoded.seconds = epochSecond day second ∧ decoded.microseconds = microsecond
  datetime4 : 0 ≤ day → day < 65536 → second % 60 = 0 →
    (datetime4ToDateTime ⟨day.toNat, (second / 60).toNat⟩).seconds = epochSecond day second

/-- A second of a day from 0001-01-01 to 9999-12-31, and a microsecond of it. -/
structure OnCalendar (day second microsecond : Int) : Prop where
  day : -693595 ≤ day ∧ day ≤ 2958463
  second : 0 ≤ second ∧ second < 86400
  microsecond : 0 ≤ microsecond ∧ microsecond < 1000000

/-- `DATE_to_DateTime` is right while its product and difference fit 32 unsigned bits. -/
theorem dateToDateTime_iff {day : Int} (calendar : -693595 ≤ day ∧ day ≤ 2958463) (tz : ZoneInfo) :
    (dateToDateTime (toUInt32 day).toNat tz).seconds = epochSecond day 0 ↔
      25567 ≤ day ∧ day ≤ 75277 := by
  have epoch : sybSecsToEpoch = 2208988800 := by decide
  have pattern : ((toUInt32 day).toNat : Int) = day % 4294967296 :=
    Int.toNat_of_nonneg (Int.emod_nonneg day (by decide))
  have seconds : (dateToDateTime (toUInt32 day).toNat tz).seconds =
      (day % 4294967296 * 86400 - 2208988800) % 4294967296 := by
    simp only [dateToDateTime, pattern, epoch]
    rw [mul_assoc, mul_assoc, toUInt32]
    norm_num
  rw [seconds, epochSecond]
  omega

/-- The other decoders are right on the whole calendar. -/
theorem datetimeToDateTime_seconds {day second microsecond : Int}
    (calendar : OnCalendar day second microsecond) (tz : ZoneInfo) :
    (datetimeToDateTime ⟨day, 300 * second⟩ tz).seconds = epochSecond day second := by
  obtain ⟨days, seconds, -⟩ := calendar
  have whole : (300 * second).tdiv 300 = second := Int.mul_tdiv_cancel_left second (by decide)
  have epoch : sybSecsToEpoch = 2208988800 := by decide
  simp only [datetimeToDateTime, whole, epoch]
  rw [toInt64_of_range (by omega) (by omega), epochSecond]
  ring

theorem bigdatetimeToDateTime_seconds {day second microsecond : Int}
    (calendar : OnCalendar day second microsecond) (tz : ZoneInfo) :
    let decoded := bigdatetimeToDateTime
      (((day + 693961) * 86400 + second) * 1000000 + microsecond).toNat tz
    decoded.seconds = epochSecond day second ∧ decoded.microseconds = microsecond := by
  obtain ⟨days, seconds, microseconds⟩ := calendar
  have count : ((((day + 693961) * 86400 + second) * 1000000 + microsecond).toNat : Int) =
      ((day + 693961) * 86400 + second) * 1000000 + microsecond := Int.toNat_of_nonneg (by omega)
  have whole : (((day + 693961) * 86400 + second) * 1000000 + microsecond) / 1000000 =
      (day + 693961) * 86400 + second := by omega
  simp only [bigdatetimeToDateTime, count, whole]
  constructor
  · have shifted : toUInt64 ((day + 693961) * 86400 + second + toUInt64 yearZeroSecs) =
        toUInt64 (epochSecond day second) := by
      rw [toUInt64, toUInt64, toUInt64, Int.add_emod_emod, epochSecond, yearZeroSecs]
      congr 1
      ring
    have same : toInt64 (toUInt64 (epochSecond day second)) = toInt64 (epochSecond day second) :=
      Int.emod_bmod _ (2 ^ 64)
    rw [shifted, same, toInt64_of_range] <;> rw [epochSecond] <;> omega
  · rw [toInt32_of_range (by omega) (by omega)]
    omega

theorem datetime4ToDateTime_seconds {day second : Int} (days : 0 ≤ day ∧ day < 65536)
    (seconds : 0 ≤ second ∧ second < 86400) (minute : second % 60 = 0) :
    (datetime4ToDateTime ⟨day.toNat, (second / 60).toNat⟩).seconds = epochSecond day second := by
  have count : (day.toNat : Int) = day := Int.toNat_of_nonneg days.1
  have minutes : ((second / 60).toNat : Int) = second / 60 := Int.toNat_of_nonneg (by omega)
  have epoch : sybSecsToEpoch = 2208988800 := by decide
  simp only [datetime4ToDateTime, count, minutes, epoch]
  rw [toInt64_of_range (by omega) (by omega), epochSecond]
  omega

/-- The decoders agree exactly on the days for which the unsigned arithmetic of
`DATE_to_DateTime` does not wrap: from 1970-01-01 to 2106-02-07. -/
theorem decodersAgree_iff {day second microsecond : Int}
    (calendar : OnCalendar day second microsecond) (tz : ZoneInfo) :
    DecodersAgree tz day second microsecond ↔ 25567 ≤ day ∧ day ≤ 75277 := by
  refine ⟨fun agree => (dateToDateTime_iff calendar.day tz).mp agree.date, fun days => ?_⟩
  exact {
    date := (dateToDateTime_iff calendar.day tz).mpr days
    datetime := datetimeToDateTime_seconds calendar tz
    bigdatetime := bigdatetimeToDateTime_seconds calendar tz
    datetime4 := fun lower upper minute =>
      datetime4ToDateTime_seconds ⟨lower, upper⟩ calendar.second minute }

theorem onCalendar_lastDayBeforeEpoch : OnCalendar 25566 0 0 :=
  ⟨by decide, by decide, by decide⟩

theorem decodersAgree_epoch : DecodersAgree (text "Europe/Prague") 25567 60 5 ↔
    25567 ≤ (25567 : Int) ∧ (25567 : Int) ≤ 75277 :=
  decodersAgree_iff ⟨by decide, by decide, by decide⟩ (text "Europe/Prague")

/-- A day before 1970 is read as one in 2106. -/
theorem not_decodersAgree_beforeEpoch :
    ¬ ∀ (tz : ZoneInfo) (day second microsecond : Int), OnCalendar day second microsecond →
      DecodersAgree tz day second microsecond := by
  intro agree
  have wrapped := (agree (text "Europe/Prague") 25566 0 0 onCalendar_lastDayBeforeEpoch).date
  exact absurd wrapped (by decide)

end Sybase
