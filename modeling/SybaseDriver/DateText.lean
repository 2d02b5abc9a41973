/-
This file proves that a date bound as text loses nothing. `set_params` binds a date as text where
`optimized-date-binds` is set, and where the argument is a hash of the type `date`. Every field of
the date, in the time zone of the server and with its microseconds, can be read back from the text
at a fixed place.
-/

import SybaseDriver.Command
import SybaseDriver.Dates

namespace Sybase

namespace Command

/-! ### Numbers of a fixed width -/

theorem padded_length {width number : Nat} (small : number < 10 ^ width) (positive : 0 < width) :
    (padded width number).length = width := by
  have fits : (decimal number).length ≤ width :=
    (Nat.length_toDigits_le_iff (by decide) positive).mpr small
  rw [padded, List.length_append, List.length_replicate]
  omega

theorem ofDigitChars_padded (width number : Nat) :
    Nat.ofDigitChars 10 (padded width number) 0 = number := by
  rw [padded, Nat.ofDigitChars_append, Nat.ofDigitChars_replicate_zero, Nat.mul_zero, decimal,
    Nat.ofDigitChars_ten_toDigits]

/-! ### Reading a text -/

/-- Read a number of a fixed width, and skip the character after it. -/
def readField (width : Nat) (str : Text) : Nat × Text :=
  (Nat.ofDigitChars 10 (str.take width) 0, str.drop (width + 1))

theorem readField_padded {width number : Nat} (small : number < 10 ^ width) (positive : 0 < width)
    (rest : Text) : readField width (padded width number ++ rest) = (number, rest.tail) := by
  have length := padded_length small positive
  have taken : (padded width number ++ rest).take width = padded width number := by
    rw [List.take_append_of_le_length length.ge, List.take_of_length_le length.le]
  have dropped : (padded width number ++ rest).drop (width + 1) = rest.tail := by
    rw [List.drop_append, length, List.drop_eq_nil_of_le (by omega), List.nil_append,
      Nat.add_sub_cancel_left, List.drop_one]
  rw [readField, taken, dropped, ofDigitChars_padded]

/-- The fields of a date in the form `yyyy-mm-ddThh:mm:ss`, with microseconds after a point if there
are any. -/
def readDateText (str : Text) : QoreTm :=
  let (year, str) := readField 4 str
  let (month, str) := readField 2 str
  let (day, str) := readField 2 str
  let (hour, str) := readField 2 str
  let (minute, str) := readField 2 str
  let (second, str) := readField 2 str
  ⟨year, month, day, hour, minute, second, Nat.ofDigitChars 10 str 0⟩

end Command

/-- The fields of a date up to the year 9999. -/
structure QoreTm.IsCalendar (info : QoreTm) : Prop where
  year : info.year ≤ 9999
  month : info.month ≤ 12
  day : info.day ≤ 31
  hour : info.hour ≤ 23
  minute : info.minute ≤ 59
  second : info.second ≤ 59
  us : info.us ≤ 999999

namespace Command

/-- The text of a date reads back as the date. -/
theorem readDateText_dateText {info : QoreTm} (calendar : info.IsCalendar) :
    readDateText (dateText info) = info := by
  have year : info.year < 10 ^ 4 := Nat.lt_succ_of_le calendar.year
  have month : info.month < 10 ^ 2 := calendar.month.trans_lt (by decide)
  have day : info.day < 10 ^ 2 := calendar.day.trans_lt (by decide)
  have hour : info.hour < 10 ^ 2 := calendar.hour.trans_lt (by decide)
  have minute : info.minute < 10 ^ 2 := calendar.minute.trans_lt (by decide)
  have second : info.second < 10 ^ 2 := calendar.second.trans_lt (by decide)
  have fraction : Nat.ofDigitChars 10
      (if info.us ≠ 0 then text "." ++ padded 6 info.us else []).tail 0 = info.us := by
    by_cases some : info.us ≠ 0
    · rw [if_pos some]
      exact ofDigitChars_padded 6 info.us
    · rw [if_neg some]
      exact (not_not.mp some).symm
  have dash : ∀ rest : Text, (text "-" ++ rest).tail = rest := fun _ => rfl
  have letter : ∀ rest : Text, (text "T" ++ rest).tail = rest := fun _ => rfl
  have colon : ∀ rest : Text, (text ":" ++ rest).tail = rest := fun _ => rfl
  simp only [readDateText, dateText, List.append_assoc, readField_padded year (by decide),
    readField_padded month (by decide), readField_padded day (by decide),
    readField_padded hour (by decide), readField_padded minute (by decide),
    readField_padded second (by decide), dash, letter, colon, fraction]

/-- The text of a date has microseconds only where there are any. -/
theorem length_dateText {info : QoreTm} (calendar : info.IsCalendar) :
    (dateText info).length = if info.us = 0 then 19 else 26 := by
  have year : (padded 4 info.year).length = 4 :=
    padded_length (Nat.lt_succ_of_le calendar.year) (by decide)
  have two : ∀ {number : Nat}, number < 100 → (padded 2 number).length = 2 := fun small =>
    padded_length small (by decide)
  have us : (padded 6 info.us).length = 6 :=
    padded_length (Nat.lt_succ_of_le calendar.us) (by decide)
  have fields : (padded 2 info.month).length = 2 ∧ (padded 2 info.day).length = 2 ∧
      (padded 2 info.hour).length = 2 ∧ (padded 2 info.minute).length = 2 ∧
      (padded 2 info.second).length = 2 :=
    ⟨two (calendar.month.trans_lt (by decide)), two (calendar.day.trans_lt (by decide)),
      two (calendar.hour.trans_lt (by decide)), two (calendar.minute.trans_lt (by decide)),
      two (calendar.second.trans_lt (by decide))⟩
  obtain ⟨month, day, hour, minute, second⟩ := fields
  have separator : (text "-").length = 1 ∧ (text "T").length = 1 ∧ (text ":").length = 1 ∧
      (text ".").length = 1 := by decide
  obtain ⟨dash, letter, colon, point⟩ := separator
  by_cases whole : info.us = 0
  · simp [dateText, whole, year, month, day, hour, minute, second, dash, letter, colon]
  · simp [dateText, whole, year, month, day, hour, minute, second, us, dash, letter, colon, point]

/-! ### Dates that are bound as text -/

section Binding

variable {σ : Type}

/-- An argument that is bound as the text of a date. -/
def BindsText (cfg : Config σ) (date : DateTime) : QoreValue → Prop
  | .date value => value = date ∧ cfg.optimizedDateBinds = true
  | .hash entries => Hash.getKeyValue entries (text "type") = .string (text "date") ∧
      Hash.getKeyValue entries (text "value") = .date date
  | _ => False

/-- A date that is bound as text is bound with all its fields: they can be read back, at fixed
places, from a text with no more than the characters that are needed. -/
theorem bindsText_readBack {cfg : Config σ} {date : DateTime} {value : QoreValue}
    (binds : BindsText cfg date value) (calendar : (cfg.qore.getInfo date cfg.serverTz).IsCalendar)
    (enc : Encoding) : ∃ str : Text,
      (bindValue cfg enc value = .param ⟨.char, .unused, str.length, .chars str⟩ ∨
        bindValue cfg enc value = .lastParam ⟨.char, .unused, str.length, .chars str⟩) ∧
      readDateText str = cfg.qore.getInfo date cfg.serverTz ∧
      str.length = if (cfg.qore.getInfo date cfg.serverTz).us = 0 then 19 else 26 := by
  refine ⟨dateText (cfg.qore.getInfo date cfg.serverTz), ?_, readDateText_dateText calendar,
    length_dateText calendar⟩
  cases value with
  | date value =>
    obtain ⟨rfl, optimized⟩ := binds
    left
    rw [bindValue, if_pos optimized, dateBinding]
  | hash entries =>
    obtain ⟨type, value⟩ := binds
    right
    simp only [bindValue, bindHash, type, value, if_true, dateBinding]
  | nothing | null | boolean value | int value | float value | number digits | string value
  | binary bytes | list elements => exact binds.elim

end Binding

/-- The last second of a leap day, with microseconds. -/
def leapDate : DateTime := dateAt 1709251199 45678

/-- A driver on a Qore that knows what time this is. -/
def leapConfig : Config (List Reply) :=
  { Config.sample (CtLib.scripted false) true 1 with
    qore := { QoreLib.plain with getInfo := fun _ _ => ⟨2024, 2, 29, 23, 59, 59, 45678⟩ } }

/-- A hash that asks for a date to be bound. -/
theorem bindsText_readBack_hash : ∃ str : Text,
    (bindValue leapConfig ⟨text "UTF-8", true⟩
      (.hash [(text "type", .string (text "date")), (text "value", .date leapDate)]) =
        .param ⟨.char, .unused, str.length, .chars str⟩ ∨
      bindValue leapConfig ⟨text "UTF-8", true⟩
      (.hash [(text "type", .string (text "date")), (text "value", .date leapDate)]) =
        .lastParam ⟨.char, .unused, str.length, .chars str⟩) ∧
    readDateText str = ⟨2024, 2, 29, 23, 59, 59, 45678⟩ ∧ str.length = 26 := by
  have binds : BindsText leapConfig leapDate
    (.hash [(text "type", .string (text "date")), (text "value", .date leapDate)]) := ⟨rfl, rfl⟩
  exact bindsText_readBack binds ⟨by decide, by decide, by decide, by decide, by decide, by decide,
    by decide⟩ _

end Command

end Sybase
