/-
This file proves which arguments come back unchanged from the server: what `set_params` binds for a
value is compared with what `get_value` reads from a column of the same data type that holds the
parameter. Integers, floats, binaries and NULL survive, and so does a string unless it ends in a
blank, as the blanks with which ct-lib fills a CHAR column cannot be told from its own. A boolean
comes back as an integer and a number as a string.
-/

import SybaseDriver.Command
import SybaseDriver.Numbers

namespace Sybase

open Command

/-! ### Memory -/

/-- The lowest bytes of a number, the lowest one first. -/
def littleEndian : Nat → Nat → List UInt8
  | 0, _ => []
  | count + 1, value => UInt8.ofNat value :: littleEndian count (value / 256)

/-- The memory of a signed number of so many bytes. -/
def signedBytes (count : Nat) (value : Int) : List UInt8 :=
  littleEndian count (value % (256 ^ count : Nat)).toNat

/-- The bytes of a text. -/
def textBytes (value : Text) : List UInt8 := value.map fun char => UInt8.ofNat char.toNat

/-- Each character of a text is one byte. -/
def IsByteText (value : Text) : Prop := ∀ char ∈ value, char.toNat < 256

theorem readUnsigned_cons (byte : UInt8) (bytes : List UInt8) (offset count : Nat) :
    readUnsigned (byte :: bytes) (offset + 1) count = readUnsigned bytes offset count := by
  induction count generalizing offset with
  | zero => rfl
  | succ count inductionHypothesis =>
    rw [readUnsigned, readUnsigned, List.getD_cons_succ, inductionHypothesis]

theorem readUnsigned_littleEndian (count value : Nat) (rest : List UInt8) :
    readUnsigned (littleEndian count value ++ rest) 0 count = value % 256 ^ count := by
  induction count generalizing value with
  | zero => simp [readUnsigned, Nat.mod_one]
  | succ count inductionHypothesis =>
    have byte : (UInt8.ofNat value).toNat = value % 256 := UInt8.toNat_ofNat'
    rw [littleEndian, List.cons_append, readUnsigned, List.getD_cons_zero, readUnsigned_cons,
      inductionHypothesis, byte, Nat.pow_succ', Nat.mod_mul]

theorem readSigned_signedBytes (count : Nat) (value : Int) (rest : List UInt8) :
    readSigned (signedBytes count value ++ rest) 0 count = value.bmod (2 ^ (8 * count)) := by
  have power : (256 : Nat) ^ count = 2 ^ (8 * count) := by rw [Nat.pow_mul]
  have positive : 0 < 256 ^ count := Nat.pow_pos (by decide)
  have below : (value % (256 ^ count : Nat)).toNat < 256 ^ count := by
    have := Int.emod_lt_of_pos value (Int.natCast_pos.mpr positive)
    omega
  have nonneg : 0 ≤ value % (256 ^ count : Nat) :=
    Int.emod_nonneg value (Int.natCast_ne_zero.mpr positive.ne')
  rw [readSigned, signedBytes, readUnsigned_littleEndian, Nat.mod_eq_of_lt below,
    Int.toNat_of_nonneg nonneg, power, Int.emod_bmod]

theorem toText_textBytes {value : Text} (isBytes : IsByteText value) :
    toText (textBytes value) = value := by
  rw [toText, textBytes, List.map_map]
  conv_rhs => rw [← List.map_id value]
  refine List.map_congr_left fun char member => ?_
  have small : (UInt8.ofNat char.toNat).toNat = char.toNat :=
    UInt8.toNat_ofNat_of_lt (isBytes char member)
  rw [Function.comp_apply, small, Char.ofNat_toNat, id]

/-! ### Blanks -/

theorem trimTrailing_padded (char : Char) (value : Text) (pad : Nat) :
    trimTrailing char (value ++ List.replicate pad char) = trimTrailing char value := by
  have dropped : ∀ value : Text, trimTrailing char value = value.rdropWhile (· = char) :=
    fun _ => rfl
  rw [dropped, dropped]
  induction pad with
  | zero => rw [List.replicate_zero, List.append_nil]
  | succ pad inductionHypothesis =>
    rw [List.replicate_succ', ← List.append_assoc, List.rdropWhile_concat_pos _ _ _ (by simp),
      inductionHypothesis]

theorem trimTrailing_eq_self_iff {char : Char} {value : Text} :
    trimTrailing char value = value ↔ value.getLast? ≠ some char := by
  have dropped : trimTrailing char value = value.rdropWhile (· = char) := rfl
  rw [dropped, List.rdropWhile_eq_self_iff]
  rcases List.eq_nil_or_concat value with rfl | ⟨before, last, rfl⟩
  · simp
  · simp

/-! ### Echoes -/

/-- A column that is not NULL, with these bytes at the start of its buffer. -/
structure Holds (bytes : List UInt8) (cell : Cell) : Prop where
  present : cell.indicator ≠ -1
  stored : ∃ rest, cell.value = bytes ++ rest
  valueLen : cell.valueLen = bytes.length

/-- A column of the data type of a parameter holds the parameter. Of a `CS_INT` the server sees four
bytes, whatever memory they were in, and a CHAR column is filled with blanks. -/
def Echoes (binding : Binding) (cell : Cell) : Prop :=
  match binding.data with
  | .null => cell.indicator = -1
  | .chars value => ∃ pad, Holds (textBytes (value ++ List.replicate pad ' ')) cell
  | .int64 value => Holds (signedBytes (if binding.datatype = .int then 4 else 8) value) cell
  | .int32 value => Holds (signedBytes 4 value) cell
  | .float (.float bits) => Holds (littleEndian 8 bits) cell
  | .binary bytes => Holds bytes cell
  | .datetime _ | .float (.real _) | .floatOfInt _ => False

section Arguments

variable {σ : Type} (cfg : Config σ) (enc : Encoding)

/-- The arguments that are no dates, lists or hashes, and are what their Qore types hold: the
strings are in the encoding of the connection, and where ct-lib has no `CS_BIGINT` the integers are
those that are bound as a `CS_INT`. -/
def QoreValue.IsPlain : QoreValue → Prop
  | nothing | null | boolean _ | binary _ => True
  | string value => cfg.qore.convertEncoding enc value = some value ∧ IsByteText value
  | number digits => IsByteText digits
  | int value => InInt64 value ∧
      (cfg.build.bigint = true ∨ (value ≤ 2147483647 ∧ value ≥ -2147483647))
  | float (.float bits) => bits < 2 ^ 64
  | float (.real _) | date _ | list _ | hash _ => False

end Arguments

/-- What an argument comes back as. -/
def QoreValue.comesBack : QoreValue → QoreValue
  | nothing => null
  | boolean value => int (if value then 1 else 0)
  | string value => string (trimTrailing ' ' value)
  | number digits => string (trimTrailing ' ' digits)
  | value => value

/-- The arguments that come back as they are. -/
def QoreValue.Survives : QoreValue → Prop
  | null | int _ | float _ | binary _ => True
  | string value => value.getLast? ≠ some ' '
  | nothing | boolean _ | number _ | date _ | list _ | hash _ => False

section Decoding

variable {σ : Type} {cfg : Config σ} {enc : Encoding} {described : Datafmt} {cell : Cell}
  {isMultiByte : Bool}

theorem comesBack_eq_self_iff {value : QoreValue} (plain : value.IsPlain cfg enc) :
    value.comesBack = value ↔ value.Survives := by
  cases value with
  | nothing | boolean value | number digits => simp [QoreValue.comesBack, QoreValue.Survives]
  | null | int value | float value | binary bytes => simp [QoreValue.comesBack, QoreValue.Survives]
  | string value =>
    rw [QoreValue.comesBack, QoreValue.Survives, QoreValue.string.injEq, trimTrailing_eq_self_iff]
  | date value | list elements | hash entries => exact plain.elim

theorem decode_null (absent : cell.indicator = -1) (datafmt : Datafmt) :
    decode cfg datafmt cell = .value .null := by
  rw [decode, if_pos absent]

theorem echoes_nullBinding (echoes : Echoes (nullBinding cfg) cell) : cell.indicator = -1 := by
  have null : (nullBinding cfg).data = .null := by
    unfold nullBinding
    split <;> rfl
  rwa [Echoes, null] at echoes

theorem Holds.take {bytes : List UInt8} (holds : Holds bytes cell) :
    cell.value.take cell.valueLen.toNat = bytes := by
  obtain ⟨rest, stored⟩ := holds.stored
  rw [holds.valueLen, stored, Int.toNat_natCast, List.take_left]

theorem Holds.valueLen_nonneg {bytes : List UInt8} (holds : Holds bytes cell) :
    ¬cell.valueLen < 0 := by
  rw [holds.valueLen]
  omega

/-- A CHAR column that holds a text is read as the text without its blanks at the end. -/
theorem decode_chars {value : Text} {pad : Nat} (isBytes : IsByteText value)
    (column : described.datatype = .char)
    (holds : Holds (textBytes (value ++ List.replicate pad ' ')) cell) :
    decode cfg (adjust cfg isMultiByte described) cell =
      .value (.string (trimTrailing ' ' value)) := by
  have padded : IsByteText (value ++ List.replicate pad ' ') := by
    intro char member
    rcases List.mem_append.mp member with inside | blank
    · exact isBytes char inside
    · rw [List.eq_of_mem_replicate blank]
      decide
  have adjusted : adjust cfg isMultiByte described =
      { described with
        count := 1, originDatatype := .char, datatype := .char, format := .padblank } := by
    simp only [adjust, column]
  rw [adjusted, decode, if_neg holds.present]
  simp only [if_neg holds.valueLen_nonneg, holds.take, toText_textBytes padded]
  simp [needTrim, stringValue, isNumber, trimTrailing_padded]

/-- An integer that fits its column is read as it is. -/
theorem decode_bigint {value : Int} (inInt64 : InInt64 value) (bigint : cfg.build.bigint = true)
    (column : described.datatype = .bigint) (holds : Holds (signedBytes 8 value) cell) :
    decode cfg (adjust cfg isMultiByte described) cell = .value (.int value) := by
  have adjusted : (adjust cfg isMultiByte described).datatype = .bigint := by
    simp only [adjust, column]
  obtain ⟨rest, stored⟩ := holds.stored
  have fits : value.bmod (2 ^ (8 * 8)) = value := by
    rw [InInt64, minInt64, maxInt64] at inInt64
    exact Int.bmod_eq_of_le_mul_two (by omega) (by omega)
  rw [decode, if_neg holds.present, adjusted]
  simp only [bigint, if_true, stored, readSigned_signedBytes, fits]

theorem decode_int {value : Int} (least : -2147483648 ≤ value) (most : value ≤ 2147483647)
    (column : described.datatype = .int) (holds : Holds (signedBytes 4 value) cell) :
    decode cfg (adjust cfg isMultiByte described) cell = .value (.int value) := by
  have adjusted : (adjust cfg isMultiByte described).datatype = .int := by
    simp only [adjust, column]
  obtain ⟨rest, stored⟩ := holds.stored
  have fits : value.bmod (2 ^ (8 * 4)) = value :=
    Int.bmod_eq_of_le_mul_two (by omega) (by omega)
  rw [decode, if_neg holds.present, adjusted]
  simp only [stored, readSigned_signedBytes, fits]

theorem decode_float {bits : Nat} (small : bits < 2 ^ 64) (column : described.datatype = .float)
    (double : cfg.build.sybase = true ∨ described.usertype ≠ 26)
    (holds : Holds (littleEndian 8 bits) cell) :
    decode cfg (adjust cfg isMultiByte described) cell = .value (.float (.float bits)) := by
  have adjusted : (adjust cfg isMultiByte described).datatype = .float := by
    rcases double with sybase | other
    · simp [adjust, column, sybase]
    · simp [adjust, column, other]
  obtain ⟨rest, stored⟩ := holds.stored
  have fits : bits % 256 ^ 8 = bits := Nat.mod_eq_of_lt small
  rw [decode, if_neg holds.present, adjusted]
  simp only [stored, readUnsigned_littleEndian, fits]

theorem decode_binary {bytes : List UInt8} (column : described.datatype = .binary)
    (holds : Holds bytes cell) :
    decode cfg (adjust cfg isMultiByte described) cell = .value (.binary bytes) := by
  have adjusted : (adjust cfg isMultiByte described).datatype = .binary := by
    simp only [adjust, column]
  rw [decode, if_neg holds.present, adjusted]
  simp only [if_neg holds.valueLen_nonneg, holds.take]

/-- What an echo of the parameter for an argument is read as. -/
theorem bound_comesBack {value : QoreValue} (plain : value.IsPlain cfg enc) :
    ∃ binding, bindValue cfg enc value = .param binding ∧
      ∀ described cell isMultiByte, described.datatype = binding.datatype →
        (cfg.build.sybase = true ∨ described.usertype ≠ 26) → Echoes binding cell →
        decode cfg (adjust cfg isMultiByte described) cell = .value value.comesBack := by
  cases value with
  | nothing =>
    exact ⟨_, rfl, fun _ _ _ _ _ echoes => decode_null (echoes_nullBinding echoes) _⟩
  | null =>
    exact ⟨_, rfl, fun _ _ _ _ _ echoes => decode_null (echoes_nullBinding echoes) _⟩
  | string value =>
    obtain ⟨same, isBytes⟩ := plain
    refine ⟨⟨.char, .unused, value.length, .chars value⟩, ?_, ?_⟩
    · rw [bindValue, same]
    · rintro described cell isMultiByte column - ⟨pad, holds⟩
      exact decode_chars isBytes column holds
  | number digits =>
    refine ⟨_, rfl, ?_⟩
    rintro described cell isMultiByte column - ⟨pad, holds⟩
    exact decode_chars plain column holds
  | int value =>
    obtain ⟨inInt64, bigint | ⟨most, least⟩⟩ := plain
    · refine ⟨⟨.bigint, .unused, -1, .int64 value⟩, ?_, ?_⟩
      · rw [bindValue, intBinding, if_pos bigint]
      · intro described cell isMultiByte column _ holds
        exact decode_bigint inInt64 bigint column holds
    · by_cases bigint : cfg.build.bigint = true
      · refine ⟨⟨.bigint, .unused, -1, .int64 value⟩, ?_, ?_⟩
        · rw [bindValue, intBinding, if_pos bigint]
        · intro described cell isMultiByte column _ holds
          exact decode_bigint inInt64 bigint column holds
      · refine ⟨⟨.int, .unused, -1, .int32 value⟩, ?_, ?_⟩
        · rw [bindValue, intBinding, if_neg bigint, if_pos ⟨most, least⟩]
        · intro described cell isMultiByte column _ holds
          exact decode_int (by omega) most column holds
  | boolean value =>
    refine ⟨_, rfl, fun described cell isMultiByte column _ holds => ?_⟩
    exact decode_int (by split <;> omega) (by split <;> omega) column holds
  | float value =>
    cases value with
    | real bits => exact plain.elim
    | float bits =>
      refine ⟨_, rfl, fun described cell isMultiByte column double holds => ?_⟩
      exact decode_float plain column double holds
  | binary bytes =>
    refine ⟨_, rfl, fun described cell isMultiByte column _ holds => ?_⟩
    exact decode_binary column holds
  | date value | list elements | hash entries => exact plain.elim

/-- An argument is bound, and it comes back as it is from a column of the data type of its parameter
exactly if it is NULL, an integer, a float or a binary, or a string that does not end in a blank. -/
theorem comesBack_iff {value : QoreValue} (plain : value.IsPlain cfg enc) :
    ∃ binding, bindValue cfg enc value = .param binding ∧
      ∀ described cell isMultiByte, described.datatype = binding.datatype →
        (cfg.build.sybase = true ∨ described.usertype ≠ 26) → Echoes binding cell →
        decode cfg (adjust cfg isMultiByte described) cell = .value value.comesBack ∧
        (decode cfg (adjust cfg isMultiByte described) cell = .value value ↔ value.Survives) := by
  obtain ⟨binding, bound, comesBack⟩ := bound_comesBack plain
  refine ⟨binding, bound, fun described cell isMultiByte column double echoes => ?_⟩
  have read := comesBack described cell isMultiByte column double echoes
  refine ⟨read, ?_⟩
  rw [read, Decoded.value.injEq]
  exact comesBack_eq_self_iff plain

end Decoding

/-- A CHAR column of five bytes. -/
def sampleColumn : Datafmt := ⟨text "text", .char, .char, 0, 5, .unused, 1⟩

/-- A string that ends in a blank loses it. -/
theorem comesBack_iff_blank :
    decode (Config.sample (CtLib.scripted false) true 1)
      (adjust (Config.sample (CtLib.scripted false) true 1) true sampleColumn)
      ⟨textBytes (text "ab   "), 5, 0⟩ ≠ .value (.string (text "ab ")) := by
  have plain : (QoreValue.string (text "ab ")).IsPlain (Config.sample (CtLib.scripted false) true 1)
      ⟨text "UTF-8", true⟩ := by
    have all : (text "ab ").all (fun char => char.toNat < 256) = true := by decide
    exact ⟨rfl, fun char member => of_decide_eq_true (List.all_eq_true.mp all char member)⟩
  obtain ⟨binding, bound, comesBack⟩ := comesBack_iff plain
  cases bound
  have echoes : Echoes ⟨.char, .unused, 3, .chars (text "ab ")⟩ ⟨textBytes (text "ab   "), 5, 0⟩ :=
    ⟨2, by decide, ⟨[], by decide⟩, by decide⟩
  intro same
  have noBlank : (text "ab ").getLast? ≠ some ' ' :=
    (comesBack sampleColumn _ true rfl (.inr (by decide)) echoes).2.mp same
  exact noBlank (by decide)

end Sybase
