/-
This file defines how the value of one column is read from its output buffer:
the numbers `NUMERIC` columns become, the strings that are trimmed, and the
little-endian integers and dates of the fixed-size types.
-/

import SybaseDriver.Conversions

namespace Sybase

/-! ### Reading memory -/

/-- The unsigned number in the first `count` bytes from an offset, lowest byte first. -/
def readUnsigned (bytes : List UInt8) (offset : Nat) : Nat → Nat
  | 0 => 0
  | count + 1 => (bytes.getD offset 0).toNat + 256 * readUnsigned bytes (offset + 1) count

/-- The signed number in the first `count` bytes from an offset. -/
def readSigned (bytes : List UInt8) (offset count : Nat) : Int :=
  (readUnsigned bytes offset count : Int).bmod (2 ^ (8 * count))

/-- The characters of bytes. -/
def toText (bytes : List UInt8) : Text := bytes.map fun byte => Char.ofNat byte.toNat

/-- `QoreString::trim_trailing`. -/
def trimTrailing (char : Char) (value : Text) : Text :=
  (value.reverse.dropWhile (· = char)).reverse

/-! ### Numbers -/

/-- `strcmp(first, second) <= 0`. -/
def strcmpLe : Text → Text → Bool
  | [], _ => true
  | _ :: _, [] => false
  | a :: first, b :: second => a < b || (a = b && strcmpLe first second)

/-- The value of a run of digits at the start of a text, after the digits read so far. -/
def leadingDigits (value : Int) : Text → Int
  | [] => value
  | digit :: rest =>
    if digit.isDigit then leadingDigits (value * 10 + (digit.toNat - '0'.toNat : Nat)) rest
    else value

/-- `strtoll` in base 10, which saturates at the bounds of a 64-bit number. -/
def strtoll (digits : Text) : Int :=
  let value := match digits with
    | '-' :: rest => -leadingDigits 0 rest
    | _ => leadingDigits 0 digits
  max (-9223372036854775808) (min 9223372036854775807 value)

/-- `command::getNumber`. -/
def getNumber (support : NumericSupport) (str : Text) : QoreValue :=
  let hasDecimal := str.contains '.'
  -- trailing zeros after the decimal point go in any case, and the point with them
  let zeros := if hasDecimal then trimTrailing '0' str else str
  let whole := hasDecimal && zeros.getLast? = some '.'
  let digits := if whole then zeros.dropLast else zeros
  if support = .optimal && (!hasDecimal || whole) then
    let sign := digits.head? = some '-'
    let len := if sign then digits.length - 1 else digits.length
    if !digits.contains '.' && (len < 19 || (len = 19 &&
        ((!sign && strcmpLe digits (text "9223372036854775807")) ||
          (sign && strcmpLe (text "-9223372036854775808") digits)))) then
      .int (strtoll digits)
    else .number digits
  else .number digits

/-! ### Values -/

/-- `is_number`. -/
def isNumber (datafmt : Datafmt) : Bool :=
  datafmt.originDatatype = .decimal || datafmt.originDatatype = .numeric

/-- `need_trim`. -/
def needTrim (build : Build) (datafmt : Datafmt) : Bool :=
  datafmt.format = .padblank || datafmt.usertype = 34 || datafmt.datatype = .text ||
    (build.sybase && datafmt.datatype = .longchar)

/-- What reading a buffer comes to: a value, an exception, or memory that is not there. -/
inductive Decoded where
  | value (value : QoreValue)
  | exception (raised : QoreException)
  | undefined

/-- The number `%d` prints for a data type. -/
def Datatype.toInt : Datatype → Int
  | char => 0
  | binary => 1
  | longchar => 2
  | longbinary => 3
  | text => 4
  | image => 5
  | tinyint => 6
  | smallint => 7
  | int => 8
  | real => 9
  | float => 10
  | bit => 11
  | datetime => 12
  | datetime4 => 13
  | money => 14
  | money4 => 15
  | numeric => 16
  | decimal => 17
  | varchar => 18
  | varbinary => 19
  | unichar => 25
  | date => 27
  | bigint => 30
  | bigdatetime => 35
  | bigtime => 36
  | other type => type

/-- The exception for a data type `get_value` does not know. -/
def unknownType (datatype : Datatype) : QoreException :=
  ⟨"TDS-EXEC-EXCEPTION", "Unknown data type " ++ toString datatype.toInt⟩

section GetValue

variable {σ : Type} (cfg : Config σ)

/-- The string of a character column: a number where the column is one and the options ask for
it. -/
def stringValue (datafmt : Datafmt) (value : Text) : QoreValue :=
  if isNumber datafmt && cfg.numericSupport ≠ .string then getNumber cfg.numericSupport value
  else .string value

/-- `command::get_value`, up to the raising of the exception. -/
def decode (datafmt : Datafmt) (cell : Cell) : Decoded :=
  if cell.indicator = -1 then .value .null
  else match datafmt.datatype with
    | .longchar | .varchar | .text =>
      if cell.valueLen ≤ 0 then .undefined
      else
        let value := toText (cell.value.take (cell.valueLen - 1).toNat)
        .value (stringValue cfg datafmt
          (if cfg.build.sybase && needTrim cfg.build datafmt then trimTrailing ' ' value
            else value))
    | .char =>
      if cell.valueLen < 0 then .undefined
      else
        let value := toText (cell.value.take cell.valueLen.toNat)
        .value (stringValue cfg datafmt
          (if needTrim cfg.build datafmt then trimTrailing ' ' value else value))
    | .varbinary | .binary | .longbinary | .image =>
      if cell.valueLen < 0 then .undefined
      else .value (.binary (cell.value.take cell.valueLen.toNat))
    | .tinyint => .value (.int (readUnsigned cell.value 0 1))
    | .smallint => .value (.int (readSigned cell.value 0 2))
    | .int => .value (.int (readSigned cell.value 0 4))
    | .bigint =>
      if cfg.build.bigint then .value (.int (readSigned cell.value 0 8))
      else .exception (unknownType .bigint)
    | .real => .value (.float (.real (readUnsigned cell.value 0 4)))
    | .float => .value (.float (.float (readUnsigned cell.value 0 8)))
    | .bit => .value (.boolean (readUnsigned cell.value 0 1 ≠ 0))
    | .datetime =>
      let value : CsDatetime := ⟨readSigned cell.value 0 4, readSigned cell.value 4 4⟩
      if datafmt.usertype = 38 then
        .value (.date (Conversions.timeToDateTime value cfg.serverTz))
      else .value (.date (Conversions.datetimeToDateTime value cfg.serverTz))
    | .datetime4 =>
      .value (.date (Conversions.datetime4ToDateTime
        ⟨readUnsigned cell.value 0 2, readUnsigned cell.value 2 2⟩))
    | .bigdatetime =>
      if cfg.build.bigdatetime then
        .value (.date (Conversions.bigdatetimeToDateTime (readUnsigned cell.value 0 8)
          cfg.serverTz))
      else .exception (unknownType .bigdatetime)
    | .bigtime =>
      if cfg.build.bigdatetime then
        .value (.date (Conversions.bigtimeToDateTime (readUnsigned cell.value 0 8) cfg.serverTz))
      else .exception (unknownType .bigtime)
    | .date =>
      if cfg.build.date then
        .value (.date (Conversions.dateToDateTime (readUnsigned cell.value 0 4) cfg.serverTz))
      else .exception (unknownType .date)
    | datatype => .exception (unknownType datatype)

open Program

/-- `command::get_value`. -/
def getValue (datafmt : Datafmt) (cell : Cell) : Driver σ QoreValue := do
  modify fun world => world.record .other (.value datafmt cell)
  match decode cfg datafmt cell with
  | .value value => pure value
  | .exception raised => do
    raiseException raised.err raised.desc
    pure .nothing
  | .undefined => halt .undefined

end GetValue

end Sybase
