/-
This file defines the values the driver hands to Qore and takes from it: the
Qore value types the driver builds or binds, dates as the instant and the zone
they were built from, and hashes, which keep the order in which their keys were
inserted.
-/

import Mathlib

namespace Sybase

/-- The bytes of a C string up to its terminator, one character a byte. -/
abbrev Text := List Char

/-- A string literal as a text. -/
abbrev text (literal : String) : Text := literal.toList

/-- The digits `%d`, `%u` and `operator<<` print for a number. -/
def decimal (number : Nat) : Text := Nat.toDigits 10 number

/-- A double, as the bits it was read from: a `CS_REAL` widened to a double, or a `CS_FLOAT`. -/
inductive FloatValue where
  | real (bits : Nat)
  | float (bits : Nat)
  deriving DecidableEq, Repr

/-- A Qore encoding. -/
structure Encoding where
  code : Text
  isMultiByte : Bool
  deriving DecidableEq, Repr

/-- A time zone, by its region name. -/
abbrev ZoneInfo := Text

/-- A `DateTimeNode`: an absolute instant in seconds and microseconds, or a relative date.
`isLocal` marks a date made by `makeAbsoluteLocal`, whose seconds count local time. -/
structure DateTime where
  relative : Bool
  seconds : Int
  microseconds : Int
  zone : Option ZoneInfo
  isLocal : Bool
  deriving DecidableEq, Repr

/-- The broken-down time `DateTimeNode::getInfo` fills in. -/
structure QoreTm where
  year : Nat
  month : Nat
  day : Nat
  hour : Nat
  minute : Nat
  second : Nat
  us : Nat
  deriving DecidableEq, Repr

/-- The Qore values of the driver. -/
inductive QoreValue where
  | nothing
  | null
  | boolean (value : Bool)
  | int (value : Int)
  | float (value : FloatValue)
  | number (digits : Text)
  | string (value : Text)
  | date (value : DateTime)
  | binary (bytes : List UInt8)
  | list (elements : List QoreValue)
  | hash (entries : List (Text × QoreValue))

namespace QoreValue

/-- `QoreValue::operator bool`: a value tests as present unless it is NOTHING, SQL NULL
included. -/
def isPresent : QoreValue → Bool
  | nothing => false
  | _ => true

/-- `QoreValue::isNullOrNothing`. -/
def isNullOrNothing : QoreValue → Bool
  | nothing => true
  | null => true
  | _ => false

/-- `QoreValue::getTypeName`. -/
def getTypeName : QoreValue → String
  | nothing => "nothing"
  | null => "NULL"
  | boolean _ => "bool"
  | int _ => "integer"
  | float _ => "float"
  | number _ => "number"
  | string _ => "string"
  | date _ => "date"
  | binary _ => "binary"
  | list _ => "list"
  | hash _ => "hash"

end QoreValue

/-- A hash: its keys in insertion order, each with its value. -/
abbrev Hash := List (Text × QoreValue)

namespace Hash

/-- `QoreHashNode::getKeyValue`: NOTHING for a key that does not exist. -/
def getKeyValue (hash : Hash) (key : Text) : QoreValue := (hash.lookup key).getD .nothing

/-- `QoreHashNode::setKeyValue`: the value replaces that of an existing key in its place, and a
new key goes to the end. -/
def setKeyValue (hash : Hash) (key : Text) (value : QoreValue) : Hash :=
  match hash with
  | [] => [(key, value)]
  | entry :: rest =>
    if entry.1 = key then (key, value) :: rest else entry :: setKeyValue rest key value

/-- The keys of a hash, in insertion order. -/
def keys (hash : Hash) : List Text := hash.map Prod.fst

@[simp] theorem keys_nil : keys [] = [] := rfl

@[simp] theorem keys_cons (entry : Text × QoreValue) (rest : Hash) :
    keys (entry :: rest) = entry.1 :: keys rest := rfl

@[simp] theorem keys_append (first second : Hash) :
    keys (first ++ second) = keys first ++ keys second := List.map_append

/-- A key that is not there yet is inserted at the end. -/
theorem setKeyValue_of_notMem {hash : Hash} {key : Text} (value : QoreValue)
    (fresh : key ∉ keys hash) : setKeyValue hash key value = hash ++ [(key, value)] := by
  induction hash with
  | nil => rfl
  | cons entry rest inductionHypothesis =>
    simp only [keys_cons, List.mem_cons, not_or] at fresh
    rw [setKeyValue, if_neg fun same => fresh.1 same.symm, inductionHypothesis fresh.2,
      List.cons_append]

end Hash

end Sybase
