/-
This file defines the rewriting of a command text before it is sent. The scanner
walks over the buffer it rewrites: a `%v` becomes the name of a parameter, a `%d`
or `%s` the text of its argument, and the colon of a placeholder an `@`. The
position is an index into the buffer, and reading past the terminating zero is
kept apart from reading it.
-/

import SybaseDriver.GetValue

namespace Sybase

namespace SybaseQuery

/-! ### The buffer -/

/-- The character at a position of a buffer. The terminating zero is read at the length; past it
there is nothing to read. -/
def charAt (buffer : Text) (position : Nat) : Option Char :=
  if position < buffer.length then buffer[position]?
  else if position = buffer.length then some '\x00'
  else none

/-- A text as `c_str` gives it: up to its first zero byte. -/
def cString (str : Text) : Text := str.takeWhile fun char => char ≠ '\x00'

/-- `QoreString::replace`. -/
def replace (buffer : Text) (offset len : Nat) (replacement : Text) : Text :=
  buffer.take offset ++ replacement ++ buffer.drop (offset + len)

/-- The position after the quoted string whose opening quote was read: a backslash hides the
character after it. `none` is a scan that left the buffer; each step of it moves forward, so the
bound is reached only outside. -/
def skipQuoted (buffer : Text) (quote : Char) : Nat → Nat → Option Nat
  | 0, _ => none
  | bound + 1, s => do
    let ch ← charAt buffer s
    if ch = '\\' then
      let _ ← charAt buffer (s + 1)
      skipQuoted buffer quote bound (s + 2)
    else if ch = quote then some (s + 1)
    else skipQuoted buffer quote bound (s + 1)

/-- `isalnum(c) || c == '_'`. -/
def isNameChar (char : Char) : Bool := char.isAlphanum || char = '_'

/-- The end of the placeholder name at a position. -/
def skipName (buffer : Text) : Nat → Nat → Nat
  | 0, s => s
  | bound + 1, s =>
    match charAt buffer s with
    | some ch => if isNameChar ch then skipName buffer bound (s + 1) else s
    | none => s

/-! ### The scanner -/

/-- The name of the parameter with a number. -/
def parName (number : Nat) : Text := text "@par" ++ decimal number

/-- `QoreListNode::retrieveEntry` on an argument list that may be absent. -/
def argument (args : Option (List QoreValue)) (index : Nat) : QoreValue :=
  match args with
  | some values => values.getD index .nothing
  | none => .nothing

/-- The state of the scanner. -/
structure Scan where
  mCmd : Text
  s : Nat
  paramList : List Char
  placeholders : List Text
  deriving DecidableEq, Repr

/-- What one pass of the scanner comes to. -/
inductive Scanned where
  | next (scan : Scan)
  | finished (query : SybaseQuery)
  | exception (raised : QoreException)
  | overrun
  deriving DecidableEq, Repr

/-- The exception for a `%` that no specification follows. -/
def badSpecification : QoreException :=
  ⟨"DBI-EXEC-EXCEPTION", "Only %v or %d expected in parameter list"⟩

/-- The exception for a `:` that no name follows. -/
def missingName : QoreException :=
  ⟨"DBI-EXEC-EXCEPTION", "Placeholder name missing after ':'"⟩

/-- The exception `DBI_concat_string` raises. -/
def badString : QoreException := ⟨"DBI-CONCAT-ERROR", "the argument has no string value"⟩

/-- Replace the specification at an offset by `c_str` of a text, and go on where `strlen` says that
the text ends: it counts what comes after a zero byte too. -/
def Scan.inline (scan : Scan) (offset : Nat) (letter : Char) (replacement : Text) : Scan :=
  { scan with
    mCmd := replace scan.mCmd offset 2 (cString replacement)
    s := offset + replacement.length
    paramList := scan.paramList ++ [letter] }

/-- A `%` at an offset: the letter after it says how the argument is passed. A `%s` is marked
with a `d` so that it is skipped when the parameters are bound. -/
def scanSpecification (qore : QoreLib) (args : Option (List QoreValue)) (scan : Scan)
    (offset : Nat) : Scanned :=
  match charAt scan.mCmd (offset + 1) with
  | none => .overrun
  | some ch =>
    if ch = 'v' then
      .next (scan.inline offset 'v' (parName (scan.paramList.length + 1)))
    else if ch = 'd' then
      .next (scan.inline offset 'd' (qore.concatNumeric (argument args scan.paramList.length)))
    else if ch = 's' then
      match qore.concatString (argument args scan.paramList.length) with
      | some value => .next (scan.inline offset 'd' value)
      | none => .exception badString
    else .exception badSpecification

/-- A `:` at an offset: the placeholder name after it is recorded. -/
def scanPlaceholder (scan : Scan) (offset : Nat) : Scanned :=
  let start := offset + 1
  let stop := skipName scan.mCmd (scan.mCmd.length + 1 - start) start
  if stop = start then .exception missingName
  else .next {
    mCmd := replace scan.mCmd offset 1 (text "@")
    s := stop
    paramList := scan.paramList
    placeholders := scan.placeholders ++ [(scan.mCmd.drop start).take (stop - start)] }

/-- One pass of the loop of `sybase_query::init`. -/
def scanStep (qore : QoreLib) (args : Option (List QoreValue)) (scan : Scan) : Scanned :=
  match charAt scan.mCmd scan.s with
  | none => .overrun
  | some ch =>
    if ch = '\x00' then
      .finished ⟨scan.mCmd, scan.paramList, scan.placeholders⟩
    else if ch = '"' || ch = '\'' then
      match skipQuoted scan.mCmd ch (scan.mCmd.length + 2) (scan.s + 1) with
      | some s => .next { scan with s := s }
      | none => .overrun
    else if ch = '%' then scanSpecification qore args scan scan.s
    else if ch = ':' then scanPlaceholder scan scan.s
    else .next { scan with s := scan.s + 1 }

/-- The loop of `sybase_query::init`. `none` is a run that reaches the bound. -/
def scanLoop (qore : QoreLib) (args : Option (List QoreValue)) : Nat → Scan → Option Scanned
  | 0, _ => none
  | bound + 1, scan =>
    match scanStep qore args scan with
    | .next scan => scanLoop qore args bound scan
    | done => some done

/-- The scanner at the start of a command text. -/
def Scan.start (cmdText : Text) : Scan := ⟨cmdText, 0, [], []⟩

/-- The rewriting of a command text, with one more pass than it has characters: each pass moves
over at least one character of the text. -/
def scan (qore : QoreLib) (args : Option (List QoreValue)) (cmdText : Text) : Option Scanned :=
  scanLoop qore args (cmdText.length + 1) (Scan.start cmdText)

section Init

variable {σ : Type} (cfg : Config σ)

open Program

/-- `sybase_query::init` with arguments: the query, or `none` where the source returns -1 with
an exception raised. -/
def init (cmdText : Text) (args : Option (List QoreValue)) : Driver σ (Option SybaseQuery) :=
  match scan cfg.qore args cmdText with
  | some (.finished query) => pure (some query)
  | some (.exception raised) => do
    raiseException raised.err raised.desc
    pure none
  | some (.next _) | some .overrun => halt .undefined
  | none => halt .exhausted

/-- `sybase_query::init` of a raw command text. -/
def initRaw (cmdText : Text) : SybaseQuery := ⟨cmdText, [], []⟩

end Init

end SybaseQuery

end Sybase
