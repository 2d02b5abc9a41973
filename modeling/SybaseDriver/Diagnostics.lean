/-
This file defines how the driver reads the messages ct-lib has queued. Messages
of severity 10 or less are informational. `purgeMessages` raises the severe ones
in the exception sink; `doException` puts them into the text of an error and
throws it; both leave the queue empty.
-/

import SybaseDriver.Query

namespace Sybase

namespace Connection

/-- The text of an error under construction and the number of messages reported in it. -/
structure Report where
  estr : String
  count : Nat

/-- `QoreString::trim_trailing` with a set of characters. -/
def trimEnd (chars : List Char) (value : String) : String :=
  String.ofList ((value.toList.reverse.dropWhile chars.contains).reverse)

/-- The separator between two messages. -/
def Report.separator (report : Report) : String := if report.count = 0 then "" else ", "

/-- Report a client message. -/
def Report.client (report : Report) (msg : ClientMsg) : Report :=
  if msg.severity ≤ 10 then report
  else
    let line := s!"client message {msg.number}: severity {msg.severity}: {msg.msgstring}"
    let line := trimEnd ['.'] (report.estr ++ report.separator ++ line)
    { estr :=
        if msg.osnumber ≠ 0 ∧ msg.osstring ≠ "" then
          s!"{line}, OS error {msg.osnumber}: {msg.osstring}"
        else line
      count := report.count + 1 }

/-- Report a server message. -/
def Report.server (report : Report) (msg : ServerMsg) : Report :=
  if msg.severity ≤ 10 then report
  else
    let name := if msg.svrname = "" then "" else s!"{msg.svrname}: "
    let state := s!"state {msg.state}, server message {msg.msgnumber}, "
    let line := if msg.line = 0 then "" else s!"line {msg.line}, "
    let severity := s!"severity {msg.severity}"
    let body := if msg.text = "" then "" else s!": {msg.text}"
    { estr := trimEnd ['\n', '.']
        (report.estr ++ report.separator ++ name ++ state ++ line ++ severity ++ body)
      count := report.count + 1 }

/-- The server messages 3902 and 3903: a commit or rollback without a transaction. -/
def isIgnorable (msg : ServerMsg) : Bool := msg.msgnumber = 3902 || msg.msgnumber = 3903

/-- The text of an error, without the separator where there was nothing to report. -/
def Report.finish (report : Report) : String :=
  if report.count = 0 then String.ofList (report.estr.toList.dropLast.dropLast) else report.estr

section Messages

variable {σ : Type}

open Program

/-- `ct_diag(CS_CLEAR)` for all messages, and `connection::discard_messages`. -/
def discardMessages : Driver σ Unit :=
  modify fun world => { world with clientMsgs := [], serverMsgs := [] }

/-- `connection::do_check_exception`: throw the queued messages as an error, unless `check` is
set and the only server message is one that may be ignored. -/
def doCheckException (check : Bool) (err fmt : String) : Driver σ Unit := do
  let world ← get
  let report := world.clientMsgs.foldl Report.client ⟨fmt ++ ": ", 0⟩
  let report := world.serverMsgs.foldl Report.server report
  let fndIgnore := !check || world.serverMsgs.any isIgnorable
  discardMessages
  if check && fndIgnore && world.serverMsgs.length = 1 then pure ()
  else throw ⟨err, report.finish⟩

/-- `connection::do_exception`. -/
def doException (err fmt : String) : Driver σ Unit := doCheckException false err fmt

/-- Raise the severe ones of a list of messages, and say whether there was one. -/
def raiseSevere {msg : Type} (severity : msg → Int) (err : String) (describe : msg → String) :
    List msg → Driver σ Bool
  | [] => pure false
  | message :: rest => do
    if severity message > 10 then
      raiseException err (describe message)
      let _ ← raiseSevere severity err describe rest
      pure true
    else raiseSevere severity err describe rest

/-- The exception text of a client message. -/
def describeClient (msg : ClientMsg) : String :=
  let line := s!"client message {msg.number}, severity {msg.severity}: {msg.msgstring}"
  if msg.osstring = "" then line else s!"{line} ({msg.osnumber}): '{msg.osstring}'"

/-- The exception text of a server message. -/
def describeServer (msg : ServerMsg) : String :=
  let state := s!"state {msg.state}, server message {msg.msgnumber}, "
  let line := if msg.line = 0 then "" else s!"line {msg.line}, "
  trimEnd ['\n'] (state ++ line ++ s!"severity {msg.severity}: {msg.text}")

/-- `connection::purge_messages`. -/
def purgeMessages : Driver σ Int := do
  let world ← get
  let client ← raiseSevere ClientMsg.severity "TDS-CLIENT-ERROR" describeClient world.clientMsgs
  let server ← raiseSevere ServerMsg.severity "TDS-SERVER-ERROR" describeServer world.serverMsgs
  discardMessages
  pure (if client || server then -1 else 0)

end Messages

end Connection

end Sybase
