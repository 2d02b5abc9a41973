/-
This file defines the class `ss::Statement`, the implementation of a Qore
`SQLStatement`: a command, the row that `next` has fetched ahead, and whether the
statement may still be used. A statement lives in the private data of its
`SQLStatement`, so its methods work on the statement with a given identity.
-/

import SybaseDriver.Connection

namespace Sybase

namespace Statement

open Program Connection

variable {σ : Type} (cfg : Config σ)

/-- A new `Statement`. -/
def create : Statement := ⟨none, none, [], true⟩

/-- `Statement::checkValid`. -/
def checkValid (statement : StatementId) : Driver σ Int := do
  if (← getModuleWrap statement).m.valid then pure 0
  else do
    raiseException "STATEMENT-CONNECTION-ERROR" ("the connection was lost while the statement " ++
      "was in progress; it cannot be used any longer")
    pure (-1)

/-- Using the connection of a Datasource that is closed is undefined. -/
def checkOpen : Driver σ Unit := do
  if (← get).isOpen then pure () else halt .undefined

/-- `SafePtr<command>::operator->`. -/
def getContext (statement : StatementId) : Driver σ CommandId := do
  match (← getModuleWrap statement).m.context with
  | some cmd => pure cmd
  | none => throw ⟨"TDS-SYBASE", "Not initialized"⟩

/-- `context.reset`: the command held before is destroyed. -/
def resetContext (statement : StatementId) (context : Option CommandId) : Driver σ Unit := do
  let held := (← getModuleWrap statement).m.context
  modifyStatement statement fun m => { m with context := context }
  Command.destroyOption cfg held

/-- `connection::readNextResult` on the command a statement holds. Without one, only a pending
exception keeps it from being used. -/
def readNextResult (reconnect : Reconnect σ) (context : Option CommandId) : Driver σ ResType :=
  match context with
  | some cmd => Connection.readNextResult cfg reconnect cmd
  | none => do
    if ← isException then pure .resError else halt .undefined

/-- Cancel the command a statement holds. -/
def cancelContext (statement : StatementId) : Driver σ Unit := do
  match (← getModuleWrap statement).m.context with
  | some cmd => do
    let _ ← Command.cancel cfg cmd
    pure ()
  | none => pure ()

/-- `Statement::exec`. -/
def exec (reconnect : Reconnect σ) (statement : StatementId) (query : Option Text)
    (args : Option (List QoreValue)) (raw : Bool) : Driver σ Int := do
  if (← checkValid statement) ≠ 0 then pure (-1)
  else do
    cancelContext cfg statement
    checkOpen
    match query with
    | none => halt .undefined
    | some query => do
      let cmd ← setupCommand cfg reconnect query args raw
      resetContext cfg statement cmd
      if ← isException then pure (-1)
      else do
        let _ ← readNextResult cfg reconnect cmd
        if ← isException then pure (-1) else pure 0

/-- `expect_row`. -/
def expectRow : ResType → Bool
  | .resRow => true
  | .resParam => true
  | _ => false

/-- Fetch a row ahead, unless there is one. -/
def fetchAhead (statement : StatementId) : Driver σ Unit := do
  let wrap ← getModuleWrap statement
  when wrap.m.execRes.isNone do
    let h ← Command.fetchRow cfg (← getContext statement) none
    modifyStatement statement fun m => { m with execRes := h }

/-- `Statement::next`. -/
def next (reconnect : Reconnect σ) (statement : StatementId) : Driver σ Bool := do
  if (← checkValid statement) ≠ 0 then pure false
  else do
    checkOpen
    let res ← readNextResult cfg reconnect (← getModuleWrap statement).m.context
    if ← isException then pure false
    else do
      when (expectRow res) (fetchAhead cfg statement)
      pure (← getModuleWrap statement).m.execRes.isSome

/-- `Statement::fetch_row`, which hands out the row fetched ahead. -/
def fetchRow (statement : StatementId) : Driver σ (Option Hash) := do
  let h := (← getModuleWrap statement).m.execRes
  modifyStatement statement fun m => { m with execRes := none }
  pure h

/-- One pass of the loop of `Statement::fetch_rows`, with the rows left and the rows so far. -/
def fetchRowsOnce (reconnect : Reconnect σ) (statement : StatementId) (r : Int) :
    Int × List Hash → Driver σ ((Int × List Hash) ⊕ Option (List Hash)) :=
  fun (rows, reslist) =>
    if r > 0 ∧ rows < 0 then pure (.inr (some reslist))
    else do
      let rows := if r > 0 then rows - 1 else rows
      if ← isException then pure (.inr none)
      else do
        let h ← fetchRow statement
        let reslist := reslist ++ h.toList
        -- also after a row that was not there, the condition of the loop calls `next`
        if ← next cfg reconnect statement then pure (.inl (rows, reslist))
        else pure (.inr (some reslist))

/-- `Statement::fetch_rows`. -/
def fetchRows (reconnect : Reconnect σ) (statement : StatementId) (rows : Int) :
    Driver σ (Option (List Hash)) := do
  if (← checkValid statement) ≠ 0 then pure none
  else iterate .exhausted (fetchRowsOnce cfg reconnect statement rows) cfg.fuel (rows, [])

/-- `Statement::get_output`. -/
def getOutput (statement : StatementId) : Driver σ (Option Hash) := do
  if (← checkValid statement) ≠ 0 then pure none
  else do
    let cmd ← getContext statement
    Command.readCols cfg cmd (some (← getModuleWrap statement).m.placeholders) (-1) false

/-- `Statement::fetch_columns`. -/
def fetchColumns (statement : StatementId) (rows : Int) : Driver σ (Option Hash) := do
  if (← checkValid statement) ≠ 0 then pure none
  else do
    let cmd ← getContext statement
    Command.readCols cfg cmd none rows false

/-- `Statement::affected_rows`. -/
def affectedRows (statement : StatementId) : Driver σ Int := do
  if (← checkValid statement) ≠ 0 then pure 0
  else do
    let cmd ← getContext statement
    return (← getCommand cmd).rowcount

/-- The texts of a list of strings. A value of another type is used as a string all the same. -/
def toPlaceholders : List QoreValue → Option (List Text)
  | [] => some []
  | .string s :: rest => (toPlaceholders rest).map (s :: ·)
  | _ => none

/-- `Statement::bind_placeholders`. -/
def bindPlaceholders (statement : StatementId) (l : List QoreValue) : Driver σ Int := do
  if (← checkValid statement) ≠ 0 then pure (-1)
  else match toPlaceholders l with
    | some placeholders => do
      modifyStatement statement fun m => { m with placeholders := placeholders }
      pure 0
    | none => halt .undefined

end Statement

end Sybase
