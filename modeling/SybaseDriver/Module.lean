/-
This file defines the methods the driver registers with Qore: those of a
`SQLStatement`, from the template `DBModuleWrap`, and those of a Datasource, from
`sybase.cpp`. It defines the runs of the driver, in which Qore calls these methods
in any order, with any exceptions pending in the sink.
-/

import SybaseDriver.Statement

namespace Sybase

open Program Connection

variable {σ : Type} (cfg : Config σ)

/-- The reconnect of a request that Qore makes. -/
def topReconnect : Reconnect σ := closeAndReconnect cfg cfg.fuel

/-! ### SQLStatement methods -/

namespace DBModuleWrap

/-- A new `ModuleWrap`. -/
def create : ModuleWrap := ⟨Statement.create, none, false, none⟩

/-- `DBModuleWrap::module_wrap`, which creates the private data where there is none. -/
def moduleWrap (statement : StatementId) : Driver σ Unit := do
  match (← get).statements statement with
  | some _ => pure ()
  | none => do
    modify fun world => { world with
      statements := Function.update world.statements statement (some create) }
    Statement.checkOpen
    registerStatement cfg statement

/-- `StatementHelper::encodeSQL`. -/
def encodeSQL (str : Text) : Driver σ (Option Text) := convertEncoding cfg cfg.qoreEncoding str

/-- `DBModuleWrap::_prepare`. -/
def prepareIntern (statement : StatementId) (str : Text) (args : Option (List QoreValue)) :
    Driver σ Int := do
  moduleWrap cfg statement
  let query ← encodeSQL cfg str
  modifyModuleWrap statement fun wrap => { wrap with query := query, params := args }
  pure 0

/-- `DBModuleWrap::prepare`. -/
def prepare (statement : StatementId) (str : Text) (args : Option (List QoreValue)) :
    Driver σ Int := do
  moduleWrap cfg statement
  modifyModuleWrap statement fun wrap => { wrap with raw := false }
  prepareIntern cfg statement str args

/-- `DBModuleWrap::prepare_raw`. -/
def prepareRaw (statement : StatementId) (str : Text) : Driver σ Int := do
  moduleWrap cfg statement
  modifyModuleWrap statement fun wrap => { wrap with raw := true }
  prepareIntern cfg statement str none

/-- `DBModuleWrap::close`. -/
def close (statement : StatementId) : Driver σ Int := do
  let wrap ← getModuleWrap statement
  when wrap.m.valid do
    Statement.checkOpen
    deregisterStatement cfg statement
  modify fun world => { world with
    statements := Function.update world.statements statement none }
  Command.destroyOption cfg wrap.m.context
  pure 0

/-- `DBModuleWrap::bind`. -/
def bind (statement : StatementId) (l : List QoreValue) : Driver σ Int := do
  moduleWrap cfg statement
  modifyModuleWrap statement fun wrap => { wrap with params := some l }
  pure 0

/-- The `try` block of `DBModuleWrap::exec`. -/
def execBody (statement : StatementId) : Driver σ Int := do
  moduleWrap cfg statement
  let wrap ← getModuleWrap statement
  Statement.exec cfg (topReconnect cfg) statement wrap.query wrap.params wrap.raw

/-- `DBModuleWrap::exec`. -/
def exec (statement : StatementId) : Driver σ Int :=
  tryCatch (execBody cfg statement) fun error => do
    error.raise
    pure (-1)

/-- The `try` block of `DBModuleWrap::run`: nothing is done while an exception is pending. -/
def runBody {α : Type} (statement : StatementId) (failed : α) (method : Driver σ α) :
    Driver σ α := do
  if ← isException then pure failed
  else do
    moduleWrap cfg statement
    method

/-- `DBModuleWrap::run`, and the wrappers written like it: an error is raised in the sink. -/
def run {α : Type} (statement : StatementId) (failed : α) (method : Driver σ α) : Driver σ α :=
  tryCatch (runBody cfg statement failed method) fun error => do
    error.raise
    pure failed

/-- `DBModuleWrap::next`. -/
def next (statement : StatementId) : Driver σ Bool :=
  run cfg statement false (Statement.next cfg (topReconnect cfg) statement)

/-- `DBModuleWrap::fetch_row`. -/
def fetchRow (statement : StatementId) : Driver σ (Option Hash) :=
  run cfg statement none (Statement.fetchRow statement)

/-- `DBModuleWrap::fetch_rows`. -/
def fetchRows (statement : StatementId) (rows : Int) : Driver σ (Option (List Hash)) :=
  run cfg statement none (Statement.fetchRows cfg (topReconnect cfg) statement rows)

/-- `DBModuleWrap::fetch_columns`. -/
def fetchColumns (statement : StatementId) (rows : Int) : Driver σ (Option Hash) :=
  run cfg statement none (Statement.fetchColumns cfg statement rows)

/-- `DBModuleWrap::get_output`. -/
def getOutput (statement : StatementId) : Driver σ (Option Hash) :=
  run cfg statement none (Statement.getOutput cfg statement)

/-- `DBModuleWrap::affected_rows`. -/
def affectedRows (statement : StatementId) : Driver σ Int :=
  run cfg statement 0 (Statement.affectedRows statement)

/-- `DBModuleWrap::bind_placeholders`. -/
def bindPlaceholders (statement : StatementId) (l : List QoreValue) : Driver σ Int :=
  run cfg statement 0 (Statement.bindPlaceholders statement l)

/-- `DBModuleWrap::define`, `bind_values`, `describe` and `get_output_rows`, which do nothing. -/
def unsupported (statement : StatementId) : Driver σ Int := run cfg statement 0 (pure 0)

end DBModuleWrap

/-! ### Datasource methods -/

namespace Datasource

/-- `BEGIN_CALLBACK` and `END_CALLBACK`: an error is raised in the sink. A method that returns a
`QoreValue` gives the integer 0 then. -/
def callback {α : Type} (failed : α) (method : Driver σ α) : Driver σ α :=
  tryCatch method fun error => do
    error.raise
    pure failed

/-- The connection object of a new connection. -/
def newConnection : Connection := ⟨none, false, false, cfg.qoreEncoding, none⟩

/-- `sybase_open`. The connection is deleted where `init` fails. -/
def sybaseOpen : Driver σ Int :=
  callback (-1) do
    modify fun world => { world with
      connection := newConnection cfg
      connectionAborted := false }
    if ← isException then pure (-1)
    else if cfg.port ≠ 0 ∧ cfg.hostname.isNone then do
      raiseException "TDS-CONNECT-ERROR"
        (s!"port is set to {cfg.port}, but no hostname is set; both hostname " ++
          "and port must be set to override the interfaces file")
      pure (-1)
    else if cfg.port = 0 ∧ cfg.hostname.isSome then do
      let hostname := String.ofList (cfg.hostname.getD [])
      raiseException "TDS-CONNECT-ERROR"
        (s!"hostname is set to '{hostname}', but no port is set; both hostname and " ++
          "port must be set to override the interfaces file")
      pure (-1)
    else do
      let _ ← onThrow (init cfg (topReconnect cfg)) (Connection.destroy cfg)
      if ← isException then do
        Connection.destroy cfg
        pure (-1)
      else do
        modify fun world => { world with isOpen := true }
        pure 0

/-- `sybase_close`. -/
def sybaseClose : Driver σ Int := do
  modify fun world => { world with isOpen := false }
  Connection.destroy cfg
  modify fun world => { world with connection := newConnection cfg }
  pure 0

/-- `sybase_select`. -/
def sybaseSelect (sql : Text) (args : Option (List QoreValue)) : Driver σ QoreValue :=
  callback (.int 0) (select cfg (topReconnect cfg) sql args)

/-- `sybase_select_row`. -/
def sybaseSelectRow (sql : Text) (args : Option (List QoreValue)) : Driver σ QoreValue :=
  callback .nothing do
    match ← execRow cfg (topReconnect cfg) sql args with
    | .hash h => pure (.hash h)
    | .nothing => pure .nothing
    | value => do
      let typeName := value.getTypeName
      let raised ← isException
      when (raised = false) (raiseException "DBI-SELECT-ROW-ERROR"
        (s!"selectRow() returned type '{typeName}'; expecting a hash for a " ++ "single row"))
      pure .nothing

/-- `sybase_select_rows`. -/
def sybaseSelectRows (sql : Text) (args : Option (List QoreValue)) : Driver σ QoreValue :=
  callback (.int 0) do
    match ← execRows cfg (topReconnect cfg) sql args with
    | .hash h => pure (.list [.hash h])
    | value => pure value

/-- The count 0 for a request without a result. -/
def orZero (value : QoreValue) : QoreValue := if value.isPresent then value else .int 0

/-- `sybase_exec`. -/
def sybaseExec (sql : Text) (args : Option (List QoreValue)) : Driver σ QoreValue :=
  callback (.int 0) do
    let value ← exec cfg (topReconnect cfg) sql args
    pure (orZero value)

/-- `sybase_execRaw`. -/
def sybaseExecRaw (sql : Text) : Driver σ QoreValue :=
  callback (.int 0) do
    let value ← execRaw cfg (topReconnect cfg) sql
    pure (orZero value)

/-- `sybase_commit`. -/
def sybaseCommit : Driver σ Int := callback 0 (commit cfg)

/-- `sybase_rollback`. -/
def sybaseRollback : Driver σ Int := callback 0 (rollback cfg)

/-- `sybase_get_server_version`. -/
def sybaseGetServerVersion : Driver σ QoreValue :=
  callback (.int 0) (getServerVersion cfg (topReconnect cfg))

end Datasource

/-! ### Runs -/

/-- The methods of a `SQLStatement`. -/
inductive StatementOp where
  | prepare (str : Text) (args : Option (List QoreValue))
  | prepareRaw (str : Text)
  | close
  | bind (l : List QoreValue)
  | bindPlaceholders (l : List QoreValue)
  | exec
  | next
  | fetchRow
  | fetchRows (rows : Int)
  | fetchColumns (rows : Int)
  | getOutput
  | affectedRows
  | unsupported

/-- The methods of a Datasource. -/
inductive DatasourceOp where
  | open
  | close
  | select (sql : Text) (args : Option (List QoreValue))
  | selectRow (sql : Text) (args : Option (List QoreValue))
  | selectRows (sql : Text) (args : Option (List QoreValue))
  | exec (sql : Text) (args : Option (List QoreValue))
  | execRaw (sql : Text)
  | commit
  | rollback
  | getServerVersion

/-- The operations of the driver. -/
inductive Op where
  | statement (statement : StatementId) (op : StatementOp)
  | datasource (op : DatasourceOp)

/-- The program of a statement operation. -/
def StatementOp.run (statement : StatementId) : StatementOp → Driver σ Unit
  | prepare str args => do let _ ← DBModuleWrap.prepare cfg statement str args
  | prepareRaw str => do let _ ← DBModuleWrap.prepareRaw cfg statement str
  | close => do let _ ← DBModuleWrap.close cfg statement
  | bind l => do let _ ← DBModuleWrap.bind cfg statement l
  | bindPlaceholders l => do let _ ← DBModuleWrap.bindPlaceholders cfg statement l
  | exec => do let _ ← DBModuleWrap.exec cfg statement
  | next => do let _ ← DBModuleWrap.next cfg statement
  | fetchRow => do let _ ← DBModuleWrap.fetchRow cfg statement
  | fetchRows rows => do let _ ← DBModuleWrap.fetchRows cfg statement rows
  | fetchColumns rows => do let _ ← DBModuleWrap.fetchColumns cfg statement rows
  | getOutput => do let _ ← DBModuleWrap.getOutput cfg statement
  | affectedRows => do let _ ← DBModuleWrap.affectedRows cfg statement
  | unsupported => do let _ ← DBModuleWrap.unsupported cfg statement

/-- The program of a Datasource operation. -/
def DatasourceOp.run : DatasourceOp → Driver σ Unit
  | .open => do let _ ← Datasource.sybaseOpen cfg
  | .close => do let _ ← Datasource.sybaseClose cfg
  | .select sql args => do let _ ← Datasource.sybaseSelect cfg sql args
  | .selectRow sql args => do let _ ← Datasource.sybaseSelectRow cfg sql args
  | .selectRows sql args => do let _ ← Datasource.sybaseSelectRows cfg sql args
  | .exec sql args => do let _ ← Datasource.sybaseExec cfg sql args
  | .execRaw sql => do let _ ← Datasource.sybaseExecRaw cfg sql
  | .commit => do let _ ← Datasource.sybaseCommit cfg
  | .rollback => do let _ ← Datasource.sybaseRollback cfg
  | .getServerVersion => do let _ ← Datasource.sybaseGetServerVersion cfg

/-- Whether Qore calls a method of a Datasource: `open` on a closed one, the others on an open
one. -/
def DatasourceOp.isCalled (op : DatasourceOp) (world : World σ) : Bool :=
  match op with
  | .open => !world.isOpen
  | _ => world.isOpen

/-- The program of an operation. -/
def Op.run : Op → Driver σ Unit
  | .statement stmt op => op.run cfg stmt
  | .datasource op => do
    if op.isCalled (← get) then op.run cfg else halt .undefined

/-- A call Qore makes: an operation, with the exceptions pending in the sink. -/
structure Call where
  xsink : List QoreException
  op : Op

/-- The state in which a call begins. -/
def World.calling (world : World σ) (call : Call) : World σ := { world with xsink := call.xsink }

/-- How a call ends. -/
def Call.run (call : Call) (world : World σ) : Outcome Error Halt Unit × World σ :=
  call.op.run cfg (world.calling call)

/-- A Datasource, open or closed, on which nothing has been done yet. -/
structure World.IsStart (world : World σ) : Prop where
  log : world.log = []
  commands : world.commands = fun _ => none
  statements : world.statements = fun _ => none
  stmt : world.connection.stmt = none

/-- The states reached by calls that each meet a condition. A run goes on after a call that
returned or threw. -/
inductive Reachable (allowed : World σ → Call → Prop) : World σ → Prop where
  | start {world : World σ} (start : world.IsStart) : Reachable allowed world
  | call {world after : World σ} {call : Call} (reached : Reachable allowed world)
      (meets : allowed world call)
      (ends : call.run cfg world = (.ok (), after) ∨
        ∃ error, call.run cfg world = (.throw error, after)) : Reachable allowed after

end Sybase
