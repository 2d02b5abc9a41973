/-
This file defines the class `connection`: sending a command with a reconnect when
the connection is found lost, reading the results of a command, direct SQL, and
the reconnect itself. A reconnect executes commands, and one of those may find the
new connection lost again, so everything below takes the reconnect to use as a
parameter, and `closeAndReconnect` ties the knot at a bound on the nesting.
-/

import SybaseDriver.Rows
import SybaseDriver.ResultFactory

namespace Sybase

namespace Connection

open Program Command

variable {σ : Type} (cfg : Config σ)

/-! ### The registered statement -/

/-- `Statement::invalidate`. Without a command the smart pointer throws. -/
def invalidate (statement : StatementId) : Driver σ Unit := do
  modify fun world => world.record .other (.invalidate statement)
  let wrap ← getModuleWrap statement
  assert cfg .valid wrap.m.valid
  match wrap.m.context with
  | none => throw ⟨"TDS-SYBASE", "Not initialized"⟩
  | some cmd => do
    cancelDisconnect cfg cmd
    modifyStatement statement fun m => { m with valid := false }

/-- `connection::invalidateStatement`. -/
def invalidateStatement : Driver σ Unit := do
  match (← get).connection.stmt with
  | none => pure ()
  | some statement => do
    invalidate cfg statement
    modifyConnection fun connection => { connection with stmt := none }

/-- `connection::registerStatement`. -/
def registerStatement (statement : StatementId) : Driver σ Unit := do
  match (← get).connection.stmt with
  | none => pure ()
  | some registered => invalidate cfg registered
  modifyConnection fun connection => { connection with stmt := some statement }

/-- `connection::deregisterStatement`. -/
def deregisterStatement (statement : StatementId) : Driver σ Unit := do
  assert cfg .registered ((← get).connection.stmt = some statement)
  modifyConnection fun connection => { connection with stmt := none }

/-! ### The state of the connection -/

/-- `connection::ping`. -/
def ping : Driver σ Bool := do
  let reply ← ctCall cfg .conStatus
  pure (reply.code = .succeed && reply.connected)

/-- `wasInTransaction`. -/
def wasInTransaction : Driver σ Bool := do return cfg.lib.activeTransaction (← get).env

/-! ### Requests -/

/-- The reconnect a request uses: on the command that found the connection lost, with
`try_reconnect`. -/
abbrev Reconnect (σ : Type) := CommandId → Bool → Driver σ Int

section Requests

variable (reconnect : Reconnect σ)

/-- `sybase_query::init` in the two forms `setupCommand` calls. -/
def initQuery (cmdText : Text) (args : Option (List QoreValue)) (raw : Bool) :
    Driver σ (Option SybaseQuery) :=
  if raw then do
    assert cfg .other args.isNone
    pure (some (SybaseQuery.initRaw cmdText))
  else SybaseQuery.init cfg cmdText args

/-- Send a bound command: whether it was sent, or has to be set up again on a new connection. -/
def sendOrReconnect (cmd : CommandId) : Driver σ Bool :=
  tryCatch (do
      send cfg cmd
      pure true)
    fun error => do
      -- if the connection is down and we can reconnect transparently, then we do so
      if ← ping cfg then throw error
      else if (← reconnect cmd true) ≠ 0 then throw error
      else pure false

/-- One pass of the loop of `connection::setupCommand`. -/
def setupCommandOnce (cmdText : Text) (args : Option (List QoreValue)) (raw : Bool) :
    Driver σ (Unit ⊕ Option CommandId) := do
  match ← initQuery cfg cmdText args raw with
  | none => pure (.inr none)
  | some query => do
    let cmd ← create cfg
    let sent ← onThrow (do
        bindQuery cfg cmd query args
        sendOrReconnect cfg reconnect cmd)
      (destroy cfg cmd)
    if sent then pure (.inr (some cmd))
    else do
      destroy cfg cmd
      pure (.inl ())

/-- `connection::setupCommand`. -/
def setupCommand (cmdText : Text) (args : Option (List QoreValue)) (raw : Bool) :
    Driver σ (Option CommandId) :=
  iterate .exhausted (fun _ => setupCommandOnce cfg reconnect cmdText args raw) cfg.fuel ()

/-- `connection::readNextResult`. The flag `connection_reset` is never set. -/
def readNextResult (cmd : CommandId) : Driver σ ResType := do
  if ← isException then pure .resError
  else do
    let (rc, disconnect) ← Command.readNextResult cfg cmd
    if disconnect then do
      let _ ← reconnect cmd false
      pure .resError
    else pure rc

/-- What `command::readOutput` does with a result. -/
def readOutputResult (cmd : CommandId) (list cols singleRow : Bool) (rf : ResultFactory)
    (rt : ResType) : Driver σ (ResultFactory ⊕ QoreValue) :=
  match rt with
  | .resError => pure (.inr .nothing)
  | .resParam => do
    if (← retrColinfo cfg cmd) ≠ 0 then pure (.inr .nothing)
    else match (← getCommand cmd).query with
      | none => throw ⟨"TDS-SYBASE", "Not initialized"⟩
      | some query => do
        let qresult ← readRows cfg cmd (some query.placeholders) false
        if ← isException then pure (.inr .nothing) else pure (.inl (rf.addParams qresult))
  | .resRow => do
    let qresult ← readRowsOrCols cfg cmd none list cols singleRow
    if ← isException then pure (.inr .nothing) else pure (.inl (rf.add qresult))
  | .resEnd => pure (.inr rf.res)
  | .resDone => do
    let rowcount := (← getCommand cmd).rowcount
    pure (.inl (rf.done rowcount))
  | .resStatus => do
    if (← retrColinfo cfg cmd) ≠ 0 then pure (.inr .nothing)
    else do
      let _ ← readRowsOrCols cfg cmd none list false false
      modifyCommand cmd fun cmd => { cmd with colinfo := { cmd.colinfo with dirty := true } }
      pure (.inl rf)
  | rt => do
    let result := rt.toNat
    doException "TDS-EXEC-ERROR"
      s!"command::readOutput(): ct_results() returned unknown result value {result}"
    if ← isException then pure (.inr .nothing) else pure (.inl rf)

/-- One pass of the loop of `command::readOutput`. -/
def readOutputOnce (cmd : CommandId) (list cols singleRow : Bool) (rf : ResultFactory) :
    Driver σ (ResultFactory ⊕ QoreValue) := do
  let rt ← readNextResult cfg reconnect cmd
  if ← isException then pure (.inr .nothing)
  else readOutputResult cfg cmd list cols singleRow rf rt

/-- `command::readOutput`. -/
def readOutput (cmd : CommandId) (list cols singleRow : Bool) : Driver σ QoreValue :=
  iterate .exhausted (readOutputOnce cfg reconnect cmd list cols singleRow) cfg.fuel
    ResultFactory.empty

/-- `command::readOutput` as `execReadOutput` calls it: without a command there is an exception,
which is tested before the command is used. -/
def readOutputOption (cmd : Option CommandId) (list cols singleRow : Bool) : Driver σ QoreValue :=
  match cmd with
  | some cmd => readOutput cfg reconnect cmd list cols singleRow
  | none => do
    if ← isException then pure .nothing else halt .undefined

/-- `connection::execReadOutput`. -/
def execReadOutput (cmdText : Text) (args : Option (List QoreValue))
    (needList doBinding cols singleRow : Bool) : Driver σ QoreValue := do
  -- cancel any active statement
  invalidateStatement cfg
  let cmd ← setupCommand cfg reconnect cmdText args !doBinding
  ensure (do
      let result ← readOutputOption cfg reconnect cmd needList cols singleRow
      if ← isException then pure .nothing else pure result)
    (destroyOption cfg cmd)

/-- `QoreString::convertEncoding`, which raises an exception where it fails. -/
def convertEncoding (enc : Encoding) (sql : Text) : Driver σ (Option Text) :=
  match cfg.qore.convertEncoding enc sql with
  | some query => pure (some query)
  | none => do
    raiseException "ENCODING-CONVERSION-ERROR" "cannot convert the string"
    pure none

/-- The body `select`, `exec`, `execRaw`, `exec_rows` and `exec_row` share. -/
def request (sql : Text) (args : Option (List QoreValue))
    (needList doBinding cols singleRow : Bool) : Driver σ QoreValue := do
  match ← convertEncoding cfg (← get).connection.enc sql with
  | none => pure .nothing
  | some query => do
    let rv ← execReadOutput cfg reconnect query args needList doBinding cols singleRow
    let _ ← purgeMessages
    pure rv

/-- `connection::select`. -/
def select (sql : Text) (args : Option (List QoreValue)) : Driver σ QoreValue :=
  request cfg reconnect sql args false true true false

/-- `connection::exec`. -/
def exec (sql : Text) (args : Option (List QoreValue)) : Driver σ QoreValue :=
  request cfg reconnect sql args false true false false

/-- `connection::execRaw`. -/
def execRaw (sql : Text) : Driver σ QoreValue :=
  request cfg reconnect sql none false false false false

/-- `connection::exec_rows`. -/
def execRows (sql : Text) (args : Option (List QoreValue)) : Driver σ QoreValue :=
  request cfg reconnect sql args true true false false

/-- `connection::exec_row`. -/
def execRow (sql : Text) (args : Option (List QoreValue)) : Driver σ QoreValue :=
  request cfg reconnect sql args true true false true

/-- The text of `ver_str`. -/
def verStr : Text := text "begin tran select @@version commit tran"

/-- `connection::get_server_version`. -/
def getServerVersion : Driver σ QoreValue := do
  match ← execReadOutput cfg reconnect verStr none true true false false with
  | .nothing => pure .nothing
  | .hash ((_, .string version) :: _) => pure (.string (trimTrailing '\n' version))
  | .hash ((_, value) :: _) => pure value
  | .hash [] => halt .undefined
  | _ => do
    assert cfg .other false
    halt .undefined

/-! ### Connecting -/

/-- A call of `init` that raises an exception and returns -1 where it fails. -/
def initCall (call : CtCall) (err : String) (desc : Retcode → String) (next : Driver σ Int) :
    Driver σ Int := do
  let reply ← ctCall cfg call
  if reply.code ≠ .succeed then do
    raiseException err (desc reply.code)
    pure (-1)
  else next

/-- A call of `init` that throws the queued messages where it fails. -/
def initOption (call : InitCall) (desc : String) : Driver σ Unit := do
  let reply ← ctCall cfg (.init call)
  when (reply.code ≠ .succeed) (doException "TDS-INIT-ERROR" desc)

/-- `QoreString::find`: whether a text contains another. -/
def contains (part whole : Text) : Bool := whole.tails.any part.isPrefixOf

/-- The query for the collation of a server that is not Sybase. -/
def collStr : Text := text "select convert(varchar, serverproperty('collation')) as 'coll'"

/-- The query for the code page of a collation. -/
def cpStr : Text := text "select cast(collationproperty(%v, 'CodePage') as varchar) as 'cp'"

/-- Set the encoding of the connection from the code page of a collation. -/
def setCodePage (coll : Text) : Driver σ Unit :=
  tryCatch (do
      let holder ← execRow cfg reconnect cpStr (some [.string coll])
      if ← isException then do
        let _ ← purgeMessages
        modify fun world => { world with xsink := [] }
      else match holder with
        | .hash h =>
          match Hash.getKeyValue h (text "cp") with
          | .string cp =>
            when ((cp.head?.map Char.isDigit).getD false) (modifyConnection fun connection =>
              { connection with enc := cfg.qore.findCreate (text "WINDOWS-" ++ cp) })
          | .nothing | .boolean _ | .int _ | .float _ => pure ()
          | _ => halt .undefined
        | _ => pure ())
    fun _ => pure ()

/-- Set the encoding of the connection from the collation of the server. -/
def setCollation : Driver σ Unit := do
  match ← execRow cfg reconnect collStr none with
  | .hash h =>
    match Hash.getKeyValue h (text "coll") with
    | .string coll =>
      if contains (text "utf8") (toLower coll) then
        modifyConnection fun connection => { connection with enc := ⟨text "UTF-8", true⟩ }
      else setCodePage cfg reconnect coll
    | _ => do
      assert cfg .other false
      halt .undefined
  | _ => pure ()

/-- Whether the version of a server says that it is Sybase. -/
def isAdaptiveServer : QoreValue → Bool
  | .string str => contains (text "Adaptive Server") str
  | _ => false

/-- The part of `init` that finds out the encoding of the server. -/
def setEncoding : Driver σ Unit := do
  let version ← getServerVersion cfg reconnect
  if ← isException then pure ()
  else do
    when (isAdaptiveServer version)
      (modifyConnection fun connection => { connection with sybase := true })
    when ((← get).connection.sybase = false) (setCollation cfg reconnect)

/-- The part of `init` after `ct_connect`. -/
def initConnected : Driver σ Int := do
  modifyConnection fun connection => { connection with connected := true }
  -- chained transaction mode fits with Qore's transaction management
  initOption cfg .chainxacts "ct_options(CS_OPT_CHAINXACTS) failed"
  initOption cfg .textsize "ct_options(CS_OPT_TEXTSIZE) failed"
  initOption cfg .dtConvfmt "cs_dt_info(CS_DT_CONVFMT) failed"
  initOption cfg .charsetcnv "ct_options(CS_CHARSETCNV) failed"
  setEncoding cfg reconnect
  let _ ← purgeMessages
  if ← isException then pure (-1) else pure 0

/-- The part of `init` from `ct_connect` on. -/
def initConnect : Driver σ Int := do
  let reply ← ctCall cfg .connect
  when (reply.code ≠ .succeed)
    (doException "TDS-CTLIB-CONNECT-ERROR" s!"ct_connect() failed with error {reply.code}")
  initConnected cfg reconnect

/-- The part of `init` that sets the locale. -/
def initLocale : Driver σ Int :=
  if cfg.build.locale then
    initCall cfg (.init .locAlloc) "TDS-EXEC-EXCEPTION"
      (fun ret => s!"cs_loc_alloc() returned error {ret}") <|
    initCall cfg (.init .localeAll) "TDS-EXEC-EXCEPTION"
      (fun ret => s!"cs_locale(CS_LC_ALL) returned error {ret}") <|
    initCall cfg (.init .localeCharset) "TDS-EXEC-EXCEPTION"
      (fun ret =>
        let enc := String.ofList cfg.dbEncoding
        s!"cs_locale(CS_SYB_CHARSET, '{enc}') failed with error {ret}") <|
    initCall cfg (.init .locProp) "TDS-EXEC-EXCEPTION"
      (fun ret => s!"ct_con_props(CS_SET, CS_LOC_PROP) failed with error {ret}") <|
    initConnect cfg reconnect
  else initConnect cfg reconnect

/-- The part of `init` that sets the address of the server. -/
def initServerAddr : Driver σ Int :=
  match cfg.hostname with
  | some hostname =>
    if cfg.port ≠ 0 then
      let address := String.ofList (hostname ++ text " " ++ decimal cfg.port)
      initCall cfg (.init .serverAddr) "TDS-CTLIB-SET-SERVERADDR"
        (fun ret => s!"ct_con_props(CS_SERVERADDR, '{address}') failed with error {ret}") <|
      initLocale cfg reconnect
    else initLocale cfg reconnect
  | none => initLocale cfg reconnect

/-- The part of `init` that sets the password, if there is one. -/
def initPassword : Driver σ Int :=
  if cfg.password.isEmpty then initServerAddr cfg reconnect
  else
    initCall cfg (.init .password) "TDS-CTLIB-SET-PASSWORD"
      (fun ret => s!"ct_con_props(CS_PASSWORD) failed with error {ret}") <|
    initServerAddr cfg reconnect

/-- `connection::init`. -/
def init : Driver σ Int := do
  let world ← get
  assert cfg .other world.connection.mConnection.isNone
  modifyConnection fun connection => { connection with enc := cfg.qoreEncoding }
  let reply ← ctCall cfg (.conAlloc world.nextConnection)
  if reply.code ≠ .succeed then do
    raiseException "TDS-CTLIB-CREATE-CONNECTION"
      s!"ct_con_alloc() failed with error {reply.code}"
    pure (-1)
  else do
    modify fun state => { state with
      nextConnection := world.nextConnection + 1
      connection := { state.connection with mConnection := some world.nextConnection } }
    initCall cfg (.init .diagInit) "TDS-CTLIB-INIT-ERROR-HANDLING-ERROR"
      (fun ret => s!"ct_diag(CS_INIT) failed with error {ret}, unable to initialize inline " ++
        "error handling") <|
      initCall cfg (.init .loginTimeout) "TDS-CTLIB-SET-LOGIN-TIMEOUT"
        (fun ret => s!"ct_con_props(CS_LOGIN_TIMEOUT) failed with error {ret}") <|
      initCall cfg (.init .username) "TDS-CTLIB-SET-USERNAME"
        (fun ret => s!"ct_con_props(CS_USERNAME) failed with error {ret}") <|
      initPassword cfg reconnect

end Requests

/-! ### Reconnecting -/

/-- Run a program one level deeper in the log. The depth is no state of the driver: it is what it
was when the program ends in any way. -/
def nested {α : Type} (program : Driver σ α) : Driver σ α := fun world =>
  let ended := program { world with depth := world.depth + 1 }
  (ended.1, { ended.2 with depth := world.depth })

/-- `connection::closeAndReconnect` up to the call of `init`. -/
def closeConnection (cmd : CommandId) : Driver σ Unit := do
  -- cancel the current command
  cancelDisconnect cfg cmd
  -- cancel any current statement
  invalidateStatement cfg
  let _ ← ctCall cfg (.close true)
  modifyConnection fun connection => { connection with connected := false }
  discardMessages
  when (← wasInTransaction cfg) (raiseException "TDS-TRANSACTION-ERROR"
    ("connection to server lost while in a transaction; " ++ "transaction has been lost"))
  let _ ← ctCall cfg (.conDrop (← get).connection.mConnection)
  modifyConnection fun connection => { connection with mConnection := none }

/-- `connection::closeAndReconnect` from the call of `init` on. -/
def reopenConnection (reconnect : Reconnect σ) (tryReconnect : Bool) : Driver σ Int := do
  if (← nested (init cfg reconnect)) ≠ 0 then do
    -- mark the Datasource as closed
    modify fun world => { world with connectionAborted := true }
    pure (-1)
  else if !tryReconnect || (← wasInTransaction cfg) then pure (-1)
  else do
    -- clear any exceptions that have been ignored
    modify fun world => { world with xsink := [] }
    pure 0

/-- `connection::closeAndReconnect`, with a bound on the nesting of reconnects. -/
def closeAndReconnect : Nat → Reconnect σ
  | 0 => fun _ _ => halt .exhausted
  | bound + 1 => fun cmd tryReconnect => do
    modify fun world => world.record .other (.lost tryReconnect)
    closeConnection cfg cmd
    let result ← reopenConnection cfg (closeAndReconnect bound) tryReconnect
    modify fun world => world.record .other (.reconnected result)
    pure result

/-! ### Commit and rollback -/

/-- The loop of `connection::direct_execute` that reads the remaining results. -/
def drain (handle : Handle) : Driver σ Unit :=
  iterate .exhausted (fun _ => do
    let reply ← ctCallAt cfg .drain (.results (some handle))
    if reply.code = .succeed then pure (.inl ()) else pure (.inr ()))
    cfg.fuel ()

/-- The part of `connection::direct_execute` in which the canceller is armed. -/
def directExecuteSend (handle : Handle) (sqlText : Text) : Driver σ Unit := do
  let reply ← ctCallAt cfg .directExecute (.command (some handle) sqlText)
  when (reply.code ≠ .succeed) (doException "TDS-EXEC-ERROR" "ct_command() failed")
  let reply ← ctCallAt cfg .directExecute (.send (some handle))
  when (reply.code ≠ .succeed) (doException "TDS-EXEC-ERROR" "ct_send() failed")
  -- no results expected
  let reply ← ctCallAt cfg .directExecute (.results (some handle))
  when (reply.code ≠ .succeed) (doException "TDS-EXEC-ERROR"
    s!"connection::direct_execute(): ct_results() returned error code {reply.code}")
  when (reply.resultType ≠ .cmdSucceed) (doCheckException true "TDS-EXEC-ERROR"
    s!"connection::direct_execute(): ct_results() failed with result_type = {reply.resultType}")
  drain cfg handle

/-- `connection::direct_execute`. -/
def directExecute (sqlText : Text) : Driver σ Int := do
  assert cfg .other !sqlText.isEmpty
  let handle := (← get).nextHandle
  let reply ← ctCallAt cfg .directExecute (.cmdAlloc handle)
  modify fun world => { world with nextHandle := handle + 1 }
  when (reply.code ≠ .succeed) (doException "TDS-EXEC-ERROR" "ct_cmd_alloc() failed")
  ensure (do
      onThrow (directExecuteSend cfg handle sqlText) (do
        let _ ← ctCallAt cfg .directExecute (.cancel (some handle)))
      purgeMessages)
    (do
      let _ ← ctCallAt cfg .directExecute (.cmdDrop (some handle)))

/-- `connection::commit`. -/
def commit : Driver σ Int := do
  -- first clear any pending results in case a statement was in progress
  let _ ← ctCall cfg .cancelAll
  directExecute cfg (text "commit")

/-- `connection::rollback`. -/
def rollback : Driver σ Int := do
  -- first clear any pending results in case a statement was in progress
  let _ ← ctCall cfg .cancelAll
  directExecute cfg (text "rollback")

/-! ### The destructor -/

/-- The part of `connection::~connection` that releases the connection handle. -/
def dropConnection : Driver σ Unit := do
  let world ← get
  when world.connection.mConnection.isSome do
    when world.connection.connected do
      let ret ← ctCall cfg (.close false)
      when (ret.code ≠ .succeed) do
        let ret ← ctCall cfg (.close true)
        assert cfg .other (ret.code = .succeed)
    let ret ← ctCall cfg (.conDrop world.connection.mConnection)
    assert cfg .other (ret.code = .succeed)

/-- The destructor `connection::~connection`. An error that leaves a destructor stops the
process. -/
def destroy : Driver σ Unit := do
  tryCatch (invalidateStatement cfg) fun _ => halt .terminate
  dropConnection cfg

end Connection

end Sybase
