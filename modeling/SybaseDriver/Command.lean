/-
This file defines the class `command`: one `CS_COMMAND` handle, from its
allocation to its release, with the functions that bind parameters, announce
results, describe and bind columns, and fetch rows. A method works on the object
with a given identity, so two references to one command see the same fields.
-/

import SybaseDriver.Diagnostics

namespace Sybase

namespace Command

open Program Connection

variable {σ : Type} (cfg : Config σ)

/-! ### Handles -/

/-- The constructor `command::command`. -/
def create : Driver σ CommandId := do
  let world ← get
  let reply ← ctCall cfg (.cmdAlloc world.nextHandle)
  let cmd : Command := {
    query := none
    mCmd := if reply.code = .succeed then some world.nextHandle else none
    rowcount := -1
    lastRes := .resNone
    colinfo := ⟨true, []⟩
    outBuffers := [] }
  modify fun world => { world with
    commands := Function.update world.commands world.nextCommand (some cmd)
    nextCommand := world.nextCommand + 1
    nextHandle := world.nextHandle + 1 }
  when (reply.code ≠ .succeed) (raiseException "TDS-EXEC-EXCEPTION"
    s!"Sybase call ct_cmd_alloc() failed with error {reply.code}")
  pure world.nextCommand

/-- The cancel in `command::clear`: only an unfinished, not already canceled command is
canceled. -/
def cancelUnfinished (cmd : Command) : Driver σ Unit := do
  let world ← get
  when (cmd.lastRes ≠ .resCanceled ∧ cmd.lastRes ≠ .resEnd ∧ world.connectionAborted = false) do
    let reply ← ctCallAt cfg .clear (.cancel cmd.mCmd)
    when (reply.code ≠ .succeed) (throw ⟨"TDS-EXEC-EXCEPTION", "ct_cancel failed"⟩)

/-- `ct_cmd_drop` on the handle of a command, and the reset of the handle. -/
def dropHandle (id : CommandId) (cmd : Command) : Driver σ Unit := do
  let _ ← ctCall cfg (.cmdDrop cmd.mCmd)
  modifyCommand id fun cmd => { cmd with mCmd := none }

/-- `command::clear`. -/
def clear (id : CommandId) : Driver σ Unit := do
  let cmd ← getCommand id
  when cmd.mCmd.isSome do
    cancelUnfinished cfg cmd
    dropHandle cfg id cmd

/-- The destructor `command::~command` and the release of the object. An error that leaves a
destructor stops the process. -/
def destroy (id : CommandId) : Driver σ Unit := do
  tryCatch (clear cfg id) fun _ => halt .terminate
  modify fun world => { world with commands := Function.update world.commands id none }

/-- The destructor of a smart pointer to a command. -/
def destroyOption : Option CommandId → Driver σ Unit
  | some id => destroy cfg id
  | none => pure ()

/-- `command::cancelIntern`: -1 when the cancel failed and the connection should be closed. -/
def cancelIntern (site : Site) (id : CommandId) : Driver σ Int := do
  let cmd ← getCommand id
  assert cfg .handle cmd.mCmd.isSome
  let reply ← ctCallAt cfg site (.cancel cmd.mCmd)
  pure (if reply.code = .fail then -1 else 0)

/-- `command::cancelDisconnect`. -/
def cancelDisconnect (id : CommandId) : Driver σ Unit := do
  let cmd ← getCommand id
  assert cfg .handle cmd.mCmd.isSome
  let _ ← cancelIntern cfg .cancelDisconnect id
  dropHandle cfg id cmd

/-- `command::cancel`. -/
def cancel (id : CommandId) : Driver σ Int := do
  let cmd ← getCommand id
  if cmd.lastRes = .resEnd then pure 0
  else do
    modifyCommand id fun cmd => { cmd with lastRes := .resCanceled }
    cancelIntern cfg .cancel id

/-! ### Sending -/

/-- `command::send`. -/
def send (id : CommandId) : Driver σ Unit := do
  let cmd ← getCommand id
  let reply ← ctCall cfg (.send cmd.mCmd)
  when (reply.code ≠ .succeed) (doException "TDS-EXEC-ERROR" "ct_send() failed")

/-- `command::initiate_language_command`. -/
def initiateLanguageCommand (id : CommandId) (cmdText : Text) : Driver σ Unit := do
  assert cfg .other !cmdText.isEmpty
  let cmd ← getCommand id
  let reply ← ctCall cfg (.command cmd.mCmd cmdText)
  let sql := String.ofList cmdText
  when (reply.code ≠ .succeed) (doException "TDS-EXEC-ERROR"
    s!"ct_command(CS_LANG_CMD, '{sql}') failed with error {reply.code}")

/-! ### Binding parameters -/

/-- The fields of the `CS_DATAFMT` that differ between parameter types, and the data. -/
structure Binding where
  datatype : Datatype
  format : Format
  maxlength : Int
  data : ParamData
  deriving DecidableEq, Repr

/-- What `set_params` does with a value: bind it, bind it without looking at the return code and
leave, or throw. -/
inductive Bound where
  | param (binding : Binding)
  | lastParam (binding : Binding)
  | error (err desc : String)
  | raised (raised : QoreException) (err desc : String)

/-- Pad a number with zeros to a width, as `%04d` and `%02d` do. -/
def padded (width number : Nat) : Text :=
  List.replicate (width - (decimal number).length) '0' ++ decimal number

/-- The text a date is bound as: `%04d-%02d-%02dT%02d:%02d:%02d`, with microseconds if there are
any. -/
def dateText (info : QoreTm) : Text :=
  padded 4 info.year ++ text "-" ++ padded 2 info.month ++ text "-" ++ padded 2 info.day ++
    text "T" ++ padded 2 info.hour ++ text ":" ++ padded 2 info.minute ++ text ":" ++
    padded 2 info.second ++ (if info.us ≠ 0 then text "." ++ padded 6 info.us else [])

/-- A date bound as text in the time zone of the server. -/
def dateBinding (date : DateTime) : Binding :=
  let str := dateText (cfg.qore.getInfo date cfg.serverTz)
  ⟨.char, .unused, str.length, .chars str⟩

/-- The binding of SQL NULL. FreeTDS needs a type. -/
def nullBinding : Binding :=
  if cfg.build.sybase then ⟨.char, .unused, -1, .null⟩ else ⟨.char, .nullterm, 1, .null⟩

/-- The binding of an integer: a `CS_BIGINT` where ct-lib has one, else a `CS_INT` or a float. -/
def intBinding (value : Int) : Binding :=
  if cfg.build.bigint then ⟨.bigint, .unused, -1, .int64 value⟩
  else if value ≤ 2147483647 ∧ value ≥ -2147483647 then ⟨.int, .unused, -1, .int32 value⟩
  else ⟨.float, .unused, -1, .floatOfInt value⟩

/-- An explicit bind: a hash with a type and a value. A hash without a string type falls through
to the case of values that cannot be bound. -/
def bindHash (entries : Hash) : Bound :=
  match Hash.getKeyValue entries (text "type") with
  | .string type =>
    if type = text "date" then
      match Hash.getKeyValue entries (text "value") with
      | .date date => .lastParam (dateBinding cfg date)
      | value => .error "TDS-BIND-ERROR"
          ("expecting type 'date' for bind type 'date'; got type '" ++ value.getTypeName ++
            "' instead")
    else .error "TDS-BIND-ERROR" ("unknown explicit bind type '" ++ String.ofList type ++ "'")
  | _ => .error "TDS-BIND-ERROR" "do not know how to bind values of type 'hash'"

/-- The branches of `set_params` by the type of the value. -/
def bindValue (enc : Encoding) (value : QoreValue) : Bound :=
  match value with
  | .nothing | .null => .param (nullBinding cfg)
  | .string value =>
    match cfg.qore.convertEncoding enc value with
    | some str => .param ⟨.char, .unused, str.length, .chars str⟩
    | none => .raised ⟨"ENCODING-CONVERSION-ERROR", "cannot convert the string"⟩
        "TDS-EXEC-ERROR" "encoding"
  | .number digits => .param ⟨.char, .nullterm, digits.length + 1, .chars digits⟩
  | .date date =>
    if cfg.optimizedDateBinds then .param (dateBinding cfg date)
    else match Conversions.dateTimeToDatetime cfg.qore.format date with
      | .ok datetime => .param ⟨.datetime, .unused, -1, .datetime datetime⟩
      | .error raised => .raised raised "TDS-EXEC-ERROR" "can't convert date"
  | .int value => .param (intBinding cfg value)
  | .boolean value => .param ⟨.int, .unused, -1, .int64 (if value then 1 else 0)⟩
  | .float value => .param ⟨.float, .unused, -1, .float value⟩
  | .binary bytes => .param ⟨.binary, .unused, bytes.length, .binary bytes⟩
  | .hash entries => bindHash cfg entries
  | .list _ => .error "TDS-BIND-ERROR" "do not know how to bind values of type 'list'"

/-- `ct_param` for the parameter with an index. -/
def ctParam (id : CommandId) (index : Nat) (binding : Binding) : Driver σ Retcode := do
  let cmd ← getCommand id
  let reply ← ctCall cfg (.param cmd.mCmd (SybaseQuery.parName (index + 1)) binding.datatype
    binding.format binding.maxlength binding.data)
  pure reply.code

/-- The error text for a failed `ct_param`. -/
def paramError (value : QoreValue) (index : Nat) (code : Retcode) : String :=
  if value.isNullOrNothing then
    s!"ct_param() for 'null' failed for parameter {index} with error {code}"
  else s!"ct_param() for binary parameter {index} failed with error"

/-- The loop of `command::set_params`, from the parameter with an index. -/
def setParamsFrom (id : CommandId) (args : Option (List QoreValue)) :
    List Char → Nat → Driver σ Unit
  | [], _ => pure ()
  | 'd' :: rest, index => setParamsFrom id args rest (index + 1)
  | _ :: rest, index => do
    let value := SybaseQuery.argument args index
    let world ← get
    match bindValue cfg world.connection.enc value with
    | .param binding => do
      let code ← ctParam cfg id index binding
      when (code ≠ .succeed) (doException "TDS-EXEC-ERROR" (paramError value index code))
      setParamsFrom id args rest (index + 1)
    | .lastParam binding => do
      let _ ← ctParam cfg id index binding
      pure ()
    | .error err desc => doException err desc
    | .raised raised err desc => do
      raiseException raised.err raised.desc
      throw ⟨err, desc⟩

/-- `command::set_params`. -/
def setParams (id : CommandId) (query : SybaseQuery) (args : Option (List QoreValue)) :
    Driver σ Unit :=
  setParamsFrom cfg id args query.paramList 0

/-- `command::bind_query`. -/
def bindQuery (id : CommandId) (query : SybaseQuery) (args : Option (List QoreValue)) :
    Driver σ Unit := do
  modifyCommand id fun cmd => { cmd with query := some query }
  initiateLanguageCommand cfg id query.mCmd
  when args.isSome (setParams cfg id query args)

/-! ### Announcing results -/

/-- The row count of a `CS_CMD_DONE`. -/
def readRowCount (id : CommandId) : Driver σ ResType := do
  modifyCommand id fun cmd => { cmd with rowcount := -1 }
  let cmd ← getCommand id
  let reply ← ctCall cfg (.rowCount cmd.mCmd)
  if reply.code ≠ .succeed then
    doException "TDS-EXEC-EXCEPTION" s!"ct_res_info() failed with error {reply.code}"
    let _ ← purgeMessages
    pure .resError
  else do
    modifyCommand id fun cmd => { cmd with
      rowcount := reply.number
      colinfo := { cmd.colinfo with dirty := true } }
    pure .resDone

/-- What `read_next_result1` does with an announced result. -/
def announced (id : CommandId) (type : ResultType) : Driver σ ResType :=
  match type with
  | .cmdDone => readRowCount cfg id
  | .cmdSucceed => pure .resRetry
  | .cmdFail => do
    doException "TDS-EXEC-ERROR" "command::read_output(): SQL command failed"
    pure .resError
  | .param => pure .resParam
  | .status => pure .resStatus
  | .row => pure .resRow
  | .other type => do
    doException "TDS-EXEC-ERROR"
      s!"command::read_output(): ct_results() returned unexpected result type {type}"
    pure .resError

/-- `command::read_next_result1`, with the new value of `disconnect`. -/
def readNextResult1 (id : CommandId) (disconnect : Bool) : Driver σ (ResType × Bool) := do
  if ← isException then pure (.resError, disconnect)
  else do
    let cmd ← getCommand id
    -- results are read only in these states
    if cmd.lastRes ≠ .resDone ∧ cmd.lastRes ≠ .resNone ∧ cmd.lastRes ≠ .resRetry then
      pure (cmd.lastRes, disconnect)
    else do
      let reply ← ctCall cfg (.results cmd.mCmd)
      match reply.code with
      | .endResults => pure (.resEnd, disconnect)
      | .fail => do
        let failed ← cancelIntern cfg .readNextResult id
        raiseException "TDS-EXEC-ERROR"
          "command::read_output(): ct_results() failed with CS_FAIL, command canceled"
        pure (.resError, disconnect || failed ≠ 0)
      | .succeed => do
        let res ← announced cfg id reply.resultType
        pure (res, disconnect)
      | code => do
        doException "TDS-EXEC-ERROR"
          s!"command::read_output(): ct_results() returned error code {code}"
        pure (.resError, disconnect)

/-- `command::read_next_result`, with the value of `disconnect`. -/
def readNextResult (id : CommandId) : Driver σ (ResType × Bool) :=
  iterate .exhausted (fun disconnect => do
    let (res, disconnect) ← readNextResult1 cfg id disconnect
    modifyCommand id fun cmd => { cmd with lastRes := res }
    if res = .resRetry then pure (.inl disconnect) else pure (.inr (res, disconnect)))
    cfg.fuel false

/-! ### Describing columns -/

/-- `command::get_column_count`. -/
def getColumnCount (id : CommandId) : Driver σ Nat := do
  let cmd ← getCommand id
  let reply ← ctCall cfg (.numData cmd.mCmd)
  when (reply.code ≠ .succeed)
    (doException "TDS-EXEC-EXCEPTION" s!"ct_res_info() failed with error {reply.code}")
  when (reply.number ≤ 0) (doException "TDS-EXEC-EXCEPTION" "ct_res_info() failed")
  pure reply.number.toNat

/-- The changes `get_row_description` makes to a described column. -/
def adjust (isMultiByte : Bool) (described : Datafmt) : Datafmt :=
  let datafmt := { described with count := 1, originDatatype := described.datatype }
  match described.datatype with
  -- decimal types are mapped to strings
  | .decimal | .numeric => { datafmt with maxlength := 50, datatype := .char, format := .padblank }
  | .unichar => { datafmt with datatype := .text, format := .nullterm }
  | .char => { datafmt with format := .padblank }
  | .longchar | .varchar | .text =>
    { datafmt with
      maxlength :=
        if isMultiByte then toInt32 (datafmt.maxlength * 2) else datafmt.maxlength
      format := .nullterm }
  | .float =>
    -- FreeTDS describes decimal columns as floats of this user type
    if cfg.build.sybase = false ∧ described.usertype = 26 then
      { datafmt with maxlength := 50, datatype := .char, format := .nullterm }
    else { datafmt with format := .unused }
  | .money | .money4 => { datafmt with datatype := .float, format := .unused }
  | _ => { datafmt with format := .unused }

/-- `command::get_row_description`: describe the columns from an index on. -/
def getRowDescription (id : CommandId) : Nat → Nat → Driver σ Int
  | 0, _ => pure 0
  | remaining + 1, index => do
    let cmd ← getCommand id
    let reply ← ctCall cfg (.describe cmd.mCmd (index + 1))
    if reply.code ≠ .succeed then
      let column := index + 1
      let count := index + remaining + 1
      doException "TDS-EXEC-ERROR"
        s!"ct_describe() failed with error {reply.code} on column {column} / {count}"
      pure (-1)
    else do
      let world ← get
      modifyCommand id fun cmd => { cmd with
        colinfo := { cmd.colinfo with
          datafmt := cmd.colinfo.datafmt ++
            [adjust cfg world.connection.enc.isMultiByte reply.datafmt] } }
      getRowDescription id remaining (index + 1)

/-- The constructor of `output_value_buffer`: at least 8 bytes are allocated. -/
def newBuffer (size : Int) : OutputValueBuffer :=
  let size := if toUInt32 size < 7 then 7 else toUInt32 size
  { allocated := (toUInt32 (size + 1)).toNat, cell := ⟨[], 0, 0⟩ }

/-- The loop of `command::setup_output_buffers`, from the column with an index. -/
def bindColumns (id : CommandId) : List Datafmt → Nat → Driver σ Int
  | [], _ => pure 0
  | datafmt :: rest, index => do
    modifyCommand id fun cmd => { cmd with
      outBuffers := cmd.outBuffers ++ [newBuffer datafmt.maxlength] }
    let cmd ← getCommand id
    let reply ← ctCall cfg (.bind cmd.mCmd (index + 1) datafmt.maxlength)
    if reply.code ≠ .succeed then
      doException "TDS-EXEC-ERROR" s!"ct_bind() failed with error {reply.code}"
      pure (-1)
    else bindColumns id rest (index + 1)

/-- `command::setup_output_buffers`. -/
def setupOutputBuffers (id : CommandId) (descriptions : List Datafmt) : Driver σ Int := do
  modifyCommand id fun cmd => { cmd with outBuffers := [] }
  bindColumns cfg id descriptions 0

/-- `command::retr_colinfo`: -1 is an exception. -/
def retrColinfo (id : CommandId) : Driver σ Int := do
  let columns ← getColumnCount cfg id
  if ← isException then pure (-1)
  else do
    modifyCommand id fun cmd => { cmd with colinfo := ⟨true, []⟩ }
    let _ ← getRowDescription cfg id columns 0
    let cmd ← getCommand id
    let _ ← setupOutputBuffers cfg id cmd.colinfo.datafmt
    modifyCommand id fun cmd => { cmd with colinfo := { cmd.colinfo with dirty := false } }
    pure 0

/-- `command::ensure_colinfo`. -/
def ensureColinfo (id : CommandId) : Driver σ Int := do
  let cmd ← getCommand id
  if cmd.colinfo.needRefresh then retrColinfo cfg id else pure 0

/-! ### Fetching -/

/-- ct-lib stores the cells of a row in the bound buffers. -/
def storeCells : List OutputValueBuffer → List Cell → List OutputValueBuffer
  | buffer :: buffers, cell :: cells => { buffer with cell := cell } :: storeCells buffers cells
  | buffers, _ => buffers

/-- `command::fetch_row_into_buffers`. -/
def fetchRowIntoBuffers (id : CommandId) : Driver σ Bool := do
  let cmd ← getCommand id
  let reply ← ctCall cfg (.fetch cmd.mCmd)
  match reply.code with
  | .succeed => do
    modifyCommand id fun cmd => { cmd with outBuffers := storeCells cmd.outBuffers reply.cells }
    when (reply.number ≠ 1) (doException "TDS-EXEC-ERROR"
      s!"ct_fetch() returned {reply.number} rows (expected 1)")
    pure true
  | .endData => do
    -- all data read, reading results may go on
    modifyCommand id fun cmd => { cmd with lastRes := .resNone }
    pure false
  | .rowFail => do
    doException "TDS-EXEC-EXCEPTION"
      s!"ct_fetch() returned CS_ROW_FAIL; {reply.number} rows read"
    pure false
  | code => do
    doException "TDS-EXEC-EXCEPTION" s!"ct_fetch() returned errno {code}"
    pure false

end Command

end Sybase
