/-
This file defines the state the driver works on: the connection, the statements
and commands of a Datasource, the exception sink of the call in progress, and
ct-lib with its queue of messages. A command is an object with an identity of
its own, because a statement and the code that reads a result may hold the same
one. Every call of ct-lib is written to a log, so that what the driver did can be
stated about the log.
-/

import SybaseDriver.ProgramLogic
import SybaseDriver.CtLib

namespace Sybase

/-! ### Objects -/

/-- `sybase_query`: the command text sent to the server, one letter for each parameter (`v`, or
`d` for an inlined one), and the names of the placeholders. -/
structure SybaseQuery where
  mCmd : Text
  paramList : List Char
  placeholders : List Text
  deriving DecidableEq, Repr

/-- `Columns`: the descriptions of the columns of the current result. -/
structure Columns where
  dirty : Bool
  datafmt : List Datafmt
  deriving DecidableEq, Repr

/-- `Columns::need_refresh`. -/
def Columns.needRefresh (columns : Columns) : Bool := columns.dirty || columns.datafmt.isEmpty

/-- `output_value_buffer`: the bytes allocated, and what `ct_fetch` stored last. -/
structure OutputValueBuffer where
  allocated : Nat
  cell : Cell
  deriving DecidableEq, Repr

/-- `command::ResType`. -/
inductive ResType where
  | resNone
  | resParam
  | resStatus
  | resRow
  | resEnd
  | resDone
  | resError
  | resRetry
  | resCanceled
  deriving DecidableEq, Repr

/-- The number `%d` prints for a `ResType`. -/
def ResType.toNat : ResType → Nat
  | resNone => 0
  | resParam => 1
  | resStatus => 2
  | resRow => 3
  | resEnd => 4
  | resDone => 5
  | resError => 6
  | resRetry => 7
  | resCanceled => 8

/-- The result has rows that may be fetched. -/
def ResType.isFetchable : ResType → Bool
  | .resRow | .resParam | .resStatus => true
  | _ => false

/-- The next result may be asked for. -/
def ResType.waits (kind : ResType) : Prop := kind = .resDone ∨ kind = .resNone ∨ kind = .resRetry

instance (kind : ResType) : Decidable kind.waits := inferInstanceAs (Decidable (_ ∨ _))

/-- A `command` object. -/
structure Command where
  query : Option SybaseQuery
  mCmd : Option Handle
  rowcount : Int
  lastRes : ResType
  colinfo : Columns
  outBuffers : List OutputValueBuffer
  deriving DecidableEq, Repr

/-- The identity of a `command` object. -/
abbrev CommandId := Nat

/-- The identity of a Qore `SQLStatement`. -/
abbrev StatementId := Nat

/-- `ss::Statement`: the row buffered by `next`, the command, the placeholders, and whether the
statement may still be used. -/
structure Statement where
  execRes : Option Hash
  context : Option CommandId
  placeholders : List Text
  valid : Bool

/-- `DBModuleWrap::ModuleWrap`, the private data of a `SQLStatement`. -/
structure ModuleWrap where
  m : Statement
  query : Option Text
  raw : Bool
  params : Option (List QoreValue)

/-- `connection`. -/
structure Connection where
  mConnection : Option ConnectionHandle
  connected : Bool
  sybase : Bool
  enc : Encoding
  stmt : Option StatementId

/-! ### Errors -/

/-- `ss::Error`, which the driver throws. -/
structure Error where
  err : String
  desc : String
  deriving DecidableEq, Repr

/-- An exception raised in the exception sink. -/
structure QoreException where
  err : String
  desc : String
  deriving DecidableEq, Repr

/-- The assertions of the driver: `m_cmd` in `cancelIntern` and `cancelDisconnect`, `valid` in
`Statement::invalidate`, the registered statement in `deregisterStatement`, and all others. -/
inductive Assertion where
  | handle
  | valid
  | registered
  | other
  deriving DecidableEq, Repr

/-- The ways the process stops: a failed `assert`, an exception that leaves a destructor,
undefined behaviour, or a loop that reaches the bound of the run. -/
inductive Halt where
  | assertion (failed : Assertion)
  | terminate
  | undefined
  | exhausted
  deriving DecidableEq, Repr

/-! ### The log -/

/-- The place in the driver that makes a call, where the same call is made in several. -/
inductive Site where
  | clear
  | cancelDisconnect
  | cancel
  | readNextResult
  | directExecute
  | drain
  | other
  deriving DecidableEq, Repr

/-- What the log records: the calls of ct-lib with their answers, the values read from output
buffers, the invalidations of statements, and the beginning and the result of
`closeAndReconnect`. -/
inductive Event where
  | call (call : CtCall) (reply : Reply)
  | value (datafmt : Datafmt) (cell : Cell)
  | invalidate (statement : StatementId)
  | lost (tryReconnect : Bool)
  | reconnected (result : Int)

/-- An entry of the log. The depth is the number of reconnects in progress, so that the commands
a reconnect executes are told from those of the call that led to it. -/
structure Entry where
  depth : Nat
  site : Site
  event : Event

/-! ### The state -/

/-- The state of a Datasource with its connection and statements. The log and the sink have the
newest entry first. -/
structure World (σ : Type) where
  env : σ
  log : List Entry
  depth : Nat
  clientMsgs : List ClientMsg
  serverMsgs : List ServerMsg
  xsink : List QoreException
  commands : CommandId → Option Command
  nextCommand : CommandId
  nextHandle : Handle
  nextConnection : ConnectionHandle
  connection : Connection
  isOpen : Bool
  connectionAborted : Bool
  statements : StatementId → Option ModuleWrap

/-- The build of the driver: `DEBUG` with assertions, for Sybase's ct-lib or FreeTDS, with the
locale calls of ct-lib or without, and the column types its headers define. -/
structure Build where
  debug : Bool
  sybase : Bool
  locale : Bool
  bigint : Bool
  bigdatetime : Bool
  date : Bool

/-- The values of the `numeric_support` option. -/
inductive NumericSupport where
  | optimal
  | string
  | numeric
  deriving DecidableEq, Repr

/-- The functions of Qore the driver relies on. `none` is a call that raised an exception. -/
structure QoreLib where
  convertEncoding : Encoding → Text → Option Text
  concatNumeric : QoreValue → Text
  concatString : QoreValue → Option Text
  getInfo : DateTime → ZoneInfo → QoreTm
  format : DateTime → String
  findCreate : Text → Encoding

/-- What stays the same while the driver runs: ct-lib, Qore, the build, the parameters of the
Datasource, the driver options, and the bound on the iterations of a loop. -/
structure Config (σ : Type) where
  lib : CtLib σ
  qore : QoreLib
  build : Build
  password : Text
  hostname : Option Text
  port : Nat
  dbEncoding : Text
  qoreEncoding : Encoding
  numericSupport : NumericSupport
  serverTz : ZoneInfo
  optimizedDateBinds : Bool
  fuel : Nat

/-- A function of the driver. -/
abbrev Driver (σ α : Type) := Program (World σ) Error Halt α

/-! ### Primitives -/

section Primitives

variable {σ : Type} (cfg : Config σ)

open Program

/-- Write an event to the log. -/
def World.record (world : World σ) (site : Site) (event : Event) : World σ :=
  { world with log := ⟨world.depth, site, event⟩ :: world.log }

/-- ct-lib's answer to a call. A call on a NULL command handle fails. -/
def CtLib.reply (lib : CtLib σ) (call : CtCall) (env : σ) : Reply × σ :=
  if call.command? = some none then ({ code := .fail }, env) else lib.answer call env

/-- The state after a call of ct-lib. -/
def World.answered (world : World σ) (lib : CtLib σ) (site : Site) (call : CtCall) : World σ :=
  let answer := lib.reply call world.env
  { world.record site (.call call answer.1) with
    env := answer.2
    clientMsgs := world.clientMsgs ++ answer.1.clientMsgs
    serverMsgs := world.serverMsgs ++ answer.1.serverMsgs }

/-- Call ct-lib from a place in the driver that the log tells from others. -/
def ctCallAt (site : Site) (call : CtCall) : Driver σ Reply := fun world =>
  (.ok (cfg.lib.reply call world.env).1, world.answered cfg.lib site call)

/-- Call ct-lib. -/
abbrev ctCall (call : CtCall) : Driver σ Reply := ctCallAt cfg .other call

/-- `ExceptionSink::raiseException`. -/
def raiseException (err desc : String) : Driver σ Unit :=
  modify fun world => { world with xsink := ⟨err, desc⟩ :: world.xsink }

/-- Whether the exception sink holds an exception. -/
def isException : Driver σ Bool := do return !(← get).xsink.isEmpty

/-- `ss::Error::raise`: an exception that is there already is kept. -/
def Error.raise (error : Error) : Driver σ Unit := do
  let raised ← isException
  when (raised = false) (raiseException error.err error.desc)

/-- `assert`, which only a debug build evaluates. -/
def assert (assertion : Assertion) (condition : Bool) : Driver σ Unit :=
  when (cfg.build.debug && !condition) (halt (.assertion assertion))

/-- The command object with an identity. Using one that is gone is undefined. -/
def getCommand (id : CommandId) : Driver σ Command := do
  match (← get).commands id with
  | some cmd => pure cmd
  | none => halt .undefined

/-- Change a command object. -/
def modifyCommand (id : CommandId) (change : Command → Command) : Driver σ Unit :=
  modify fun world => { world with
    commands := Function.update world.commands id ((world.commands id).map change) }

/-- Change the connection object. -/
def modifyConnection (change : Connection → Connection) : Driver σ Unit :=
  modify fun world => { world with connection := change world.connection }

/-- The private data of a statement. Using a statement without it is undefined. -/
def getModuleWrap (id : StatementId) : Driver σ ModuleWrap := do
  match (← get).statements id with
  | some wrap => pure wrap
  | none => halt .undefined

/-- Change the private data of a statement. -/
def modifyModuleWrap (id : StatementId) (change : ModuleWrap → ModuleWrap) : Driver σ Unit :=
  modify fun world => { world with
    statements := Function.update world.statements id ((world.statements id).map change) }

/-- Change the `Statement` in the private data of a statement. -/
def modifyStatement (id : StatementId) (change : Statement → Statement) : Driver σ Unit :=
  modifyModuleWrap id fun wrap => { wrap with m := change wrap.m }

end Primitives

/-! ### Sample configurations -/

/-- A Qore that converts no encoding and knows no dates. -/
def QoreLib.plain : QoreLib where
  convertEncoding _ str := some str
  concatNumeric
    | .int value => decimal value.natAbs
    | _ => text "null"
  concatString
    | .string value => some value
    | _ => none
  getInfo _ _ := ⟨1970, 1, 1, 0, 0, 0, 0⟩
  format _ := "19700101000000"
  findCreate code := ⟨code, false⟩

/-- A driver for FreeTDS on a ct-lib. -/
def Config.sample (lib : CtLib σ) (debug : Bool) (fuel : Nat) : Config σ where
  lib := lib
  qore := QoreLib.plain
  build := ⟨debug, false, false, true, true, true⟩
  password := []
  hostname := none
  port := 0
  dbEncoding := text "utf8"
  qoreEncoding := ⟨text "UTF-8", true⟩
  numericSupport := .optimal
  serverTz := text "UTC"
  optimizedDateBinds := false
  fuel := fuel

/-- An open Datasource on which nothing has been done yet. -/
def World.opened (env : σ) : World σ where
  env := env
  log := []
  depth := 0
  clientMsgs := []
  serverMsgs := []
  xsink := []
  commands := fun _ => none
  nextCommand := 0
  nextHandle := 0
  nextConnection := 1
  connection := ⟨some 0, true, true, ⟨text "UTF-8", true⟩, none⟩
  isOpen := true
  connectionAborted := false
  statements := fun _ => none

end Sybase
