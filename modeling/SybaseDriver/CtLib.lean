/-
This file defines the interface to ct-lib, which is not part of the driver: the
constants the driver tests, the structures it passes, and the calls it makes.
A ct-lib is any function that answers the calls from a state of its own, so a
statement about every ct-lib is a statement about arbitrary return codes, result
types, rows and messages.
-/

import SybaseDriver.Value

namespace Sybase

/-! ### Constants -/

/-- `CS_RETCODE`. The codes the driver compares with have a name. -/
inductive Retcode where
  | succeed
  | fail
  | endResults
  | endData
  | rowFail
  | other (code : Int)
  deriving DecidableEq, Repr

/-- The number `%d` prints for a return code. -/
def Retcode.toInt : Retcode → Int
  | succeed => 1
  | fail => 0
  | endResults => -205
  | endData => -204
  | rowFail => -203
  | other code => code

instance : ToString Retcode := ⟨fun code => toString code.toInt⟩

/-- The result types `ct_results` announces. -/
inductive ResultType where
  | row
  | param
  | status
  | cmdDone
  | cmdSucceed
  | cmdFail
  | other (type : Int)
  deriving DecidableEq, Repr

/-- The number `%d` prints for a result type. -/
def ResultType.toInt : ResultType → Int
  | row => 4040
  | param => 4042
  | status => 4043
  | cmdDone => 4046
  | cmdSucceed => 4047
  | cmdFail => 4048
  | other type => type

instance : ToString ResultType := ⟨fun type => toString type.toInt⟩

/-- The data types of columns and parameters. -/
inductive Datatype where
  | char | longchar | varchar | text | unichar
  | binary | longbinary | varbinary | image
  | tinyint | smallint | int | bigint
  | real | float | bit
  | decimal | numeric | money | money4
  | datetime | datetime4 | bigdatetime | bigtime | date
  | other (type : Int)
  deriving DecidableEq, Repr

/-- `CS_FMT_UNUSED`, `CS_FMT_NULLTERM` and `CS_FMT_PADBLANK`. -/
inductive Format where
  | unused
  | nullterm
  | padblank
  deriving DecidableEq, Repr

/-! ### Structures -/

/-- `CS_DATAFMT_EX`: a column description, with the data type the server described. -/
structure Datafmt where
  name : Text
  datatype : Datatype
  originDatatype : Datatype
  usertype : Int
  maxlength : Int
  format : Format
  count : Int
  deriving DecidableEq, Repr

/-- What `ct_fetch` stores for one bound column: the bytes, their number, and the indicator,
which is -1 for SQL NULL. -/
structure Cell where
  value : List UInt8
  valueLen : Int
  indicator : Int
  deriving DecidableEq, Repr

/-- `CS_DATETIME`: days since 1900-01-01 and 300ths of a second since midnight. -/
structure CsDatetime where
  dtdays : Int
  dttime : Int
  deriving DecidableEq, Repr

/-- `CS_DATETIME4`: days since 1900-01-01 and minutes since midnight, both unsigned 16-bit. -/
structure CsDatetime4 where
  days : Nat
  minutes : Nat
  deriving DecidableEq, Repr

/-- The data a call of `ct_param` passes. -/
inductive ParamData where
  | null
  | chars (value : Text)
  | datetime (value : CsDatetime)
  | int64 (value : Int)
  | int32 (value : Int)
  | float (value : FloatValue)
  | floatOfInt (value : Int)
  | binary (bytes : List UInt8)
  deriving DecidableEq, Repr

/-- A client message queued for `ct_diag`. -/
structure ClientMsg where
  number : Int
  severity : Int
  msgstring : String
  osnumber : Int
  osstring : String
  deriving DecidableEq, Repr

/-- A server message queued for `ct_diag`. -/
structure ServerMsg where
  msgnumber : Int
  severity : Int
  state : Int
  line : Int
  svrname : String
  text : String
  deriving DecidableEq, Repr

/-! ### Calls -/

/-- A `CS_COMMAND` handle. Handles are numbered in the order of their allocation, so a number
never stands for two handles. -/
abbrev Handle := Nat

/-- A `CS_CONNECTION` handle. -/
abbrev ConnectionHandle := Nat

/-- The properties and options that `connection::init` sets. -/
inductive InitCall where
  | diagInit
  | loginTimeout
  | username
  | password
  | serverAddr
  | locAlloc
  | localeAll
  | localeCharset
  | locProp
  | chainxacts
  | textsize
  | dtConvfmt
  | charsetcnv
  deriving DecidableEq, Repr

/-- The calls of ct-lib. A command handle is `none` for a NULL pointer. -/
inductive CtCall where
  | conAlloc (connection : ConnectionHandle)
  | init (call : InitCall)
  | connect
  | conStatus
  | close (force : Bool)
  | conDrop (connection : Option ConnectionHandle)
  | cmdAlloc (cmd : Handle)
  | command (cmd : Option Handle) (sql : Text)
  | param (cmd : Option Handle) (name : Text) (datatype : Datatype) (format : Format)
      (maxlength : Int) (data : ParamData)
  | send (cmd : Option Handle)
  | results (cmd : Option Handle)
  | rowCount (cmd : Option Handle)
  | numData (cmd : Option Handle)
  | describe (cmd : Option Handle) (column : Nat)
  | bind (cmd : Option Handle) (column : Nat) (maxlength : Int)
  | fetch (cmd : Option Handle)
  | cancel (cmd : Option Handle)
  | cancelAll
  | cmdDrop (cmd : Option Handle)
  deriving DecidableEq, Repr

/-- The command handle a call is about. The outer option is `none` for a call that is not about
a command. -/
def CtCall.command? : CtCall → Option (Option Handle)
  | command cmd _ | param cmd _ _ _ _ _ | send cmd | results cmd | rowCount cmd | numData cmd
  | describe cmd _ | bind cmd _ _ | fetch cmd | cancel cmd | cmdDrop cmd => some cmd
  | _ => none

/-- The answer to a call: the return code, the values stored through the pointers passed to it
(each call stores some of them), and the messages it queues. -/
structure Reply where
  code : Retcode := .succeed
  resultType : ResultType := .cmdDone
  number : Int := 0
  datafmt : Datafmt := ⟨[], .int, .int, 0, 0, .unused, 0⟩
  cells : List Cell := []
  connected : Bool := true
  clientMsgs : List ClientMsg := []
  serverMsgs : List ServerMsg := []

/-- A ct-lib with the state `σ`. What the driver learns from the Datasource it belongs to and
does not change itself, the in-transaction flag, is read from the same state. -/
structure CtLib (σ : Type) where
  answer : CtCall → σ → Reply × σ
  activeTransaction : σ → Bool

/-- A ct-lib that gives the replies of a list, in their order whatever is called, and fails after
the last one. -/
def CtLib.scripted (activeTransaction : Bool) : CtLib (List Reply) where
  answer _ replies :=
    match replies with
    | [] => ({ code := .fail, connected := false }, [])
    | reply :: rest => (reply, rest)
  activeTransaction _ := activeTransaction

end Sybase
